-- Reading a JSON text. The tokens drive a reader that holds the containers still open, innermost
-- first, and what may come next. A text is accepted if it is one value and nothing else.
import HueLink.Json.Token

namespace HueLink.Json

/-- An open container with what it holds so far; in an object, also the key whose value is read. -/
inductive Frame where
  | items (before : List Json)
  | members (before : List (String × Json)) (key : String)

/-- What has to come next. -/
inductive Want where
  | value
  /-- The first item of an array just opened, or its end. -/
  | item
  /-- The first key of an object just opened, or its end. -/
  | key
  /-- A key after a comma. -/
  | nextKey (before : List (String × Json))
  /-- The colon after a key. -/
  | colon (before : List (String × Json)) (key : String)
  /-- A comma or the end of the innermost container, after a value; or the end of the text. -/
  | more (v : Json)

/-- The containers still open, innermost first, and what has to come next. -/
structure Reader where
  frames : List Frame
  want : Want

/-- How deep containers may lie in each other. -/
def maxDepth : Nat := 127

namespace Reader

/-- A container is opened inside the open ones, unless it would lie too deep. -/
def enter (frames : List Frame) (want : Want) : Option Reader :=
  if frames.length < maxDepth then some ⟨frames, want⟩ else none

/-- A value has to begin here. -/
def value (frames : List Frame) : Token → Option Reader
  | .scalar v => some ⟨frames, .more v⟩
  | .openArray => enter frames .item
  | .openObject => enter frames .key
  | _ => none

/-- A key has to stand here. -/
def key (frames : List Frame) (before : List (String × Json)) : Token → Option Reader
  | .scalar (.str k) => some ⟨frames, .colon before k⟩
  | _ => none

/-- A value has ended inside the open containers. -/
def separate (v : Json) : List Frame → Token → Option Reader
  | .items before :: frames, .comma => some ⟨.items (before ++ [v]) :: frames, .value⟩
  | .items before :: frames, .closeArray => some ⟨frames, .more (.arr (before ++ [v]))⟩
  | .members before k :: frames, .comma => some ⟨frames, .nextKey (before ++ [(k, v)])⟩
  | .members before k :: frames, .closeObject => some ⟨frames, .more (.obj (before ++ [(k, v)]))⟩
  | _, _ => none

/-- One token more. -/
def step (r : Reader) (t : Token) : Option Reader :=
  match r.want, t with
  | .value, t => value r.frames t
  | .item, .closeArray => some ⟨r.frames, .more (.arr [])⟩
  | .item, t => value (.items [] :: r.frames) t
  | .key, .closeObject => some ⟨r.frames, .more (.obj [])⟩
  | .key, t => key r.frames [] t
  | .nextKey before, t => key r.frames before t
  | .colon before k, .colon => some ⟨.members before k :: r.frames, .value⟩
  | .colon _ _, _ => none
  | .more v, t => separate v r.frames t

/-- The value read, if the text may end here. -/
def result (r : Reader) : Option Json :=
  match r.frames, r.want with
  | [], .more v => some v
  | _, _ => none

end Reader

/-- The value that tokens spell. -/
def ofTokens? (ts : List Token) : Option Json := do
  (← ts.foldlM Reader.step ⟨[], .value⟩).result

/-- The value that a text spells. -/
def parse? (s : String) : Option Json := (tokens? s.toList).bind ofTokens?

end HueLink.Json
