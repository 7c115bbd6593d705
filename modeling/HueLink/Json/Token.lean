-- The signs and words a JSON text is made of. The text is read character by character: a quote
-- opens a text that runs to the next bare quote, a digit or a minus opens a number, a letter opens
-- a word, and blanks only separate.
import HueLink.Json.Basic

namespace HueLink.Json

/-- One sign, text, number or word of a JSON text. -/
inductive Token where
  | openObject | closeObject | openArray | closeArray | colon | comma
  /-- A text, a number, or one of the three words. -/
  | scalar (v : Json)
deriving Repr

/-! ## Numbers -/

/-- The value of a list of decimal digits. -/
def decimal (ds : List Char) : Nat := ds.foldl (fun n c => 10 * n + (c.toNat - 48)) 0

/-- The greatest whole number that 64 bits hold. -/
def maxWord : Nat := Nat.pow 2 64 - 1

/-- The leading digits of a number that 64 bits hold, and how many digits are left over. -/
def leading : List Char → Nat → Nat × Nat
  | [], n => (n, 0)
  | c :: rest, n =>
    let next := 10 * n + (c.toNat - 48)
    if next ≤ maxWord then leading rest next else (n, rest.length + 1)

/-- A significand scaled by a power of ten: both are doubles, and so is the result. The scaling goes
in steps of `10 ^ 308` where a single power would be out of range; a significand of 64 bits is zero
after the second of them. -/
def scaleBy : Nat → Double → Int → Option Double
  | 0, _, _ => none
  | fuel + 1, x, e =>
    if x.isZero then some x
    else if e.natAbs ≤ 308 then do
      let p ← Double.nearest (Nat.pow 10 e.natAbs) 1
      if e < 0 then x.dividedBy p else x.times p
    else if e < 0 then do
      let p ← Double.nearest (Nat.pow 10 308) 1
      scaleBy fuel (← x.dividedBy p) (e + 308)
    else none

/-- The double that digits before the point, digits after it and an exponent stand for. Of the
digits only as many count as 64 bits hold. -/
def real? (negative : Bool) (whole fraction : List Char) (e : Int) : Option Json := do
  let (n, unreadWhole) := leading whole 0
  let (m, unread) := leading fraction n
  let read := fraction.length - unread
  let shift : Int := e + unreadWhole - read
  let x ← Double.nearest m 1
  let y ← scaleBy 4 x shift
  pure (real ⟨negative, y.mantissa, y.exponent⟩)

/-- A number without fraction and exponent: whole if 64 bits hold it, and a double otherwise, as is
minus zero. -/
def whole? (negative : Bool) (ds : List Char) : Option Json :=
  let n := decimal ds
  if negative then
    if 0 < n ∧ n ≤ Nat.pow 2 63 then some (int (-(n : Int))) else real? true ds [] 0
  else if n ≤ maxWord then some (int n) else real? false ds [] 0

/-- The exponent part of a number, `e` and digits with or without a sign. -/
def exponent? : List Char → Option Int
  | [] => some 0
  | e :: rest =>
    if e = 'e' ∨ e = 'E' then
      let (negative, ds) := match rest with
        | '-' :: ds => (true, ds)
        | '+' :: ds => (false, ds)
        | ds => (false, ds)
      if ds.isEmpty ∨ !ds.all Char.isDigit then none
      else some (if negative then -(decimal ds : Int) else decimal ds)
    else none

/-- A number as it is written: no leading zero, digits on both sides of a point. -/
def number? (cs : List Char) : Option Json :=
  let (negative, cs) := match cs with
    | '-' :: cs => (true, cs)
    | cs => (false, cs)
  let ds := cs.takeWhile Char.isDigit
  let rest := cs.dropWhile Char.isDigit
  if ds.isEmpty ∨ (ds.head? = some '0' ∧ 1 < ds.length) then none
  else match rest with
    | [] => whole? negative ds
    | '.' :: rest =>
      let fraction := rest.takeWhile Char.isDigit
      if fraction.isEmpty then none
      else (exponent? (rest.dropWhile Char.isDigit)).bind (real? negative ds fraction)
    | rest => (exponent? rest).bind (real? negative ds [])

/-- One of the three words. -/
def word? (cs : List Char) : Option Json :=
  if cs = "null".toList then some null
  else if cs = "true".toList then some (bool true)
  else if cs = "false".toList then some (bool false)
  else none

/-! ## Characters to tokens -/

/-- What the characters read last belong to. What is held of a text, a number or a word is held last
character first. -/
inductive Mode where
  | between
  | number (held : List Char)
  | word (held : List Char)
  | text (held : List Char)
  /-- After a backslash in a text. -/
  | escape (held : List Char)
  /-- In the four digits of a code unit; a first half of a pair may have gone before. -/
  | unit (held : List Char) (high : Option Nat) (digits : List Nat)
  /-- After the first half of a pair, which its second half has to follow. -/
  | pairEscape (held : List Char) (high : Nat)
  | pairUnit (held : List Char) (high : Nat)

/-- The tokens read so far, last one first, and where the reading stands. -/
structure Lexer where
  tokens : List Token
  mode : Mode

/-- A blank between tokens. -/
def isBlank (c : Char) : Bool := c == ' ' || c == '\t' || c == '\n' || c == '\r'

/-- A character of a number. -/
def isNumeric (c : Char) : Bool :=
  c.isDigit || c == '-' || c == '+' || c == '.' || c == 'e' || c == 'E'

/-- The value of a digit to the base 16. -/
def hexValue (c : Char) : Option Nat :=
  if c.isDigit then some (c.toNat - 48)
  else if 'a' ≤ c ∧ c ≤ 'f' then some (c.toNat - 87)
  else if 'A' ≤ c ∧ c ≤ 'F' then some (c.toNat - 55)
  else none

/-- The character that a backslash and a letter stand for. -/
def escaped? (c : Char) : Option Char :=
  if c = '"' ∨ c = '\\' ∨ c = '/' then some c
  else if c = 'b' then some '\x08'
  else if c = 'f' then some '\x0c'
  else if c = 'n' then some '\n'
  else if c = 'r' then some '\r'
  else if c = 't' then some '\t'
  else none

/-- What a code unit of four digits adds to a text. A first half of a pair waits for the second, and
a second half without a first is an error. -/
def codeUnit (held : List Char) : Option Nat → Nat → Option Mode
  | none, u =>
    if 0xD800 ≤ u ∧ u < 0xDC00 then some (.pairEscape held u)
    else if 0xDC00 ≤ u ∧ u < 0xE000 then none
    else some (.text (Char.ofNat u :: held))
  | some high, u =>
    if 0xDC00 ≤ u ∧ u < 0xE000 then
      some (.text (Char.ofNat (0x10000 + (high - 0xD800) * 0x400 + (u - 0xDC00)) :: held))
    else none

namespace Lexer

/-- A number or a word ends where something else begins. -/
def close (l : Lexer) : Option Lexer :=
  match l.mode with
  | .between => some l
  | .number held => (number? held.reverse).map fun v => ⟨.scalar v :: l.tokens, .between⟩
  | .word held => (word? held.reverse).map fun v => ⟨.scalar v :: l.tokens, .between⟩
  | _ => none

/-- A character that stands between tokens or begins one. -/
def start (l : Lexer) (c : Char) : Option Lexer :=
  if isBlank c then some l
  else if c = '\x7b' then some ⟨.openObject :: l.tokens, .between⟩
  else if c = '\x7d' then some ⟨.closeObject :: l.tokens, .between⟩
  else if c = '[' then some ⟨.openArray :: l.tokens, .between⟩
  else if c = ']' then some ⟨.closeArray :: l.tokens, .between⟩
  else if c = ':' then some ⟨.colon :: l.tokens, .between⟩
  else if c = ',' then some ⟨.comma :: l.tokens, .between⟩
  else if c = '"' then some ⟨l.tokens, .text []⟩
  else if c.isDigit || c == '-' then some ⟨l.tokens, .number [c]⟩
  else if c.isLower then some ⟨l.tokens, .word [c]⟩
  else none

/-- One character more. -/
def step (l : Lexer) (c : Char) : Option Lexer :=
  match l.mode with
  | .between => l.start c
  | .number held =>
    if isNumeric c then some ⟨l.tokens, .number (c :: held)⟩ else l.close.bind (·.start c)
  | .word held =>
    if c.isLower then some ⟨l.tokens, .word (c :: held)⟩ else l.close.bind (·.start c)
  | .text held =>
    if c = '"' then some ⟨.scalar (.str (String.ofList held.reverse)) :: l.tokens, .between⟩
    else if c = '\\' then some ⟨l.tokens, .escape held⟩
    else if c.toNat < 0x20 then none
    else some ⟨l.tokens, .text (c :: held)⟩
  | .escape held =>
    if c = 'u' then some ⟨l.tokens, .unit held none []⟩
    else (escaped? c).map fun d => ⟨l.tokens, .text (d :: held)⟩
  | .unit held high digits =>
    (hexValue c).bind fun d =>
      if digits.length < 3 then some ⟨l.tokens, .unit held high (digits ++ [d])⟩
      else (codeUnit held high ((digits ++ [d]).foldl (fun n d => 16 * n + d) 0)).map
        fun mode => ⟨l.tokens, mode⟩
  | .pairEscape held high => if c = '\\' then some ⟨l.tokens, .pairUnit held high⟩ else none
  | .pairUnit held high => if c = 'u' then some ⟨l.tokens, .unit held (some high) []⟩ else none

end Lexer

/-- The tokens of a text, or `none` if it has a character that no token can have. -/
def tokens? (cs : List Char) : Option (List Token) := do
  let l ← cs.foldlM Lexer.step ⟨[], .between⟩
  return (← l.close).tokens.reverse

end HueLink.Json
