-- Numbers of double precision, in exact arithmetic. `Double.nearest` rounds a quotient of natural
-- numbers, `times` and `dividedBy` round a product and a quotient of doubles, and `text` writes a
-- double with the fewest digits that still round to it.

namespace HueLink

/-- A finite number of double precision: `mantissa · 2 ^ exponent`, with its sign. The mantissa has
at most 53 bits, and 53 of them unless the exponent is the least one. -/
structure Double where
  negative : Bool
  mantissa : Nat
  exponent : Int
deriving DecidableEq, Repr

namespace Double

/-- The least exponent, that of the numbers closest to zero. -/
def minExponent : Int := -1074

/-- The greatest exponent. -/
def maxExponent : Int := 971

def zero : Double := ⟨false, 0, minExponent⟩

/-- A number times a power of two, as a quotient of natural numbers. -/
def scale (num den : Nat) (e : Int) : Nat × Nat :=
  if e < 0 then (num, den * Nat.pow 2 e.natAbs) else (num * Nat.pow 2 e.natAbs, den)

/-- The quotient rounded to the nearest natural number, a half to the even neighbour. -/
def roundHalfEven (num den : Nat) : Nat :=
  let q := num / den
  let twice := 2 * (num % den)
  if twice > den ∨ (twice = den ∧ q % 2 = 1) then q + 1 else q

/-- The exponent `e` for which `2 ^ e ≤ num / den < 2 ^ (e + 1)`. -/
def magnitude (num den : Nat) : Int :=
  let e : Int := (num.log2 : Int) - (den.log2 : Int)
  let (n, d) := scale num den (-e)
  if d ≤ n then e else e - 1

/-- The double nearest to `num / den`, a half to the even mantissa; `none` beyond the
greatest one. -/
def nearest (num den : Nat) : Option Double :=
  if num = 0 then some zero
  else
    let e := max minExponent (magnitude num den - 52)
    let (n, d) := scale num den (-e)
    let m := roundHalfEven n d
    let (m, e) := if m = Nat.pow 2 53 then (Nat.pow 2 52, e + 1) else (m, e)
    if e > maxExponent then none else some ⟨false, m, e⟩

/-- The size of a number as a quotient. -/
def ratio (x : Double) : Nat × Nat := scale x.mantissa 1 x.exponent

/-- The product, rounded, with no regard to signs. -/
def times (x y : Double) : Option Double :=
  let (a, b) := x.ratio
  let (c, d) := y.ratio
  nearest (a * c) (b * d)

/-- The quotient, rounded, with no regard to signs. -/
def dividedBy (x y : Double) : Option Double :=
  let (a, b) := x.ratio
  let (c, d) := y.ratio
  nearest (a * d) (b * c)

def isZero (x : Double) : Bool := x.mantissa == 0

/-! ## The text of a number -/

/-- The numbers `num / den` that round to `x` lie within half a step of it, and the ends belong to
them if the mantissa is even. Below a power of two the step is half as wide. -/
def roundsTo (x : Double) (num den : Nat) : Bool :=
  let (a, b) := x.ratio
  let narrow := x.mantissa = Nat.pow 2 52 ∧ x.exponent > minExponent
  let (hn, hd) := scale 1 2 x.exponent
  let (ln, ld) := scale 1 (if narrow then 4 else 2) x.exponent
  let closed := x.mantissa % 2 == 0
  let low := (a * ld - ln * b) * den
  let high := (a * hd + hn * b) * den
  let atLow := num * (b * ld)
  let atHigh := num * (b * hd)
  if closed then decide (low ≤ atLow ∧ atHigh ≤ high) else decide (low < atLow ∧ atHigh < high)

/-- The number of digits before the point of `num / den`: the `k` with `10 ^ (k - 1) ≤ num / den <
10 ^ k`, looked for upward from `k`. -/
def pointFrom (num den : Nat) : Nat → Int → Int
  | 0, k => k
  | fuel + 1, k =>
    if (if k < 0 then num * Nat.pow 10 k.natAbs < den else num < den * Nat.pow 10 k.natAbs) then k
    else pointFrom num den fuel (k + 1)

/-- The two neighbours of `num / den` among the numbers with `n` digits, `k` of them before the
point, as whole numbers of units of the last place. -/
def neighbours (num den : Nat) (n : Nat) (k : Int) : Nat × Nat :=
  let e := (n : Int) - k
  let q := if e < 0 then num / (den * Nat.pow 10 e.natAbs) else num * Nat.pow 10 e.natAbs / den
  (q, q + 1)

/-- The value of `q` units of the last place. -/
def units (q n : Nat) (k : Int) : Nat × Nat :=
  let e := (n : Int) - k
  if e < 0 then (q * Nat.pow 10 e.natAbs, 1) else (q, Nat.pow 10 e.natAbs)

/-- Twice the distance from the lower neighbour is at most one unit: the lower one is the nearer. -/
def lowerIsNearer (num den n : Nat) (k : Int) (q : Nat) : Bool :=
  let (a, b) := units q n k
  let (c, d) := units (q + 1) n k
  let fromLow := (num * b - a * den) * d
  let toHigh := (c * den - num * d) * b
  fromLow < toHigh || (fromLow == toHigh && q % 2 == 0)

/-- The digits and the place of the point, from `n` digits on. -/
def shortestFrom (x : Double) (num den : Nat) (k : Int) : Nat → Nat → Nat × Nat
  | 0, n => ((neighbours num den n k).1, n)
  | fuel + 1, n =>
    let (low, high) := neighbours num den n k
    let fits := fun q => let (a, b) := units q n k; x.roundsTo a b
    match fits low, fits high with
    | true, true => (if lowerIsNearer num den n k low then low else high, n)
    | true, false => (low, n)
    | false, true => (high, n)
    | false, false => shortestFrom x num den k fuel (n + 1)

/-- The decimal digits of a number. -/
def digits (n : Nat) : List Char := Nat.toDigits 10 n

/-- Digits with `k` of them before the point, and at least one digit on both sides of it. -/
def positional (ds : List Char) (k : Int) : List Char :=
  if k ≤ 0 then '0' :: '.' :: (List.replicate k.natAbs '0' ++ ds)
  else if ds.length ≤ k.natAbs then ds ++ List.replicate (k.natAbs - ds.length) '0' ++ ['.', '0']
  else ds.take k.natAbs ++ '.' :: ds.drop k.natAbs

/-- Digits with the first one before the point and the place of the point as an exponent, which
always has a sign. -/
def scientific (ds : List Char) (e : Int) : List Char :=
  ds.take 1 ++ (if ds.length ≤ 1 then [] else '.' :: ds.drop 1)
    ++ 'e' :: (if e < 0 then '-' else '+') :: digits e.natAbs

/-- The exponents of the numbers that are written without one: from five places after the point to
sixteen digits before it. -/
def isPlain (e : Int) : Bool := -5 ≤ e && e < 16

/-- Digits that stand for `0.d₁d₂… · 10 ^ k`, as they are written. -/
def layout (ds : List Char) (k : Int) : List Char :=
  if isPlain (k - 1) then positional ds k else scientific ds (k - 1)

/-- The fewest digits that round to the number, with an exponent if it is very small or
very large. -/
def text (x : Double) : String :=
  let sign := if x.negative then ['-'] else []
  if x.isZero then String.ofList (sign ++ ['0', '.', '0'])
  else
    let (num, den) := x.ratio
    let k := pointFrom num den 640 (-324)
    let (q, n) := shortestFrom x num den k 17 1
    let ds := digits q
    let k := k + ((ds.length : Int) - n)
    let ds := (ds.reverse.dropWhile (· == '0')).reverse
    String.ofList (sign ++ layout ds k)

end Double

end HueLink
