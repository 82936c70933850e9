/-!
# Binary64 values as exact numbers

A `Float` is read through its bits: NaN, a signed infinity, or a finite value
`± m * 2^q` with a natural significand `m`. The other direction is one rounding
function, `Binary64.ofRatio?`, which takes an exact quotient of naturals to the
nearest binary64 value, a tie going to the even significand. Every conversion the
library needs is an instance of it: an integer becomes a float, an integer quotient
is rounded once, a decimal literal is read.

Rounding happens on naturals only, so nothing here depends on how a machine
performs floating-point operations.
-/

-- Powers of naturals and integers are those of the core library wherever the project is
-- read: beside Mathlib, its monoid power would otherwise be found first, also for a literal
-- exponent, whose type a default instance settles.
attribute [instance (1100)] instPowNat
attribute [default_instance (10001)] instPowNat

namespace L1.Binary64

def signBit (x : Float) : Bool :=
  x.toBits >>> 63 == 1

def exponentField (x : Float) : Nat :=
  ((x.toBits >>> 52) &&& 0x7FF).toNat

def fractionField (x : Float) : Nat :=
  (x.toBits &&& 0xFFFFFFFFFFFFF).toNat

/-- What a binary64 value stands for. -/
inductive Shape where
  /-- Not a number. -/
  | nan
  /-- An infinity, negative when `neg` holds. -/
  | inf (neg : Bool)
  /-- The finite value `(-1)^neg * m * 2^q`; zero has `m = 0`. -/
  | finite (neg : Bool) (m : Nat) (q : Int)

/-- Decodes the fields: the all-ones exponent holds the infinities and NaN, the zero
exponent the subnormals, and every other exponent a normal value with its hidden bit. -/
def shape (x : Float) : Shape :=
  let e := exponentField x
  let f := fractionField x
  if e = 2047 then
    if f = 0 then .inf (signBit x) else .nan
  else if e = 0 then .finite (signBit x) f (-1074)
  else .finite (signBit x) (2 ^ 52 + f) ((e : Int) - 1075)

/-- The value with the given sign, biased exponent and fraction fields. -/
def ofFields (neg : Bool) (e f : Nat) : Float :=
  Float.ofBits (UInt64.ofNat ((if neg then 2 ^ 63 else 0) + e * 2 ^ 52 + f))

def nan : Float := ofFields false 2047 (2 ^ 51)

def inf (neg : Bool) : Float := ofFields neg 2047 0

/-- The quotient `n / d` rounded to the nearest natural, a tie going to the even one. -/
def roundHalfEven (n d : Nat) : Nat :=
  let q := n / d
  let r := n % d
  if 2 * r < d then q
  else if d < 2 * r then q + 1
  else if q % 2 = 0 then q else q + 1

/-- The floor `⌊log₂ (num / den)⌋` for positive `num` and `den`. The difference of the bit
lengths is the answer or one too large, and one exact comparison tells which. -/
def floorLog2 (num den : Nat) : Int :=
  let k : Int := (num.log2 : Int) - (den.log2 : Int)
  let reached := if 0 ≤ k then den * 2 ^ k.toNat ≤ num else den ≤ num * 2 ^ (-k).toNat
  if reached then k else k - 1

/-- The binary64 value nearest to `num / den`, with sign `neg`, a tie going to the even
significand; `none` when the magnitude rounds to `2^1024` or beyond, which no finite
value reaches. The exponent is chosen so that the scaled quotient has 53 bits, or is
held at the subnormal exponent `-1074`; a significand that rounds up to `2^53` moves
one binade up. Meant for `0 < den`. -/
def ofRatio? (neg : Bool) (num den : Nat) : Option Float :=
  if num = 0 then some (ofFields neg 0 0)
  else
    let e₀ : Int := max (floorLog2 num den - 52) (-1074)
    let q₀ := if e₀ ≤ 0 then roundHalfEven (num * 2 ^ (-e₀).toNat) den
      else roundHalfEven num (den * 2 ^ e₀.toNat)
    let (q, e) := if q₀ = 2 ^ 53 then (2 ^ 52, e₀ + 1) else (q₀, e₀)
    if 971 < e then none
    else if q < 2 ^ 52 then some (ofFields neg 0 q)
    else some (ofFields neg (e + 1075).toNat (q - 2 ^ 52))

/-- The binary64 value nearest to an integer, or `none` when its magnitude is at least
`2^1024 - 2^970`, the midpoint between the largest finite value and `2^1024`. -/
def ofInt? (n : Int) : Option Float :=
  ofRatio? (n < 0) n.natAbs 1

/-- The binary64 value nearest to `num / den` for integers, `den ≠ 0`. -/
def ofIntRatio? (num den : Int) : Option Float :=
  ofRatio? ((num < 0) != (den < 0)) num.natAbs den.natAbs

/-- The binary64 value nearest to `mantissa * 10^exp`; out of range it is an infinity
or a zero of the right sign, as a reader of decimal literals answers. Decimal
exponents far outside the binary64 range are settled without computing their power. -/
def ofDecimal (neg : Bool) (mantissa : Nat) (exp : Int) : Float :=
  let width : Int := (toString mantissa).length
  if mantissa = 0 then ofFields neg 0 0
  else if 310 < exp + width then inf neg
  else if exp + width < -330 then ofFields neg 0 0
  else
    let rounded := if 0 ≤ exp then ofRatio? neg (mantissa * 10 ^ exp.toNat) 1
      else ofRatio? neg mantissa (10 ^ (-exp).toNat)
    rounded.getD (inf neg)

end L1.Binary64

/-!
## Shortest decimal digits of a binary64 value

A positive finite value `m * 2^q` stands for every real that rounds to it: the
interval from halfway to its lower neighbour to halfway to its upper neighbour, the
ends included exactly when `m` is even (a tie is read as the even significand).
`Binary64.readsBack` is that interval, tested by cross-multiplying naturals.

`Binary64.shortest` tries decimal grids of 1, 2, … 17 significant digits. On each grid
only the two grid points next to the value can lie in the interval, because the
interval is convex and contains the value; the first grid with a hit wins, of two
hits the nearer one, and an exact tie goes to the even digit string.
-/

namespace L1.Binary64

/-- The decimal `digits * 10^exp`. -/
structure Decimal where
  /-- The significant digits, as a natural. -/
  digits : Nat
  /-- The power of ten of the last digit. -/
  exp : Int
deriving DecidableEq, Repr

/-- Compares `a * 10^i` with `b * 2^j` exactly, by moving negative powers across. -/
def compareScaled (a : Nat) (i : Int) (b : Nat) (j : Int) : Ordering :=
  compare (a * 10 ^ i.toNat * 2 ^ (-j).toNat) (b * 2 ^ j.toNat * 10 ^ (-i).toNat)

/-- Whether the decimal `d` reads back as the positive value `m * 2^q`. In units of
`2^(q-2)` the value is `4m`, its upper end `4m + 2`, and its lower end `4m - 2`, or
`4m - 1` when the gap below is half the gap above (`narrow`: a power of two that is not
the least normal value). -/
def readsBack (m : Nat) (q : Int) (narrow : Bool) (d : Decimal) : Bool :=
  let lo := if narrow then 4 * m - 1 else 4 * m - 2
  let hi := 4 * m + 2
  let closed := m % 2 == 0
  let cl := compareScaled d.digits d.exp lo (q - 2)
  let ch := compareScaled d.digits d.exp hi (q - 2)
  (cl == .gt || (closed && cl == .eq)) && (ch == .lt || (closed && ch == .eq))

/-- The least `E` with `m * 2^q < 10^E`, for `m ≠ 0`: an estimate from the binary
logarithm, corrected by exact comparisons over a window that the estimate cannot miss. -/
def decimalExponent (m : Nat) (q : Int) : Int :=
  let guess : Int := ((m.log2 : Int) + q) * 30103 / 100000
  let window := (List.range 6).map (fun (i : Nat) => guess - 2 + (i : Int))
  (window.find? (fun e => compareScaled 1 e m q == .gt)).getD (guess + 4)

/-- The digit string with `n` significant digits chosen for `m * 2^q`, if one reads back.
The grid has spacing `10^(E - n)`; its points below and above the value are `c` and
`c + 1`, and of two that read back the nearer is taken, a tie going to the even one. -/
def onGrid (m : Nat) (q : Int) (narrow : Bool) (e : Int) (n : Nat) : Option Decimal :=
  let t := e - (n : Int)
  let num := m * 2 ^ q.toNat * 10 ^ (-t).toNat
  let den := 2 ^ (-q).toNat * 10 ^ t.toNat
  let c := num / den
  let r := num % den
  let below := readsBack m q narrow ⟨c, t⟩
  let above := readsBack m q narrow ⟨c + 1, t⟩
  if below && above then
    if 2 * r < den then some ⟨c, t⟩
    else if den < 2 * r then some ⟨c + 1, t⟩
    else if c % 2 = 0 then some ⟨c, t⟩ else some ⟨c + 1, t⟩
  else if below then some ⟨c, t⟩
  else if above then some ⟨c + 1, t⟩
  else none

/-- Moves trailing zeros of the digits into the exponent; the value is unchanged. -/
def Decimal.trim (d : Decimal) : Decimal :=
  if h : d.digits ≠ 0 ∧ d.digits % 10 = 0 then
    have : d.digits / 10 < d.digits := Nat.div_lt_self (Nat.pos_of_ne_zero h.1) (by decide)
    Decimal.trim ⟨d.digits / 10, d.exp + 1⟩
  else d
termination_by d.digits

/-- The exact decimal value of `m * 2^q`. -/
def exactDecimal (m : Nat) (q : Int) : Decimal :=
  if 0 ≤ q then ⟨m * 2 ^ q.toNat, 0⟩ else ⟨m * 5 ^ (-q).toNat, q⟩

/-- The shortest decimal that reads back as the positive value `m * 2^q`, nearest to it
among those of its length, a tie going to the even digit string; trailing zeros moved
into the exponent. Seventeen digits always read back, so the exact value, returned
when no grid is hit, is never reached. -/
def shortest (m : Nat) (q : Int) (narrow : Bool) : Decimal :=
  let e := decimalExponent m q
  match (List.range 17).findSome? (fun i => onGrid m q narrow e (i + 1)) with
  | some d => d.trim
  | none => (exactDecimal m q).trim

/-- Whether the finite value with these fields has a gap below it half the gap above. -/
def narrowBelow (x : Float) : Bool :=
  fractionField x == 0 && 1 < exponentField x

end L1.Binary64

/-!
## Text of numbers

Integers are written in decimal. A float is written with its shortest digits
(`L1.Binary64.shortest`) and laid out by the exponent `e` of its leading digit:
positionally for `-4 ≤ e ≤ 15`, always with a point (`1.0`, `0.0001`,
`9007199254740992.0`), and otherwise as `d.ddde±XX` with at least two exponent digits
(`1e+16`, `1e-05`, `5e-324`). A negative sign is kept on zero (`-0.0`); the special
values are `inf`, `-inf` and `nan`.
-/

namespace L1.Binary64

def zeros (k : Nat) : List Char :=
  List.replicate k '0'

def exponentText (x : Int) : List Char :=
  let digits := (toString x.natAbs).toList
  let padded := if digits.length < 2 then '0' :: digits else digits
  (if x < 0 then '-' else '+') :: padded

/-- Lays out a positive decimal. With `decpt` the position of the point after the
first digit's left, the exponent of the leading digit is `decpt - 1`. -/
def Decimal.layout (d : Decimal) : String :=
  let s := (toString d.digits).toList
  let nd : Int := s.length
  let decpt : Int := nd + d.exp
  if -4 < decpt ∧ decpt ≤ 16 then
    if decpt ≤ 0 then String.ofList (['0', '.'] ++ zeros (-decpt).toNat ++ s)
    else if nd ≤ decpt then String.ofList (s ++ zeros (decpt - nd).toNat ++ ['.', '0'])
    else String.ofList (s.take decpt.toNat ++ '.' :: s.drop decpt.toNat)
  else
    let mantissa := if s.length ≤ 1 then s else s.take 1 ++ '.' :: s.drop 1
    String.ofList (mantissa ++ 'e' :: exponentText (decpt - 1))

/-- The text of a float: sign, then the laid-out shortest digits, or a special value. -/
def render (x : Float) : String :=
  match shape x with
  | .nan => "nan"
  | .inf neg => if neg then "-inf" else "inf"
  | .finite neg m q =>
    let body := if m = 0 then "0.0" else (shortest m q (narrowBelow x)).layout
    if neg then "-" ++ body else body

end L1.Binary64
