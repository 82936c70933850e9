import L1.Number.Binary64

/-!
# Numbers

A number of L1 is an unbounded integer or a binary64 float, and the two kinds stay
apart: `3` and `3.0` are different numbers that compare equal.

Numbers are compared by the real numbers they stand for (`Number.toExact?`), whatever their
kinds: an integer is never rounded to compare it with a float, the infinities lie beyond
every integer, and NaN stands for nothing, so every comparison with it is false. On two
floats this is the IEEE comparison, `-0.0` equal to `0.0` included.
-/

namespace L1

/-- A number: an unbounded integer or a binary64 float. -/
inductive Number where
  | int (n : Int)
  | float (x : Float)

/-- A real number or one of the two infinities. -/
inductive Exact where
  /-- Below every real. -/
  | negInf
  /-- A rational number. -/
  | finite (r : Rat)
  /-- Above every real. -/
  | posInf

namespace Exact

/-- The strict order: `negInf`, then the rationals in their order, then `posInf`. -/
def lt : Exact → Exact → Bool
  | .negInf, .negInf => false
  | .negInf, _ => true
  | .finite _, .negInf => false
  | .finite a, .finite b => decide (a < b)
  | .finite _, .posInf => true
  | .posInf, _ => false

/-- Equality of extended rationals. -/
def eq : Exact → Exact → Bool
  | .negInf, .negInf => true
  | .finite a, .finite b => decide (a = b)
  | .posInf, .posInf => true
  | _, _ => false

end Exact

/-- The rational `m * 2^q`. -/
def Binary64.dyadic (m : Nat) (q : Int) : Rat :=
  if 0 ≤ q then ((m * 2 ^ q.toNat : Nat) : Rat) else mkRat m (2 ^ (-q).toNat)

/-- The extended rational a float stands for; `none` for NaN. -/
def Binary64.toExact? (x : Float) : Option Exact :=
  match Binary64.shape x with
  | .nan => none
  | .inf neg => some (if neg then .negInf else .posInf)
  | .finite neg m q =>
    let r := Binary64.dyadic m q
    some (.finite (if neg then -r else r))

namespace Number

/-- The extended rational a number stands for; `none` for NaN. -/
def toExact? : Number → Option Exact
  | .int n => some (.finite n)
  | .float x => Binary64.toExact? x

/-- Whether `a < b` by the values the numbers stand for; false when either is NaN. -/
def lt (a b : Number) : Bool :=
  match a.toExact?, b.toExact? with
  | some x, some y => x.lt y
  | _, _ => false

/-- Whether `a = b` by the values the numbers stand for; false when either is NaN. -/
def eq (a b : Number) : Bool :=
  match a.toExact?, b.toExact? with
  | some x, some y => x.eq y
  | _, _ => false

/-- Whether a number stands for zero: `0`, `0.0` or `-0.0`. -/
def isZero (a : Number) : Bool :=
  a.eq (.int 0)

/-- The most decimal digits an integer may have in text, read or written. -/
def digitLimit : Nat := 4300

/-- Whether a number can be written: an integer of at most `digitLimit` digits, or a
float. -/
def writable : Number → Bool
  | .int n => decide (n.natAbs < 10 ^ digitLimit)
  | .float _ => true

/-- The text of a number: an integer in decimal, a float by its shortest digits. -/
def render : Number → String
  | .int n => toString n
  | .float x => Binary64.render x

end Number

end L1

/-!
## Arithmetic on numbers

Two integers add, subtract and multiply exactly, and their quotient is the exact rational
rounded once to binary64 (`Binary64.ofIntRatio?`). Two floats combine by the binary64
operation, an overflow giving an infinity. An integer that meets a float is first rounded
to the nearest float (`Binary64.ofInt?`).

An operation is `none` when a result cannot be a float at all: an integer met by a float
whose magnitude is at least `2^1024 - 2^970`, or an integer quotient that large.
-/

namespace L1.Number

/-- The float nearest to a number, `none` for an integer beyond the binary64 range. -/
def toFloat? : Number → Option Float
  | .int n => Binary64.ofInt? n
  | .float x => some x

/-- Combines two numbers: integers by `onInt`, anything else as two floats by `onFloat`. -/
def combine (onInt : Int → Int → Option Number) (onFloat : Float → Float → Float) :
    Number → Number → Option Number
  | .int a, .int b => onInt a b
  | a, b => do
    let x ← a.toFloat?
    let y ← b.toFloat?
    pure (.float (onFloat x y))

def add? : Number → Number → Option Number :=
  combine (fun a b => some (.int (a + b))) (· + ·)

def sub? : Number → Number → Option Number :=
  combine (fun a b => some (.int (a - b))) (· - ·)

def mul? : Number → Number → Option Number :=
  combine (fun a b => some (.int (a * b))) (· * ·)

/-- The quotient, always a float; meant for a divisor that is not zero. -/
def div? : Number → Number → Option Number :=
  combine (fun a b => (Binary64.ofIntRatio? a b).map .float) (· / ·)

end L1.Number
