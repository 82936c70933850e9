import L1.Number.Basic
import L1.Text.Quote

/-!
# Scalars and values

A scalar is an atom of the input tree: text, an integer, a float, a truth value, or
nothing. Operator tags and variable names are scalars, and so is a bare atom that stands
where a node should.

A scalar has two texts. `Scalar.render` is how it is written inside a message about a
structure: text quoted (`Text.quote`), truth values `True` and `False`, nothing as `None`,
numbers by `Number.render`. `Scalar.text` is the same except that text stands as it is.

Scalars compare as parts of a structure (`Scalar.equal`): by value across the numeric
kinds, and a NaN, of which the input has only one, equal to itself.
-/

namespace L1

/-- An atom of the input tree. -/
inductive Scalar where
  | str (s : Text)
  | int (n : Int)
  | float (x : Float)
  | bool (b : Bool)
  | none

namespace Scalar

def boolText (b : Bool) : String :=
  if b then "True" else "False"

/-- How a scalar is written inside a structure: text quoted. -/
def render : Scalar → Text
  | .str s => Text.quote s
  | .int n => .ofString (Number.render (.int n))
  | .float x => .ofString (Number.render (.float x))
  | .bool b => .ofString (boolText b)
  | .none => .ofString "None"

/-- How a scalar is written on its own: text as it is. -/
def text : Scalar → Text
  | .str s => s
  | s => s.render

/-- Whether a scalar can be written: every scalar but an integer of more than
`Number.digitLimit` digits. -/
def writable : Scalar → Bool
  | .int n => (Number.int n).writable
  | _ => true

/-- The number a scalar stands for: truth values are `1` and `0`. -/
def toNumber? : Scalar → Option Number
  | .int n => some (.int n)
  | .float x => some (.float x)
  | .bool b => some (.int (if b then 1 else 0))
  | _ => Option.none

def isNaN : Scalar → Bool
  | .float x => (Binary64.toExact? x).isNone
  | _ => false

/-- Equality of scalars as parts of a structure: texts by their code points, nothing with
nothing, integers, floats and truth values by the number they stand for, and a NaN with a
NaN. The input holds a single NaN scalar, and a part of a structure is always equal to
itself. -/
def equal : Scalar → Scalar → Bool
  | .str s, .str t => s == t
  | .none, .none => true
  | a, b =>
    if a.isNaN && b.isNaN then true
    else
      match a.toNumber?, b.toNumber? with
      | some x, some y => x.eq y
      | _, _ => false

end Scalar

/-!
## Values

A value of L1 is a number, a truth value, or a primitive operator carried as its tag.
Truth values are never numbers to the operators, but the equality of environments
(`Value.equal`) compares them with numbers as `1` and `0`, so that `1`, `1.0` and true are
equal there, and `0`, `-0.0` and false.
-/

/-- A value of L1. -/
inductive Value where
  | num (n : Number)
  | bool (b : Bool)
  | prim (tag : Scalar)

namespace Value

/-- The number of a value that is one. -/
def toNumber? : Value → Option Number
  | .num n => some n
  | _ => none

def primText (tag : Scalar) : Text :=
  .ofString "PrimOp(op=" ++ tag.render ++ .ofString ")"

/-- How a value is written in a message. -/
def render : Value → Text
  | .num n => .ofString n.render
  | .bool b => .ofString (Scalar.boolText b)
  | .prim tag => primText tag

def renderList (vs : List Value) : Text :=
  .ofString "[" ++ (Text.ofString ", ").intercalate (vs.map render) ++ .ofString "]"

/-- Whether a value can be written: every value but an integer of more than
`Number.digitLimit` digits, or an operator carrying one as its tag. -/
def writable : Value → Bool
  | .num n => n.writable
  | .bool _ => true
  | .prim tag => tag.writable

/-- Whether a value counts as true: a number unless it is zero, a truth value as it is,
and every operator. -/
def truthy : Value → Bool
  | .num n => !n.isZero
  | .bool b => b
  | .prim _ => true

/-- The number a value is compared as: numbers themselves, truth values as `1` and `0`. -/
def weight? : Value → Option Number
  | .num n => some n
  | .bool b => some (.int (if b then 1 else 0))
  | .prim _ => none

/-- Equality of values as environments compare them: operators by tag (`Scalar.equal`),
an operator with nothing else, and numbers and truth values by `Value.weight?`. -/
def equal : Value → Value → Bool
  | .prim s, .prim t => s.equal t
  | .prim _, _ => false
  | _, .prim _ => false
  | a, b =>
    match a.weight?, b.weight? with
    | some x, some y => x.eq y
    | _, _ => false

end Value

end L1
