import L1.Node

/-!
# Primitive operators and their application

L1 has eight primitive operators: the arithmetic `+ - * /`, the comparisons `> < =` and
the negation `not`. An operator is named by its tag, and only these eight texts name one;
any other tag, text or not, is unknown (`Prim.ofTag?`).
-/

namespace L1

/-- The arithmetic operators. -/
inductive Arith where
  | add
  | sub
  | mul
  | div
deriving DecidableEq, Repr

/-- The comparisons. -/
inductive Compare where
  | gt
  | lt
  | eq
deriving DecidableEq, Repr

/-- The primitive operators. -/
inductive Prim where
  | arith (a : Arith)
  | compare (c : Compare)
  | not
deriving DecidableEq, Repr

namespace Arith

def symbol : Arith → String
  | .add => "+"
  | .sub => "-"
  | .mul => "*"
  | .div => "/"

/-- The start of the fold: `0` for `+` and `-`, `1` for `*` and `/`. -/
def seed : Arith → Number
  | .add => .int 0
  | .sub => .int 0
  | .mul => .int 1
  | .div => .int 1

/-- One step of the fold. -/
def step : Arith → Number → Number → Option Number
  | .add => Number.add?
  | .sub => Number.sub?
  | .mul => Number.mul?
  | .div => Number.div?

end Arith

namespace Compare

def symbol : Compare → String
  | .gt => ">"
  | .lt => "<"
  | .eq => "="

/-- Whether the comparison holds of two numbers, by the values they stand for. -/
def test : Compare → Number → Number → Bool
  | .gt, a, b => b.lt a
  | .lt, a, b => a.lt b
  | .eq, a, b => a.eq b

end Compare

namespace Prim

def symbol : Prim → String
  | .arith a => a.symbol
  | .compare c => c.symbol
  | .not => "not"

def all : List Prim :=
  [.arith .add, .arith .sub, .arith .mul, .arith .div,
   .compare .gt, .compare .lt, .compare .eq, .not]

/-- The operator a tag names: a text equal to one of the eight symbols. -/
def ofTag? : Scalar → Option Prim
  | .str s => all.find? (fun p => Text.ofString p.symbol == s)
  | _ => none

end Prim

/-!
## Faults

Why an evaluation stops, one constructor per cause, with what the cause is about.
`Fault.message` is the one place where a cause becomes text.
-/

/-- Why an evaluation or an environment operation stops. -/
inductive Fault where
  /-- A binding was asked for a name that is not non-empty text. -/
  | invalidName (name : Scalar)
  /-- A reference found no binding. -/
  | unbound (name : Scalar)
  /-- The operator position of an application holds no operator literal. -/
  | notAProcedure (rator : Node)
  /-- An operator literal carries a tag that names no operator. -/
  | unknownOperator (tag : Scalar)
  /-- An operator was given operands of the wrong kinds or number. -/
  | typeMismatch (op : Prim) (args : List Value)
  /-- A division met an operand equal to zero. -/
  | divisionByZero
  /-- An arithmetic operator met an integer too large for a float beside a float, or an
  integer quotient too large for one. -/
  | overflow (op : Arith) (args : List Value)
  /-- A sequence has nothing to give its value. -/
  | emptyProgram
  /-- A node that cannot be evaluated where it stands. -/
  | malformed (node : Node)

namespace Fault

/-- The text of a fault. -/
def message : Fault → Text
  | .invalidName name => .ofString "Cannot bind " ++ name.render ++ .ofString " as a variable"
  | .unbound name => .ofString "var not found " ++ name.text
  | .notAProcedure rator => .ofString "Bad procedure " ++ rator.render
  | .unknownOperator tag => .ofString "Bad primitive op " ++ tag.text
  | .typeMismatch op args =>
    .ofString ("Type mismatch: " ++ op.symbol ++ " cannot be applied to ") ++ Value.renderList args
  | .divisionByZero => .ofString "Division by zero"
  | .overflow op _ =>
    .ofString ("Arithmetic overflow: " ++ op.symbol ++ " applied to numbers too large for a float")
  | .emptyProgram => .ofString "Empty program"
  | .malformed node => .ofString "Bad L1 AST " ++ node.render

/-- Whether the text of a fault can be built: every integer it shows, among the operands
of a type mismatch or in the node, name or tag it is about, has at most
`Number.digitLimit` digits. -/
def writable : Fault → Bool
  | .invalidName s | .unbound s | .unknownOperator s => s.writable
  | .notAProcedure node | .malformed node => node.writable
  | .typeMismatch _ args => args.all Value.writable
  | .divisionByZero | .overflow _ _ | .emptyProgram => true

end Fault

/-!
## Evaluation options

The one option of the evaluator makes `not` accept any value by its truth
(`Value.truthy`) instead of refusing what is not a truth value. Off by default, it can be
switched on by a setting read as a yes-or-no flag: a setting that is absent or blank
leaves the default, and any other is on exactly when, trimmed and lowered, it is one of
`1`, `true`, `yes` and `on`.
-/

/-- The options of the evaluator. -/
structure Options where
  /-- Whether `not` takes any value by its truth. -/
  truthyNot : Bool := false

namespace Options

/-- The words that switch a flag on. -/
def onWords : List Text :=
  ["1", "true", "yes", "on"].map Text.ofString

/-- A yes-or-no flag read from the text of a setting, `none` when it is absent. -/
def readFlag (raw : Option Text) (default : Bool) : Bool :=
  match raw with
  | none => default
  | some s =>
    let t := Text.trim s
    if t.isEmpty then default else onWords.contains (Text.asciiLower t)

/-- The options a setting of the truth mode gives, off unless it reads as on. -/
def ofSetting (raw : Option Text) : Options :=
  { truthyNot := readFlag raw false }

end Options

/-!
## Applying operators to values

An arithmetic operator folds its operands from its seed, left to right, so `(- x)` is
`0 - x` and `(/ x)` is `1 / x`. Its operands are checked before anything is computed, in a
fixed order: every operand must be a number, or the fault is a type mismatch with all of
them; for `/` no operand may be zero, the first one included; only then is the fold run,
and an operand too large for a float stops it as an overflow.

A comparison takes exactly two numbers. `not` takes exactly one operand: a truth value is
negated, and any other is refused unless the options take it by its truth.

In an application the operator position is a node that is never evaluated: only an
operator literal can be applied (`applyNode`), and its tag must name an operator
(`applyTag`).
-/

namespace Arith

/-- Folds numbers from the seed of the operator; `none` on overflow. -/
def fold (a : Arith) (xs : List Number) : Option Number :=
  xs.foldlM a.step a.seed

/-- Applies an arithmetic operator to values. -/
def apply (a : Arith) (args : List Value) : Except Fault Value :=
  match args.mapM Value.toNumber? with
  | none => .error (.typeMismatch (.arith a) args)
  | some xs =>
    if a = .div ∧ xs.any Number.isZero then .error .divisionByZero
    else
      match a.fold xs with
      | some r => .ok (.num r)
      | none => .error (.overflow a args)

end Arith

namespace Prim

/-- Applies an operator to values under the given options. -/
def apply (o : Options) (p : Prim) (args : List Value) : Except Fault Value :=
  match p, args with
  | .arith a, _ => a.apply args
  | .compare c, [.num x, .num y] => .ok (.bool (c.test x y))
  | .compare _, _ => .error (.typeMismatch p args)
  | .not, [.bool b] => .ok (.bool !b)
  | .not, [v] => if o.truthyNot then .ok (.bool !v.truthy) else .error (.typeMismatch p args)
  | .not, _ => .error (.typeMismatch p args)

end Prim

/-- Applies the operator that a tag names, or refuses an unknown tag. -/
def applyTag (o : Options) (tag : Scalar) (args : List Value) : Except Fault Value :=
  match Prim.ofTag? tag with
  | some p => p.apply o args
  | none => .error (.unknownOperator tag)

/-- Applies the node in operator position: only an operator literal is a procedure. -/
def applyNode (o : Options) (rator : Node) (args : List Value) : Except Fault Value :=
  match rator with
  | .prim tag => applyTag o tag args
  | _ => .error (.notAProcedure rator)

end L1
