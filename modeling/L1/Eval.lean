import L1.Apply
import L1.Env

/-!
# Evaluating expressions and sequences

Evaluation is applicative and has no state beyond the environment. Literals give their
value, an operator literal gives itself as a value, and a reference gives the innermost
binding of its name. An application evaluates its operands left to right, the first fault
stopping it, and then applies the operator node to their values (`applyNode`). Every
other node is malformed where an expression is expected: definitions belong to the top
level of a sequence.
-/

namespace L1

namespace Node

mutual

/-- The value of an expression in an environment. -/
def eval (o : Options) (env : Env) : Node → Except Fault Value
  | .num n => .ok (.num n)
  | .bool b => .ok (.bool b)
  | .prim tag => .ok (.prim tag)
  | .var x => env.lookup x
  | .app rator rands =>
    match evalAll o env rands with
    | .ok args => applyNode o rator args
    | .error f => .error f
  | n => .error (.malformed n)

/-- The values of expressions evaluated left to right, or the first fault. -/
def evalAll (o : Options) (env : Env) : List Node → Except Fault (List Value)
  | [] => .ok []
  | n :: ns =>
    match eval o env n with
    | .error f => .error f
    | .ok v =>
      match evalAll o env ns with
      | .ok vs => .ok (v :: vs)
      | .error f => .error f

end

@[simp] theorem eval_num (o : Options) (env : Env) (n : Number) :
    (Node.num n).eval o env = .ok (.num n) := rfl

@[simp] theorem eval_bool (o : Options) (env : Env) (b : Bool) :
    (Node.bool b).eval o env = .ok (.bool b) := rfl

@[simp] theorem eval_prim (o : Options) (env : Env) (tag : Scalar) :
    (Node.prim tag).eval o env = .ok (.prim tag) := rfl

@[simp] theorem eval_var (o : Options) (env : Env) (x : Scalar) :
    (Node.var x).eval o env = env.lookup x := rfl

theorem eval_app (o : Options) (env : Env) (rator : Node) (rands : List Node) :
    (Node.app rator rands).eval o env =
      match evalAll o env rands with
      | .ok args => applyNode o rator args
      | .error f => .error f := rfl

@[simp] theorem evalAll_nil (o : Options) (env : Env) : evalAll o env [] = .ok [] := rfl

theorem evalAll_cons (o : Options) (env : Env) (n : Node) (ns : List Node) :
    evalAll o env (n :: ns) =
      match n.eval o env with
      | .error f => .error f
      | .ok v =>
        match evalAll o env ns with
        | .ok vs => .ok (v :: vs)
        | .error f => .error f := rfl

end Node

/-!
## Sequences of top-level forms

A program is a sequence of top-level forms run in order. A definition evaluates its right
side in the current environment and binds its declared name for every form after it; any
other form is evaluated and its value dropped. The first fault stops the sequence.

A definition is well formed only as the declaration of a non-empty name with a right
side; any other definition is malformed as a whole, before its right side is looked at.
The last form gives the value of the sequence, and a last definition gives none: once its
right side has been evaluated the sequence is empty of a value. A sequence with no forms
has no value either.

The run splits at any point (`Program.runSequence`, `Program.runPrefix`): a sequence is
its prefix run for the environment it leaves, then the rest run from there.
-/

namespace Program

/-- The environment a definition leaves, after evaluating its right side. -/
def define (o : Options) (env : Env) (target rhs : Node) : Except Fault Env :=
  match target with
  | .decl (.str s) =>
    if h : s = Text.empty then .error (.malformed (.define target rhs))
    else
      match rhs.eval o env with
      | .ok v => .ok (env.extend ⟨s, h⟩ v)
      | .error f => .error f
  | _ => .error (.malformed (.define target rhs))

/-- Runs one form that is not the last: a definition extends the environment, any other
form is evaluated and its value dropped. -/
def step (o : Options) (env : Env) : Node → Except Fault Env
  | .define target rhs => define o env target rhs
  | form =>
    match form.eval o env with
    | .ok _ => .ok env
    | .error f => .error f

/-- Runs forms that are not the last, in order, for the environment they leave. -/
def runPrefix (o : Options) : List Node → Env → Except Fault Env
  | [], env => .ok env
  | form :: rest, env =>
    match step o env form with
    | .ok env' => runPrefix o rest env'
    | .error f => .error f

/-- Runs the last form: its value, or, for a definition, no value once its right side has
been evaluated. -/
def finish (o : Options) (env : Env) : Node → Except Fault Value
  | .define target rhs =>
    match define o env target rhs with
    | .ok _ => .error .emptyProgram
    | .error f => .error f
  | form => form.eval o env

/-- The value of a sequence of forms run from an environment. -/
def runSequence (o : Options) : List Node → Env → Except Fault Value
  | [], _ => .error .emptyProgram
  | [form], env => finish o env form
  | form :: next :: rest, env =>
    match step o env form with
    | .ok env' => runSequence o (next :: rest) env'
    | .error f => .error f

@[simp] theorem runSequence_nil (o : Options) (env : Env) :
    runSequence o [] env = .error .emptyProgram := rfl

@[simp] theorem runSequence_singleton (o : Options) (env : Env) (form : Node) :
    runSequence o [form] env = finish o env form := rfl

theorem runSequence_cons_cons (o : Options) (env : Env) (form next : Node) (rest : List Node) :
    runSequence o (form :: next :: rest) env =
      match step o env form with
      | .ok env' => runSequence o (next :: rest) env'
      | .error f => .error f := rfl

/-- The value of a program run from the empty environment. -/
def run (o : Options) (forms : List Node) : Except Fault Value :=
  runSequence o forms Env.empty

end Program

end L1
