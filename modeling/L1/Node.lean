import L1.Value

/-!
# Nodes

The input of the evaluator is a tree of nodes. Five kinds are expressions (number and
truth literals, operator literals, variable references and applications), a definition
may stand at the top level of a sequence, and the rest (declarations, whole programs,
lists, tuples and bare scalars) can be written down but are malformed wherever they are
evaluated.

`Node.form?` classifies a node by its kind, and `Node.render` writes a node as it appears
in a message: `Kind(field=…, …)`, lists as `[a, b]`, tuples as `(a, b)`, with a one-item
tuple written `(a,)`.
-/

namespace L1

/-- A node of the input tree. -/
inductive Node where
  /-- A number literal. -/
  | num (n : Number)
  /-- A truth literal. -/
  | bool (b : Bool)
  /-- An operator literal, by its tag. -/
  | prim (tag : Scalar)
  /-- A reference to a variable. -/
  | var (name : Scalar)
  /-- A declaration of a variable, the target of a definition. -/
  | decl (name : Scalar)
  /-- An application of the operator node `rator` to the operand nodes `rands`. -/
  | app (rator : Node) (rands : List Node)
  /-- A definition of `target` as the value of `rhs`. -/
  | define (target : Node) (rhs : Node)
  /-- A whole program, as a node. -/
  | program (forms : List Node)
  /-- A list of nodes. -/
  | list (items : List Node)
  /-- A tuple of nodes. -/
  | tuple (items : List Node)
  /-- A bare scalar. -/
  | scalar (s : Scalar)

/-- The kinds of node that have a name in the language. -/
inductive Form where
  | numExp
  | boolExp
  | primOp
  | varRef
  | varDecl
  | appExp
  | defineExp
  | program
deriving DecidableEq, Repr

namespace Node

/-- The kind of a node; lists, tuples and bare scalars have none. -/
def form? : Node → Option Form
  | .num _ => some .numExp
  | .bool _ => some .boolExp
  | .prim _ => some .primOp
  | .var _ => some .varRef
  | .decl _ => some .varDecl
  | .app _ _ => some .appExp
  | .define _ _ => some .defineExp
  | .program _ => some .program
  | _ => none

/-- Whether a node is an expression: a literal, a reference or an application. -/
def isExpression (n : Node) : Bool :=
  match n.form? with
  | some .numExp | some .boolExp | some .primOp | some .varRef | some .appExp => true
  | _ => false

/-- Whether a node may stand at the top level of a sequence: an expression or a
definition. -/
def isTopLevel (n : Node) : Bool :=
  n.isExpression || n.form? == some .defineExp

def comma : Text := .ofString ", "

def tupleText : List Text → Text
  | [] => .ofString "()"
  | [s] => .ofString "(" ++ s ++ .ofString ",)"
  | ss => .ofString "(" ++ comma.intercalate ss ++ .ofString ")"

def listText (ss : List Text) : Text :=
  .ofString "[" ++ comma.intercalate ss ++ .ofString "]"

def record1 (kind field : String) (a : Text) : Text :=
  .ofString (kind ++ "(" ++ field ++ "=") ++ a ++ .ofString ")"

def record2 (kind f g : String) (a b : Text) : Text :=
  .ofString (kind ++ "(" ++ f ++ "=") ++ a ++ .ofString (", " ++ g ++ "=") ++ b ++ .ofString ")"

mutual

/-- How a node is written in a message. -/
def render : Node → Text
  | .num n => record1 "NumExp" "val" (.ofString n.render)
  | .bool b => record1 "BoolExp" "val" (.ofString (Scalar.boolText b))
  | .prim tag => Value.primText tag
  | .var x => record1 "VarRef" "var" x.render
  | .decl x => record1 "VarDecl" "var" x.render
  | .app rator rands => record2 "AppExp" "rator" "rands" rator.render (tupleText (renderAll rands))
  | .define target rhs => record2 "DefineExp" "var" "val" target.render rhs.render
  | .program forms => record1 "Program" "exps" (tupleText (renderAll forms))
  | .list items => listText (renderAll items)
  | .tuple items => tupleText (renderAll items)
  | .scalar s => s.render

def renderAll : List Node → List Text
  | [] => []
  | n :: ns => n.render :: renderAll ns

end

mutual

/-- Whether a node can be written: every number and scalar in it can be. -/
def writable : Node → Bool
  | .num n => n.writable
  | .bool _ => true
  | .prim s | .var s | .decl s | .scalar s => s.writable
  | .app rator rands => rator.writable && writableAll rands
  | .define target rhs => target.writable && rhs.writable
  | .program items | .list items | .tuple items => writableAll items

def writableAll : List Node → Bool
  | [] => true
  | n :: ns => n.writable && writableAll ns

end

end Node

end L1
