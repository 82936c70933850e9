import L1.Apply

/-!
# Environments

An environment is a chain of bindings, innermost first. Extending puts one binding in
front and leaves the rest as it was, so an environment that is held on to never changes;
a look-up takes the innermost binding of a name, which is how a later binding shadows an
earlier one. Shadowed bindings stay in the chain: they count in its depth and appear in
its listing and its text.

Only non-empty text can be bound (`Name`); a reference by any other scalar finds nothing.
-/

namespace L1

/-- A variable name: non-empty text. -/
structure Name where
  text : Text
  /-- A name is never empty. -/
  nonempty : text ≠ Text.empty

/-- The name a scalar gives, if it is non-empty text. -/
def Name.ofScalar? : Scalar → Option Name
  | .str s => if h : s = Text.empty then none else some ⟨s, h⟩
  | _ => none

/-- A name bound to a value. -/
structure Binding where
  name : Name
  value : Value

/-- How one binding is written: the name as it is, the value as in a message. -/
def Binding.render (b : Binding) : Text :=
  .ofString "\x7b" ++ b.name.text ++ .ofString ": " ++ b.value.render ++ .ofString "\x7d"

/-- Whether two bindings agree: the same name, values equal by `Value.equal`. -/
def Binding.equal (a b : Binding) : Bool :=
  a.name.text == b.name.text && a.value.equal b.value

/-- An environment: its bindings, innermost first. -/
structure Env where
  /-- The bindings, innermost first, shadowed ones included. -/
  bindings : List Binding

namespace Env

def empty : Env := ⟨[]⟩

/-- The environment with `x` bound to `v` in front of `e`. -/
def extend (e : Env) (x : Name) (v : Value) : Env :=
  ⟨⟨x, v⟩ :: e.bindings⟩

/-- Binds a scalar, which must be non-empty text. -/
def bind? (e : Env) (x : Scalar) (v : Value) : Except Fault Env :=
  match Name.ofScalar? x with
  | some n => .ok (e.extend n v)
  | none => .error (.invalidName x)

/-- The environment that binds the pairs in order, each in front of those before it. -/
def ofPairs? (pairs : List (Scalar × Value)) : Except Fault Env :=
  pairs.foldlM (fun e p => e.bind? p.1 p.2) empty

/-- The innermost value bound to a scalar; only text can be bound. -/
def lookup? (e : Env) : Scalar → Option Value
  | .str s => (e.bindings.find? (fun b => b.name.text == s)).map Binding.value
  | _ => none

/-- The innermost value bound to a scalar, or the fault that none is. -/
def lookup (e : Env) (x : Scalar) : Except Fault Value :=
  match e.lookup? x with
  | some v => .ok v
  | none => .error (.unbound x)

/-- The number of bindings, shadowed ones included. -/
def depth (e : Env) : Nat :=
  e.bindings.length

/-- How an environment is written: its bindings innermost first, each followed by an
arrow, and the empty end. -/
def render (e : Env) : Text :=
  .ofString "<Environment chain: " ++
    (Text.ofString " -> ").intercalate (e.bindings.map Binding.render ++ [.ofString "\x7b\x7d"]) ++
    .ofString ">"

/-- Whether two environments agree binding by binding. -/
def equal (a b : Env) : Bool :=
  a.depth == b.depth && (a.bindings.zip b.bindings).all (fun p => p.1.equal p.2)

end Env

/-!
## Scripts of environment operations

A script runs operations on one current environment, starting from the empty one with
nothing saved: extend it, look a name up, list its bindings, write it, save it under a
slot, make a saved one current again, compare it with a saved one, or empty it. Every
operation answers with the depth of the current environment after it.

Environments never change once made, so a saved environment is exactly the one that was
current when it was saved. Each binding made is stamped with a number no other binding
gets, and two environments compare equal when they have the same stamp at the front, that
is, when they are the same chain, or else agree binding by binding (`Binding.equal`) down
to a common chain or to the end of both. The stamps matter only where a value is not equal
to itself: a chain that holds NaN is still equal to itself.
-/

/-- A binding with the stamp of the step that made it. -/
structure Frame where
  /-- A number no other frame has. -/
  stamp : Nat
  binding : Binding

/-- Whether two stamped chains are equal: the same chain, or equal binding by binding. -/
def Frame.sameChain : List Frame → List Frame → Bool
  | [], [] => true
  | a :: as, b :: bs => a.stamp == b.stamp || (a.binding.equal b.binding && Frame.sameChain as bs)
  | _, _ => false

/-- One operation of a script. -/
inductive Step where
  /-- Bind a name in front of the current environment. -/
  | extend (name : Scalar) (value : Value)
  | lookup (name : Scalar)
  | bindings
  /-- Write the current environment. -/
  | render
  /-- Save the current environment under a slot. -/
  | save (slot : Text)
  /-- Make the environment saved under a slot current. -/
  | restore (slot : Text)
  /-- Compare the current environment with the one saved under a slot. -/
  | compare (slot : Text)
  /-- Make the empty environment current. -/
  | reset

/-- What an operation answers besides the depth. -/
inductive Reply where
  | done
  /-- The outcome of a look-up. -/
  | found (outcome : Except Fault Value)
  /-- A binding that could not be made. -/
  | refused (f : Fault)
  /-- The bindings, innermost first. -/
  | listing (bs : List Binding)
  /-- The text of the environment. -/
  | text (s : Text)
  /-- Whether the environments compared are equal. -/
  | equal (b : Bool)

/-- The answer to one operation. -/
structure Answer where
  /-- What the operation answers. -/
  reply : Reply
  /-- The depth of the current environment after it. -/
  depth : Nat

namespace Step

/-- The state of a script: the current chain, the saved chains, the next stamp. -/
structure State where
  /-- The current environment, stamped. -/
  current : List Frame := []
  /-- The saved environments, the latest save of a slot first. -/
  saved : List (Text × List Frame) := []
  /-- The stamp the next binding gets. -/
  next : Nat := 0

def envOf (frames : List Frame) : Env :=
  ⟨frames.map Frame.binding⟩

def State.recall? (s : State) (slot : Text) : Option (List Frame) :=
  (s.saved.find? (fun p => p.1 == slot)).map Prod.snd

/-- Runs one operation; an error names a slot that holds nothing. -/
def run (s : State) : Step → Except Text (Reply × State)
  | .extend name value =>
    match Name.ofScalar? name with
    | some n => .ok (.done, { s with current := ⟨s.next, ⟨n, value⟩⟩ :: s.current, next := s.next + 1 })
    | none => .ok (.refused (.invalidName name), s)
  | .lookup name => .ok (.found ((envOf s.current).lookup name), s)
  | .bindings => .ok (.listing (envOf s.current).bindings, s)
  | .render => .ok (.text (envOf s.current).render, s)
  | .save slot => .ok (.done, { s with saved := (slot, s.current) :: s.saved })
  | .restore slot =>
    match s.recall? slot with
    | some c => .ok (.done, { s with current := c })
    | none => .error slot
  | .compare slot =>
    match s.recall? slot with
    | some c => .ok (.equal (Frame.sameChain s.current c), s)
    | none => .error slot
  | .reset => .ok (.done, { s with current := [] })

def runAll : State → List Step → Except Text (List Answer)
  | _, [] => .ok []
  | s, step :: rest =>
    match run s step with
    | .error slot => .error slot
    | .ok (reply, s') =>
      match runAll s' rest with
      | .ok answers => .ok (⟨reply, s'.current.length⟩ :: answers)
      | .error slot => .error slot

end Step

/-- Runs a script from the empty environment with nothing saved; an error names a slot
that holds nothing. -/
def runScript (steps : List Step) : Except Text (List Answer) :=
  Step.runAll {} steps

end L1
