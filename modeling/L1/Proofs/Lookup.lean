import L1.Eval

/-!
# Evaluation reads the environment through look-ups

An expression reads its environment only where it looks a name up, and it looks up the
names of its references, except those in operator position, which is never evaluated
(`Node.reached`). Two environments that bind these names to the same values give the same
outcome, whatever else they hold: shadowed bindings, the order of bindings of different
names, and bindings of names the expression never reaches.

The equality of environments (`Env.equal`) is not such an agreement. It compares values as
numbers, so an environment binding a name to `1` equals one binding it to `1.0` or to
true, while the operators tell these apart: a truth value is no number to `+`, and `1` and
`1.0` are written differently in a message. Equal environments can therefore give
different outcomes, and the congruence holds for agreeing look-ups instead.
-/

namespace L1

namespace Node

mutual

/-- The names an expression looks up when it is evaluated: its references, except in
operator position. -/
def reached : Node → List Scalar
  | .var x => [x]
  | .app _ rands => reachedAll rands
  | _ => []

def reachedAll : List Node → List Scalar
  | [] => []
  | n :: ns => n.reached ++ reachedAll ns

end

variable {o : Options} {env1 env2 : Env}

mutual

theorem eval_congr (e : Node) (hlookup : ∀ x ∈ e.reached, env1.lookup x = env2.lookup x) :
    e.eval o env1 = e.eval o env2 := by
  match e with
  | .var x => exact hlookup x (by simp [reached])
  | .app rator rands =>
      rw [eval_app, eval_app, evalAll_congr rands (by simpa [reached] using hlookup)]
  | .num _ | .bool _ | .prim _ | .decl _ | .define _ _ | .program _ | .list _ | .tuple _
  | .scalar _ => rfl

theorem evalAll_congr (es : List Node)
    (hlookup : ∀ x ∈ reachedAll es, env1.lookup x = env2.lookup x) :
    evalAll o env1 es = evalAll o env2 es := by
  match es with
  | [] => rfl
  | e :: es =>
      have hhead : ∀ x ∈ e.reached, env1.lookup x = env2.lookup x := fun x hx =>
        hlookup x (by simp [reachedAll, hx])
      have htail : ∀ x ∈ reachedAll es, env1.lookup x = env2.lookup x := fun x hx =>
        hlookup x (by simp [reachedAll, hx])
      rw [evalAll_cons, evalAll_cons, eval_congr e hhead, evalAll_congr es htail]

end

end Node

/-! ## Look-ups in a chain -/

namespace Env

theorem lookup_congr {e e' : Env} {x : Scalar} (h : e.lookup? x = e'.lookup? x) :
    e.lookup x = e'.lookup x := by
  simp only [lookup, h]

theorem lookup?_drop (outer inner : List Binding) (b : Binding) {x : Scalar}
    (hx : x = .str b.name.text → ∃ b' ∈ outer, b'.name.text = b.name.text) :
    lookup? ⟨outer ++ b :: inner⟩ x = lookup? ⟨outer ++ inner⟩ x := by
  cases x with
  | str s =>
      simp only [lookup?, List.find?_append]
      cases houter : outer.find? (fun b' => b'.name.text == s) with
      | some found => rfl
      | none =>
          -- no outer binding has the name, so neither has `b`, had it been looked up
          have hb : (b.name.text == s) = false := by
            rw [beq_eq_false_iff_ne]
            rintro rfl
            obtain ⟨b', hb', hname⟩ := hx rfl
            exact absurd (by simpa using hname) (List.find?_eq_none.mp houter b' hb')
          simp [hb]
  | int _ | float _ | bool _ | none => rfl

theorem lookup?_swap (outer inner : List Binding) {b c : Binding}
    (hbc : b.name.text ≠ c.name.text) (x : Scalar) :
    lookup? ⟨outer ++ b :: c :: inner⟩ x = lookup? ⟨outer ++ c :: b :: inner⟩ x := by
  cases x with
  | str s =>
      -- at most one of the two bindings has the name looked up
      have hpair : (b :: c :: inner).find? (fun b' => b'.name.text == s) =
          (c :: b :: inner).find? (fun b' => b'.name.text == s) := by
        cases hb : b.name.text == s <;> cases hc : c.name.text == s
        case true.true => exact absurd ((beq_iff_eq.mp hb).trans (beq_iff_eq.mp hc).symm) hbc
        all_goals simp [hb, hc]
      simp only [lookup?, List.find?_append, hpair]
  | int _ | float _ | bool _ | none => rfl

end Env

/-! ## Equal environments -/

def Name.x : Name := ⟨Text.ofString "x", by decide⟩

/-- Binding `x` to `1` and binding it to true give equal environments, yet `(+ x)` is `1` in
the first and a type mismatch in the second: a truth value is no number to `+`. -/
theorem equal_envs_differ_on_sum :
    let sum : Node := .app (.prim (.str (.ofString "+"))) [.var (.str (.ofString "x"))]
    let env1 : Env := ⟨[⟨Name.x, .num (.int 1)⟩]⟩
    let env2 : Env := ⟨[⟨Name.x, .bool true⟩]⟩
    env1.equal env2 = true ∧ sum.eval {} env1 = .ok (.num (.int 1)) ∧
      sum.eval {} env2 = .error (.typeMismatch (.arith .add) [.bool true]) := by
  refine ⟨?_, ?_, ?_⟩
  · decide
  · rfl
  · rfl

/-- Environments that bind every name to the same value give every expression the same
outcome. -/
theorem eval_eq_of_lookup_eq (o : Options) (e : Node) {env1 env2 : Env}
    (hlookup : ∀ x, env1.lookup x = env2.lookup x) : e.eval o env1 = e.eval o env2 :=
  Node.eval_congr e fun x _ => hlookup x

/-- An environment where `x` is bound to `1` over an earlier binding of `x` to true agrees on
every name with the one that binds `x` to `1` alone, and `(+ x 2)` is the same in both. -/
theorem eval_sum_under_shadowed_binding :
    let sum : Node :=
      .app (.prim (.str (.ofString "+"))) [.var (.str (.ofString "x")), .num (.int 2)]
    let env1 : Env := ⟨[⟨Name.x, .num (.int 1)⟩]⟩
    let env2 : Env := ⟨[⟨Name.x, .num (.int 1)⟩, ⟨Name.x, .bool true⟩]⟩
    (∀ x, env1.lookup x = env2.lookup x) ∧ sum.eval {} env1 = sum.eval {} env2 := by
  intro sum env1 env2
  have hlookup : ∀ x, env1.lookup x = env2.lookup x := by
    intro x
    cases x with
    | str s =>
        -- both find the binding of `x` first, or neither binding matches
        by_cases hs : Name.x.text = s
        · simp [env1, env2, Env.lookup, Env.lookup?, hs]
        · simp [env1, env2, Env.lookup, Env.lookup?, hs]
    | int _ | float _ | bool _ | none => rfl
  exact ⟨hlookup, eval_eq_of_lookup_eq {} sum hlookup⟩

/-! ## What evaluation reads -/

/-- Evaluation reads its environment only through the look-ups of the names it reaches:
environments that agree on these give the same outcome. Hence a shadowed binding, the order
of bindings of different names, and a binding of a name the expression never reaches do not
change it. -/
theorem eval_reads_only_reached_names (o : Options) (e : Node) :
    (∀ env1 env2 : Env, (∀ x ∈ e.reached, env1.lookup x = env2.lookup x) →
      e.eval o env1 = e.eval o env2) ∧
    (∀ (outer inner : List Binding) (b : Binding), (∃ b' ∈ outer, b'.name.text = b.name.text) →
      e.eval o ⟨outer ++ b :: inner⟩ = e.eval o ⟨outer ++ inner⟩) ∧
    (∀ (outer inner : List Binding) (b c : Binding), b.name.text ≠ c.name.text →
      e.eval o ⟨outer ++ b :: c :: inner⟩ = e.eval o ⟨outer ++ c :: b :: inner⟩) ∧
    (∀ (outer inner : List Binding) (b : Binding), Scalar.str b.name.text ∉ e.reached →
      e.eval o ⟨outer ++ b :: inner⟩ = e.eval o ⟨outer ++ inner⟩) := by
  refine ⟨fun env1 env2 hlookup => Node.eval_congr e hlookup, ?_, ?_, ?_⟩
  · intro outer inner b hshadowed
    exact Node.eval_congr e fun x _ =>
      Env.lookup_congr (Env.lookup?_drop outer inner b fun _ => hshadowed)
  · intro outer inner b c hbc
    exact Node.eval_congr e fun x _ => Env.lookup_congr (Env.lookup?_swap outer inner hbc x)
  · intro outer inner b hunread
    refine Node.eval_congr e fun x hx => Env.lookup_congr (Env.lookup?_drop outer inner b ?_)
    rintro rfl
    exact absurd hx hunread

def Name.y : Name := ⟨Text.ofString "y", by decide⟩

/-- `(+ x y)` has the same value whichever of its two bindings comes first. -/
theorem eval_sum_of_swapped_bindings :
    let sum : Node :=
      .app (.prim (.str (.ofString "+"))) [.var (.str (.ofString "x")), .var (.str (.ofString "y"))]
    let one : Binding := ⟨Name.x, .num (.int 1)⟩
    let two : Binding := ⟨Name.y, .num (.int 2)⟩
    one.name.text ≠ two.name.text ∧ sum.eval {} ⟨[one, two]⟩ = sum.eval {} ⟨[two, one]⟩ := by
  intro sum one two
  have hne : one.name.text ≠ two.name.text := by decide
  exact ⟨hne, (eval_reads_only_reached_names {} sum).2.2.1 [] [] one two hne⟩

end L1
