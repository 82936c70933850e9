import L1.Proofs.Lookup
import L1.Proofs.Sequence

/-!
# Successful sequences in a larger environment

An environment extends another when it binds every name the other binds, to the same value
(`Env.Extends`); it may bind more names. A successful evaluation found a binding for every
name it reaches, so it gives the same value in every extension. A definition puts the same
binding in front of both environments, which keeps the one an extension of the other, and
so a sequence that succeeds keeps its value when it is run from an extension: a name that
only the larger environment binds is never looked up before a definition of it.
-/

namespace L1

section Outcome

variable {α β : Type} {x : Except Fault α}

theorem bind_eq_ok {f : α → Except Fault β} {b : β} :
    x >>= f = .ok b ↔ ∃ a, x = .ok a ∧ f a = .ok b := by
  cases x with
  | error e => simp [bind, Except.bind]
  | ok a => simp [bind, Except.bind]

theorem map_eq_ok {f : α → β} {b : β} : f <$> x = .ok b ↔ ∃ a, x = .ok a ∧ f a = b := by
  cases x with
  | error e => simp [Functor.map, Except.map]
  | ok a => simp [Functor.map, Except.map]

end Outcome

namespace Env

/-- `env'` binds every name that `env` binds, to the same value. -/
def Extends (env' env : Env) : Prop :=
  ∀ x v, env.lookup x = .ok v → env'.lookup x = .ok v

@[simp] theorem lookup_extend_self (env : Env) (n : Name) (v : Value) :
    (env.extend n v).lookup (.str n.text) = .ok v := by
  simp [extend, lookup, lookup?]

theorem lookup_extend_of_ne (env : Env) (n : Name) (v : Value) {x : Scalar}
    (hx : x ≠ .str n.text) : (env.extend n v).lookup x = env.lookup x := by
  cases x with
  | str s =>
      have hs : n.text ≠ s := fun h => hx (h ▸ rfl)
      simp [extend, lookup, lookup?, hs]
  | int _ | float _ | bool _ | none => rfl

theorem Extends.extend {env env' : Env} (hext : env'.Extends env) (n : Name) (v : Value) :
    (env'.extend n v).Extends (env.extend n v) := by
  intro x w hx
  by_cases hxn : x = .str n.text
  · subst hxn
    simpa using hx
  · rw [lookup_extend_of_ne _ _ _ hxn] at hx ⊢
    exact hext x w hx

theorem extends_prepend (env : Env) (outer : List Binding)
    (hfresh : ∀ b ∈ outer, env.lookup? (.str b.name.text) = none) :
    Env.Extends ⟨outer ++ env.bindings⟩ env := by
  intro x v hx
  cases x with
  | str s =>
      -- the name is bound in `env`, so no binding in front of it has the name
      have hskip : outer.find? (fun b => b.name.text == s) = none := by
        rw [List.find?_eq_none]
        intro b hb hname
        have hbound : env.lookup? (.str s) ≠ none := by
          intro hnone
          simp [lookup, hnone] at hx
        exact hbound (beq_iff_eq.mp hname ▸ hfresh b hb)
      simpa [lookup, lookup?, List.find?_append, hskip] using hx
  | int _ | float _ | bool _ | none => simp [lookup, lookup?] at hx

end Env

namespace Node

variable {o : Options} {env env' : Env}

mutual

theorem eval_ok_reached_bound :
    ∀ (e : Node) {v : Value}, e.eval o env = .ok v → ∀ x ∈ e.reached, ∃ w, env.lookup x = .ok w
  | .var y, v, h, x, hx => by
      have hxy : x = y := by simpa [reached] using hx
      exact ⟨v, hxy ▸ h⟩
  | .app rator rands, v, h, x, hx => by
      rw [eval_app] at h
      cases hrands : evalAll o env rands with
      | ok args => exact evalAll_ok_reached_bound rands hrands x (by simpa [reached] using hx)
      | error f =>
          rw [hrands] at h
          nomatch h
  | .num _, _, _, x, hx | .bool _, _, _, x, hx | .prim _, _, _, x, hx | .decl _, _, _, x, hx
  | .define _ _, _, _, x, hx | .program _, _, _, x, hx | .list _, _, _, x, hx
  | .tuple _, _, _, x, hx | .scalar _, _, _, x, hx => by simp [reached] at hx

theorem evalAll_ok_reached_bound :
    ∀ (es : List Node) {vs : List Value}, evalAll o env es = .ok vs →
      ∀ x ∈ reachedAll es, ∃ w, env.lookup x = .ok w
  | [], _, _, x, hx => by simp [reachedAll] at hx
  | e :: es, vs, h, x, hx => by
      rw [evalAll_cons] at h
      cases he : e.eval o env with
      | error f =>
          rw [he] at h
          nomatch h
      | ok v =>
          cases hes : evalAll o env es with
          | error f =>
              rw [he, hes] at h
              nomatch h
          | ok vs' =>
              rcases List.mem_append.mp (by simpa [reachedAll] using hx) with hx | hx
              · exact eval_ok_reached_bound e he x hx
              · exact evalAll_ok_reached_bound es hes x hx

end

theorem eval_ok_of_extends (hext : env'.Extends env) {e : Node} {v : Value}
    (h : e.eval o env = .ok v) : e.eval o env' = .ok v := by
  have hagree : ∀ x ∈ e.reached, env.lookup x = env'.lookup x := by
    intro x hx
    obtain ⟨w, hw⟩ := eval_ok_reached_bound e h x hx
    rw [hw, hext x w hw]
  exact (eval_congr e hagree).symm.trans h

end Node

namespace Program

variable {o : Options}

theorem step_ok_of_extends {env env' env1 : Env} (hext : env'.Extends env) {form : Node}
    (h : step o env form = .ok env1) :
    ∃ env1', step o env' form = .ok env1' ∧ env1'.Extends env1 := by
  rcases form_cases form with ⟨name, rhs, rfl⟩ | ⟨target, rhs, rfl, htarget⟩ | hform
  · rw [step_define] at h ⊢
    obtain ⟨v, hrhs, rfl⟩ := map_eq_ok.mp h
    -- both environments take the same binding in front
    refine ⟨env'.extend name v, ?_, hext.extend name v⟩
    rw [Node.eval_ok_of_extends hext hrhs]
    rfl
  · rw [step_define_malformed o env rhs htarget] at h
    nomatch h
  · rw [step_of_ne_define o env hform] at h
    rw [step_of_ne_define o env' hform]
    obtain ⟨v, hvalue, rfl⟩ := map_eq_ok.mp h
    refine ⟨env', ?_, hext⟩
    rw [Node.eval_ok_of_extends hext hvalue]
    rfl

theorem finish_ok_of_extends {env env' : Env} (hext : env'.Extends env) {form : Node}
    {v : Value} (h : finish o env form = .ok v) : finish o env' form = .ok v := by
  by_cases hdefine : ∃ target rhs, form = .define target rhs
  · obtain ⟨target, rhs, rfl⟩ := hdefine
    -- a last definition gives no value, whatever its right side gives
    rw [finish_define] at h
    obtain ⟨_, -, hempty⟩ := bind_eq_ok.mp h
    nomatch hempty
  · have hform : ∀ target rhs, form ≠ .define target rhs := fun target rhs heq =>
      hdefine ⟨target, rhs, heq⟩
    rw [finish_of_ne_define o env hform] at h
    rw [finish_of_ne_define o env' hform]
    exact Node.eval_ok_of_extends hext h

/-- A sequence that succeeds from an environment succeeds with the same value from every
extension of it. -/
theorem runSequence_value_of_extends :
    ∀ (forms : List Node) {env env' : Env}, env'.Extends env → ∀ {v : Value},
      runSequence o forms env = .ok v → runSequence o forms env' = .ok v
  | [], _, _, _, _, h => nomatch h
  | [_], _, _, hext, _, h => finish_ok_of_extends hext h
  | form :: next :: rest, env, env', hext, v, h => by
      rw [runSequence_cons o env form (List.cons_ne_nil next rest)] at h
      rw [runSequence_cons o env' form (List.cons_ne_nil next rest)]
      obtain ⟨env1, hstep, hrest⟩ := bind_eq_ok.mp h
      -- the invariant: the environment of the larger run extends that of the other
      obtain ⟨env1', hstep', hext1⟩ := step_ok_of_extends hext hstep
      rw [hstep']
      exact runSequence_value_of_extends (next :: rest) hext1 hrest

end Program

/-- `y := (+ x 1); (* y 2)` is `8` where `x` is `3`, and stays `8` where `y` is also bound
beforehand, since the definition comes before the reference. -/
theorem run_keeps_value_over_prebound_name :
    let forms : List Node :=
      [.define (.decl (.str (.ofString "y")))
        (.app (.prim (.str (.ofString "+"))) [.var (.str (.ofString "x")), .num (.int 1)]),
       .app (.prim (.str (.ofString "*"))) [.var (.str (.ofString "y")), .num (.int 2)]]
    let env : Env := ⟨[⟨Name.x, .num (.int 3)⟩]⟩
    let env' : Env := ⟨⟨Name.y, .bool true⟩ :: env.bindings⟩
    env'.Extends env ∧ Program.runSequence {} forms env = .ok (.num (.int 8)) ∧
      Program.runSequence {} forms env' = .ok (.num (.int 8)) := by
  intro forms env env'
  have hext : env'.Extends env := Env.extends_prepend env [⟨Name.y, .bool true⟩] (by decide)
  have hrun : Program.runSequence {} forms env = .ok (.num (.int 8)) := rfl
  exact ⟨hext, hrun, Program.runSequence_value_of_extends forms hext hrun⟩

end L1
