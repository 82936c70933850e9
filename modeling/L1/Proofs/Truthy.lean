import L1.Proofs.Escape

/-!
# The truth mode only relaxes `not`

The option is read by `not` alone, on a single operand that is no truth value: the strict
mode refuses it, the truth mode negates its truth. A fault, once met, is carried unchanged
to the end of an evaluation and of a sequence, so the two modes agree unless the strict run
ends refusing `not` of such an operand (`Relaxes`), and every strict success is a success
of the truth mode.

What a caller sees of the two runs is their `Ending`, where every fault whose message cannot
be built is the same error. The strict refusal is meant to be returned (`RelaxesOnlyNot`),
but over an integer too long to be written it is that error instead, and the truth mode,
which goes on from there, need not raise it.
-/

namespace L1

/-- What the truth mode may change in an outcome: nothing, unless the strict outcome refuses
`not` of a single operand that is no truth value. -/
def Relaxes {α : Type} (strict truthy : Except Fault α) : Prop :=
  strict = truthy ∨ ∃ v, (∀ b, v ≠ .bool b) ∧ strict = .error (.typeMismatch .not [v])

namespace Relaxes

variable {α β : Type}

theorem refl (r : Except Fault α) : Relaxes r r := .inl rfl

theorem bind {strict truthy : Except Fault α} {f g : α → Except Fault β}
    (hr : Relaxes strict truthy) (hf : ∀ a, Relaxes (f a) (g a)) :
    Relaxes (strict >>= f) (truthy >>= g) := by
  rcases hr with rfl | ⟨v, hv, rfl⟩
  · cases strict with
    | error e => exact refl _
    | ok a => exact hf a
  · exact .inr ⟨v, hv, rfl⟩

theorem map {strict truthy : Except Fault α} (f : α → β) (hr : Relaxes strict truthy) :
    Relaxes (f <$> strict) (f <$> truthy) := by
  rcases hr with rfl | ⟨v, hv, rfl⟩
  · exact refl _
  · exact .inr ⟨v, hv, rfl⟩

theorem eq_ok {strict truthy : Except Fault α} {a : α} (hr : Relaxes strict truthy)
    (hstrict : strict = .ok a) : truthy = .ok a := by
  rcases hr with rfl | ⟨v, _, rfl⟩
  · exact hstrict
  · cases hstrict

/-- Where the second outcome never refuses `not` of one operand, the two agree exactly when
the strict one does not refuse it either. -/
theorem eq_iff {strict truthy : Except Fault α} (hr : Relaxes strict truthy)
    (htruthy : ∀ v, truthy ≠ .error (.typeMismatch .not [v])) :
    strict = truthy ↔ ∀ v, strict ≠ .error (.typeMismatch .not [v]) := by
  constructor
  · rintro rfl
    exact htruthy
  · intro hstrict
    rcases hr with heq | ⟨v, -, hv⟩
    · exact heq
    · exact absurd hv (hstrict v)

end Relaxes

/-! ## Applying an operator -/

theorem Prim.apply_eq_of_ne_single_not (o o' : Options) {p : Prim} {args : List Value}
    (hp : ∀ v, p = .not → args ≠ [v]) : p.apply o args = p.apply o' args := by
  match p, args with
  | .arith _, _ => rfl
  | .compare _, [] | .not, [] => rfl
  | .compare _, [v] => cases v <;> rfl
  | .not, [v] => exact absurd rfl (hp v rfl)
  | .compare _, v :: w :: rest | .not, v :: w :: rest =>
      cases v <;> cases w <;> cases rest <;> rfl

theorem Prim.apply_relaxes (p : Prim) (args : List Value) :
    Relaxes (p.apply { truthyNot := false } args) (p.apply { truthyNot := true } args) := by
  by_cases hsingle : ∃ v, p = .not ∧ args = [v]
  · obtain ⟨v, rfl, rfl⟩ := hsingle
    cases v with
    | bool b => exact .refl _
    | num n => exact .inr ⟨.num n, fun _ => Value.noConfusion, rfl⟩
    | prim t => exact .inr ⟨.prim t, fun _ => Value.noConfusion, rfl⟩
  · rw [Prim.apply_eq_of_ne_single_not _ { truthyNot := true }
      fun v hp hargs => hsingle ⟨v, hp, hargs⟩]
    exact .refl _

theorem applyNode_relaxes (rator : Node) (args : List Value) :
    Relaxes (applyNode { truthyNot := false } rator args)
      (applyNode { truthyNot := true } rator args) := by
  cases rator
  case prim tag =>
    simp only [applyNode, applyTag]
    cases Prim.ofTag? tag with
    | some p => exact Prim.apply_relaxes p args
    | none => exact .refl _
  all_goals exact .refl _

/-! ## Evaluating -/

namespace Node

theorem eval_app_bind (o : Options) (env : Env) (rator : Node) (rands : List Node) :
    (Node.app rator rands).eval o env = evalAll o env rands >>= applyNode o rator := by
  rw [eval_app]
  cases evalAll o env rands <;> rfl

theorem evalAll_cons_bind (o : Options) (env : Env) (e : Node) (es : List Node) :
    evalAll o env (e :: es) = e.eval o env >>= fun v => (v :: ·) <$> evalAll o env es := by
  rw [evalAll_cons]
  cases e.eval o env with
  | error f => rfl
  | ok v => cases evalAll o env es <;> rfl

mutual

theorem eval_relaxes (env : Env) :
    ∀ e : Node, Relaxes (e.eval { truthyNot := false } env) (e.eval { truthyNot := true } env)
  | .app rator rands => by
      rw [eval_app_bind, eval_app_bind]
      exact (evalAll_relaxes env rands).bind fun args => applyNode_relaxes rator args
  | .num _ | .bool _ | .prim _ | .var _ | .decl _ | .define _ _ | .program _ | .list _
  | .tuple _ | .scalar _ => .refl _

theorem evalAll_relaxes (env : Env) :
    ∀ es : List Node,
      Relaxes (evalAll { truthyNot := false } env es) (evalAll { truthyNot := true } env es)
  | [] => .refl _
  | e :: es => by
      rw [evalAll_cons_bind, evalAll_cons_bind]
      exact (eval_relaxes env e).bind fun v => (evalAll_relaxes env es).map _

end

end Node

/-! ## Running a sequence -/

namespace Program

theorem step_relaxes (env : Env) (form : Node) :
    Relaxes (step { truthyNot := false } env form) (step { truthyNot := true } env form) := by
  rcases form_cases form with ⟨name, rhs, rfl⟩ | ⟨target, rhs, rfl, htarget⟩ | hform
  · rw [step_define, step_define]
    exact (Node.eval_relaxes env rhs).map _
  · rw [step_define_malformed _ env rhs htarget, step_define_malformed _ env rhs htarget]
    exact .refl _
  · rw [step_of_ne_define _ env hform, step_of_ne_define _ env hform]
    exact (Node.eval_relaxes env form).map _

theorem finish_relaxes (env : Env) (form : Node) :
    Relaxes (finish { truthyNot := false } env form) (finish { truthyNot := true } env form) := by
  by_cases hdefine : ∃ target rhs, form = .define target rhs
  · obtain ⟨target, rhs, rfl⟩ := hdefine
    rw [finish_define, finish_define]
    exact (step_relaxes env _).bind fun _ => .refl _
  · have hform : ∀ target rhs, form ≠ .define target rhs := fun target rhs heq =>
      hdefine ⟨target, rhs, heq⟩
    rw [finish_of_ne_define _ env hform, finish_of_ne_define _ env hform]
    exact Node.eval_relaxes env form

theorem runSequence_relaxes :
    ∀ (forms : List Node) (env : Env),
      Relaxes (runSequence { truthyNot := false } forms env)
        (runSequence { truthyNot := true } forms env)
  | [], _ => .refl _
  | [form], env => finish_relaxes env form
  | form :: next :: rest, env => by
      rw [runSequence_cons _ env form (List.cons_ne_nil next rest),
        runSequence_cons _ env form (List.cons_ne_nil next rest)]
      exact (step_relaxes env form).bind fun env' => runSequence_relaxes (next :: rest) env'

end Program

/-! ## The truth mode never refuses `not` of one operand -/

theorem Arith.apply_ne_not_mismatch (a : Arith) (args operands : List Value) :
    a.apply args ≠ .error (.typeMismatch .not operands) := by
  unfold Arith.apply
  split
  · simp
  · split
    · simp
    · split <;> simp

theorem Prim.apply_truthy_ne_not_mismatch (p : Prim) (args : List Value) (v : Value) :
    p.apply { truthyNot := true } args ≠ .error (.typeMismatch .not [v]) := by
  intro h
  -- a refusal carries the operands as they were given, so they are the single `v`
  have hargs : [v] = args := Prim.apply_error h
  subst hargs
  match p with
  | .arith a => exact Arith.apply_ne_not_mismatch a [v] [v] h
  | .compare _ => cases v <;> cases h
  | .not => cases v <;> cases h

theorem applyNode_truthy_ne_not_mismatch (rator : Node) (args : List Value) (v : Value) :
    applyNode { truthyNot := true } rator args ≠ .error (.typeMismatch .not [v]) := by
  cases rator
  case prim tag =>
    simp only [applyNode, applyTag]
    cases Prim.ofTag? tag with
    | some p => exact Prim.apply_truthy_ne_not_mismatch p args v
    | none => simp
  all_goals simp [applyNode]

theorem faultInvariant_truthy_ne_not_mismatch :
    FaultInvariant { truthyNot := true } (fun _ => True) fun f => ∀ v, f ≠ .typeMismatch .not [v] where
  unbound x _ v := by simp
  apply rator _ args _ _ hf v heq := applyNode_truthy_ne_not_mismatch rator args v (heq ▸ hf)
  malformed node _ v := by simp
  operands _ _ _ _ _ := trivial
  rhs _ _ _ := trivial

theorem Node.eval_truthy_ne_not_mismatch (env : Env) (e : Node) (v : Value) :
    e.eval { truthyNot := true } env ≠ .error (.typeMismatch .not [v]) := fun h =>
  Node.eval_error_of faultInvariant_truthy_ne_not_mismatch e trivial _ h v rfl

theorem Program.runSequence_truthy_ne_not_mismatch (forms : List Node) (env : Env) (v : Value) :
    runSequence { truthyNot := true } forms env ≠ .error (.typeMismatch .not [v]) := fun h =>
  Program.runSequence_error_of faultInvariant_truthy_ne_not_mismatch (by simp) forms env
    (fun _ _ => trivial) _ h v rfl

/-! ## The two modes -/

/-- What the truth mode is meant to change in what a caller sees: nothing, unless the strict
run returns the refusal of `not` of a single operand that is no truth value. -/
def RelaxesOnlyNot {α : Type} (strict truthy : Except Fault α) : Prop :=
  Ending.of strict = Ending.of truthy ∨
    ∃ v, (∀ b, v ≠ .bool b) ∧ Ending.of strict = .failure (.typeMismatch .not [v])

/-- Two outcomes related by `Relaxes` keep the intended relation exactly when the second
raises the error of a message that cannot be built wherever the first does: a refusal of
`not` is returned when its operand can be written, and is that error otherwise. -/
theorem relaxesOnlyNot_iff {α : Type} {strict truthy : Except Fault α}
    (hr : Relaxes strict truthy) :
    RelaxesOnlyNot strict truthy ↔
      (Ending.of strict = .unwritable → Ending.of truthy = .unwritable) := by
  constructor
  · rintro (heq | ⟨v, -, hv⟩) hstrict
    · rw [← heq]
      exact hstrict
    · rw [hstrict] at hv
      cases hv
  · intro hraise
    rcases hr with rfl | ⟨v, hv, rfl⟩
    · exact .inl rfl
    · -- the strict refusal is returned or raised, by whether its operand can be written
      cases hw : v.writable
      · have hstrict : Ending.of (.error (.typeMismatch .not [v]) : Except Fault α) = .unwritable := by
          simp [Ending.ofFault_eq_unwritable_iff, Fault.writable, hw]
        exact .inl (hstrict.trans (hraise hstrict).symm)
      · refine .inr ⟨v, hv, ?_⟩
        simp [Ending.ofFault, Fault.writable, hw]

/-- The two modes agree exactly when the strict run does not refuse `not` of a single
operand, and they keep the intended relation exactly when the truth mode raises the error of
a message that cannot be built wherever the strict mode does; a strict success is always a
success of the truth mode. -/
theorem truthy_relaxes_only_not (e : Node) (forms : List Node) (env : Env) :
    (e.eval { truthyNot := false } env = e.eval { truthyNot := true } env ↔
      ∀ v, e.eval { truthyNot := false } env ≠ .error (.typeMismatch .not [v])) ∧
    (Program.runSequence { truthyNot := false } forms env =
        Program.runSequence { truthyNot := true } forms env ↔
      ∀ v, Program.runSequence { truthyNot := false } forms env ≠
        .error (.typeMismatch .not [v])) ∧
    (RelaxesOnlyNot (e.eval { truthyNot := false } env) (e.eval { truthyNot := true } env) ↔
      (Ending.of (e.eval { truthyNot := false } env) = .unwritable →
        Ending.of (e.eval { truthyNot := true } env) = .unwritable)) ∧
    (RelaxesOnlyNot (Program.runSequence { truthyNot := false } forms env)
        (Program.runSequence { truthyNot := true } forms env) ↔
      (Ending.of (Program.runSequence { truthyNot := false } forms env) = .unwritable →
        Ending.of (Program.runSequence { truthyNot := true } forms env) = .unwritable)) ∧
    (∀ v, e.eval { truthyNot := false } env = .ok v → e.eval { truthyNot := true } env = .ok v) ∧
    (∀ v, Program.runSequence { truthyNot := false } forms env = .ok v →
      Program.runSequence { truthyNot := true } forms env = .ok v) := by
  have heval := Node.eval_relaxes env e
  have hrun := Program.runSequence_relaxes forms env
  refine ⟨?_, ?_, relaxesOnlyNot_iff heval, relaxesOnlyNot_iff hrun, ?_, ?_⟩
  · exact heval.eq_iff (Node.eval_truthy_ne_not_mismatch env e)
  · exact hrun.eq_iff (Program.runSequence_truthy_ne_not_mismatch forms env)
  · intro v hstrict
    exact heval.eq_ok hstrict
  · intro v hstrict
    exact hrun.eq_ok hstrict

/-- Negating the product of two integers of 2201 digits: the strict run refuses `not` of
an integer of 4401 digits, which cannot be written, so the refusal is raised while the
truth mode returns, and the two modes do not keep the intended relation. -/
theorem run_not_of_long_product_modes :
    let forms : List Node := [.app (.prim (.str (.ofString "not")))
      [.app (.prim (.str (.ofString "*"))) [.num (.int (10 ^ 2200)), .num (.int (10 ^ 2200))]]]
    ¬RelaxesOnlyNot (Program.run { truthyNot := false } forms)
        (Program.run { truthyNot := true } forms) ∧
      returnsNormally (Program.run { truthyNot := false } forms) = false ∧
      returnsNormally (Program.run { truthyNot := true } forms) = true := by
  intro forms
  have hraised : returnsNormally (Program.run { truthyNot := false } forms) = false := by
    decide +kernel
  have hreturned : returnsNormally (Program.run { truthyNot := true } forms) = true := by
    decide +kernel
  refine ⟨fun hrelaxes => ?_, hraised, hreturned⟩
  -- no binding is refused, so what is not returned is the error of a message that cannot be
  -- built, and the relation would make the truth mode raise it too
  have hending : ∀ o : Options,
      Ending.of (Program.run o forms) = .unwritable ↔ returnsNormally (Program.run o forms) = false :=
    fun o => Ending.of_eq_unwritable_iff (Program.runSequence_ne_invalidName o forms Env.empty)
  have htruthy := (truthy_relaxes_only_not (.num (.int 0)) forms Env.empty).2.2.2.1.mp hrelaxes
    ((hending _).mpr hraised)
  have hfalse : returnsNormally (Program.run { truthyNot := true } forms) = false :=
    (hending _).mp htruthy
  rw [hreturned] at hfalse
  cases hfalse

end L1
