import L1.Eval

/-!
# Splitting a sequence

A sequence of top-level forms is run form by form, each form before the last one turning
the current environment into the next or stopping the run with a fault. This module proves
that the run can be cut at any point: running `prefixForms ++ forms` is running
`prefixForms` step by step (the standard monadic fold of `Program.step`, which stops at the
first fault) and then running `forms` from the environment that the prefix leaves. With the
laws for the empty and the one-form sequence, and with what one step does, this fixes the
value of every sequence and of every program.
-/

namespace L1.Program

variable (o : Options)

/-! ## One step -/

/-- A definition whose target is not the declaration of a name is refused as a whole,
whatever its right side would give. -/
theorem step_define_malformed (env : Env) {target : Node} (rhs : Node)
    (htarget : ∀ name : Name, target ≠ .decl (.str name.text)) :
    step o env (.define target rhs) = .error (.malformed (.define target rhs)) := by
  simp only [step, define]
  split
  · rename_i text
    -- the target declares some text, which can only be the empty one
    have hempty : text = Text.empty :=
      Classical.byContradiction fun hne => htarget ⟨text, hne⟩ rfl
    rw [dif_pos hempty]
  · rfl

theorem step_define (env : Env) (name : Name) (rhs : Node) :
    step o env (.define (.decl (.str name.text)) rhs) = env.extend name <$> rhs.eval o env := by
  simp only [step, define, name.nonempty, dite_false]
  cases rhs.eval o env <;> rfl

theorem step_of_ne_define (env : Env) {form : Node}
    (hform : ∀ target rhs, form ≠ .define target rhs) :
    step o env form = (fun _ => env) <$> form.eval o env := by
  cases form
  case define target rhs => exact absurd rfl (hform target rhs)
  all_goals
    simp only [step]
    cases Node.eval _ _ _ <;> rfl

theorem form_cases (form : Node) :
    (∃ (name : Name) (rhs : Node), form = .define (.decl (.str name.text)) rhs) ∨
    (∃ target rhs, form = .define target rhs ∧ ∀ name : Name, target ≠ .decl (.str name.text)) ∨
    (∀ target rhs, form ≠ .define target rhs) := by
  by_cases hdefine : ∃ target rhs, form = .define target rhs
  · obtain ⟨target, rhs, rfl⟩ := hdefine
    by_cases hname : ∃ name : Name, target = .decl (.str name.text)
    · obtain ⟨name, rfl⟩ := hname
      exact .inl ⟨name, rhs, rfl⟩
    · exact .inr (.inl ⟨target, rhs, rfl, fun name heq => hname ⟨name, heq⟩⟩)
  · exact .inr (.inr fun target rhs heq => hdefine ⟨target, rhs, heq⟩)

/-! ## Runs -/

theorem runPrefix_cons (env : Env) (form : Node) (rest : List Node) :
    runPrefix o (form :: rest) env = step o env form >>= runPrefix o rest := by
  simp only [runPrefix]
  cases step o env form <;> rfl

theorem runPrefix_eq_foldlM (forms : List Node) (env : Env) :
    runPrefix o forms env = forms.foldlM (step o) env := by
  induction forms generalizing env with
  | nil => rfl
  | cons form rest ih =>
      rw [runPrefix_cons, List.foldlM_cons]
      congr 1
      funext env'
      exact ih env'

theorem runSequence_cons (env : Env) (form : Node) {rest : List Node} (hrest : rest ≠ []) :
    runSequence o (form :: rest) env = step o env form >>= runSequence o rest := by
  match rest, hrest with
  | next :: rest, _ =>
      rw [runSequence_cons_cons]
      cases step o env form <;> rfl

/-- A sequence is its prefix run for the environment it leaves, then the rest run from
there, as long as the rest is not empty. -/
theorem runSequence_append (prefixForms : List Node) {forms : List Node} (hforms : forms ≠ [])
    (env : Env) :
    runSequence o (prefixForms ++ forms) env =
      runPrefix o prefixForms env >>= runSequence o forms := by
  induction prefixForms generalizing env with
  | nil => rfl
  | cons form rest ih =>
      have hrest : rest ++ forms ≠ [] := by simp [hforms]
      rw [List.cons_append, runSequence_cons o env form hrest, runPrefix_cons]
      cases step o env form with
      | error fault => rfl
      | ok env' => exact ih env'

theorem finish_of_ne_define (env : Env) {form : Node}
    (hform : ∀ target rhs, form ≠ .define target rhs) :
    finish o env form = form.eval o env := by
  cases form
  case define target rhs => exact absurd rfl (hform target rhs)
  all_goals rfl

theorem finish_define (env : Env) (target rhs : Node) :
    finish o env (.define target rhs) =
      step o env (.define target rhs) >>= fun _ => .error .emptyProgram := by
  simp only [finish, step]
  cases define o env target rhs <;> rfl

/-- The laws of sequences: a sequence splits before any non-empty rest, with what one step
does and what the empty and one-form sequences give. -/
theorem runSequence_split_laws :
    (∀ (prefixForms forms : List Node) (env : Env), forms ≠ [] →
      runSequence o (prefixForms ++ forms) env =
        prefixForms.foldlM (step o) env >>= runSequence o forms) ∧
    (∀ (env : Env) (target rhs : Node), (∀ name : Name, target ≠ .decl (.str name.text)) →
      step o env (.define target rhs) = .error (.malformed (.define target rhs))) ∧
    (∀ (env : Env) (name : Name) (rhs : Node),
      step o env (.define (.decl (.str name.text)) rhs) = env.extend name <$> rhs.eval o env) ∧
    (∀ (env : Env) (form : Node), (∀ target rhs, form ≠ .define target rhs) →
      step o env form = (fun _ => env) <$> form.eval o env) ∧
    (∀ env : Env, runSequence o [] env = .error .emptyProgram) ∧
    (∀ (env : Env) (form : Node), (∀ target rhs, form ≠ .define target rhs) →
      runSequence o [form] env = form.eval o env) ∧
    (∀ (env : Env) (target rhs : Node),
      runSequence o [.define target rhs] env =
        step o env (.define target rhs) >>= fun _ => .error .emptyProgram) ∧
    (∀ forms : List Node, run o forms = runSequence o forms Env.empty) := by
  refine ⟨?_, ?_, ?_, ?_, ?_, ?_, ?_, ?_⟩
  · intro prefixForms forms env hforms
    rw [runSequence_append o prefixForms hforms, runPrefix_eq_foldlM]
  · intro env target rhs htarget
    exact step_define_malformed o env rhs htarget
  · exact step_define o
  · intro env form hform
    exact step_of_ne_define o env hform
  · exact runSequence_nil o
  · intro env form hform
    exact finish_of_ne_define o env hform
  · exact finish_define o
  · intro forms
    rfl

/-- `(define x 1) (+ x 2) (define 3 4) x`, split after its first two forms: the prefix binds
`x` to `1` and drops the value of the sum, and the rest stops at the malformed definition,
before its right side and before the last form. -/
theorem run_split_at_malformed_definition :
    let x : Name := ⟨.ofString "x", by decide⟩
    let defineX : Node := .define (.decl (.str x.text)) (.num (.int 1))
    let useX : Node := .app (.prim (.str (.ofString "+"))) [.var (.str x.text), .num (.int 2)]
    let bad : Node := .define (.num (.int 3)) (.num (.int 4))
    [defineX, useX].foldlM (step {}) Env.empty = .ok (Env.empty.extend x (.num (.int 1))) ∧
      step {} (Env.empty.extend x (.num (.int 1))) bad = .error (.malformed bad) ∧
      runSequence {} ([defineX, useX] ++ [bad, .var (.str x.text)]) Env.empty =
        .error (.malformed bad) := by
  intro x defineX useX bad
  have hlaws := runSequence_split_laws {}
  let env1 := Env.empty.extend x (.num (.int 1))
  have hdefine : step {} Env.empty defineX = .ok env1 := hlaws.2.2.1 Env.empty x (.num (.int 1))
  have huse : step {} env1 useX = .ok env1 := by
    rw [hlaws.2.2.2.1 env1 useX fun _ _ => Node.noConfusion]
    rfl
  have hfirst : [defineX, useX].foldlM (step {}) Env.empty = .ok env1 := by
    rw [List.foldlM_cons, hdefine]
    change [useX].foldlM (step {}) env1 = _
    rw [List.foldlM_cons, huse]
    rfl
  have htarget : ∀ name : Name, Node.num (.int 3) ≠ .decl (.str name.text) :=
    fun _ => Node.noConfusion
  have hbad : step {} env1 bad = .error (.malformed bad) := hlaws.2.1 env1 _ _ htarget
  have hrest : runSequence {} [bad, .var (.str x.text)] env1 = .error (.malformed bad) := by
    rw [show [bad, .var (.str x.text)] = [bad] ++ [.var (.str x.text)] from rfl,
      hlaws.1 [bad] _ env1 (List.cons_ne_nil _ _), List.foldlM_cons, hbad]
    rfl
  refine ⟨hfirst, hbad, ?_⟩
  rw [hlaws.1 _ _ Env.empty (List.cons_ne_nil _ _), hfirst]
  exact hrest

end L1.Program
