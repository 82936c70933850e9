import L1.Proofs.Compare

/-!
# Which fault an application ends with

An application evaluates its operands before it looks at its operator node, so a fault of
an operand wins over every fault of the operator, and the first operand to fail wins over
the rest: the operands after it are never evaluated, however malformed. Only when every
operand has a value does the operator node count. It is never evaluated: a node that is not
an operator literal is no procedure, even a reference bound to an operator; an operator
literal whose tag names no operator is unknown; and the operator a tag names is applied to
the operands' values in their order.
-/

namespace L1

namespace Node

variable {o : Options} {env : Env}

/-! ## The operands -/

theorem evalAll_eq_ok_iff {rands : List Node} {args : List Value} :
    evalAll o env rands = .ok args ↔ List.Forall₂ (fun n v => n.eval o env = .ok v) rands args := by
  induction rands generalizing args with
  | nil => cases args <;> simp
  | cons n ns ih =>
      rw [evalAll_cons]
      cases hn : n.eval o env with
      | error f => cases args <;> simp [hn]
      | ok v =>
          cases hns : evalAll o env ns with
          | error f =>
              -- a later operand fails, so no list of values matches the operands
              cases args <;> simp [← ih, hns]
          | ok vs => cases args <;> simp [← ih, hns, hn]

theorem evalAll_append_error {pre post : List Node} {e : Node} {f : Fault}
    (hpre : ∀ n ∈ pre, ∃ v, n.eval o env = .ok v) (he : e.eval o env = .error f) :
    evalAll o env (pre ++ e :: post) = .error f := by
  induction pre with
  | nil => rw [List.nil_append, evalAll_cons, he]
  | cons n pre ih =>
      obtain ⟨v, hv⟩ := hpre n (.head _)
      rw [List.cons_append, evalAll_cons, hv, ih fun m hm => hpre m (.tail _ hm)]

theorem exists_first_error_of_evalAll {rands : List Node} {f : Fault}
    (h : evalAll o env rands = .error f) :
    ∃ pre e post, rands = pre ++ e :: post ∧ (∀ n ∈ pre, ∃ v, n.eval o env = .ok v) ∧
      e.eval o env = .error f := by
  induction rands with
  | nil => cases h
  | cons n ns ih =>
      rw [evalAll_cons] at h
      cases hn : n.eval o env with
      | error g =>
          rw [hn] at h
          cases h
          exact ⟨[], n, ns, rfl, by simp, hn⟩
      | ok v =>
          -- the first operand has a value, so the failing one is among the rest
          cases hns : evalAll o env ns with
          | ok vs => simp [hn, hns] at h
          | error g =>
              obtain ⟨pre, e, post, rfl, hpre, he⟩ := ih (by simpa [hn, hns] using h)
              refine ⟨n :: pre, e, post, rfl, ?_, he⟩
              rintro m (_ | ⟨_, hm⟩)
              · exact ⟨v, hn⟩
              · exact hpre m hm

theorem evalAll_ok_of_forall_ne_error {rands : List Node}
    (hok : ∀ n ∈ rands, ∀ f, n.eval o env ≠ .error f) : ∃ args, evalAll o env rands = .ok args := by
  cases hall : evalAll o env rands with
  | ok args => exact ⟨args, rfl⟩
  | error f =>
      obtain ⟨pre, e, post, rfl, -, he⟩ := exists_first_error_of_evalAll hall
      exact absurd he (hok e (by simp) f)

theorem eval_app_of_evalAll_ok {rator : Node} {rands : List Node} {args : List Value}
    (hargs : evalAll o env rands = .ok args) :
    (Node.app rator rands).eval o env = applyNode o rator args := by
  rw [eval_app, hargs]

end Node

/-! ## The operator node -/

namespace Prim

theorem mem_all (p : Prim) : p ∈ all := by
  cases p with
  | arith a => cases a <;> simp [all]
  | compare c => cases c <;> simp [all]
  | not => simp [all]

theorem ofTag_eq_none_iff (tag : Scalar) :
    ofTag? tag = none ↔ ∀ p : Prim, tag ≠ .str (.ofString p.symbol) := by
  cases tag with
  | str s =>
      simp only [ofTag?, List.find?_eq_none, beq_iff_eq, ne_eq, Scalar.str.injEq]
      exact ⟨fun h p hp => h p (mem_all p) hp.symm, fun h p _ hp => h p hp.symm⟩
  | int _ | float _ | bool _ | none => simp [ofTag?]

end Prim

theorem applyNode_of_ne_prim (o : Options) {rator : Node} (hrator : ∀ tag, rator ≠ .prim tag)
    (args : List Value) : applyNode o rator args = .error (.notAProcedure rator) := by
  unfold applyNode
  split
  · exact absurd rfl (hrator _)
  · rfl

theorem applyTag_of_unknown (o : Options) {tag : Scalar}
    (htag : ∀ p : Prim, tag ≠ .str (.ofString p.symbol)) (args : List Value) :
    applyTag o tag args = .error (.unknownOperator tag) := by
  rw [applyTag, (Prim.ofTag_eq_none_iff tag).mpr htag]

/-- The fault of an application, by precedence. The first operand to fail gives it, whatever
the operator node and whatever follows. When no operand fails, the operands have values in
order, and then a node that is not an operator literal is no procedure (it is not evaluated),
a tag that names no operator is unknown, and the operator a tag names is applied to the
values. -/
theorem application_fault_precedence (o : Options) (env : Env) :
    (∀ (rator : Node) (pre : List Node) (e : Node) (post : List Node) (f : Fault),
      (∀ n ∈ pre, ∃ v, n.eval o env = .ok v) → e.eval o env = .error f →
        (Node.app rator (pre ++ e :: post)).eval o env = .error f) ∧
    (∀ rands : List Node, (∀ n ∈ rands, ∀ f, n.eval o env ≠ .error f) →
      ∃ args, List.Forall₂ (fun n v => n.eval o env = .ok v) rands args ∧
        (∀ rator : Node, (∀ tag, rator ≠ .prim tag) →
          (Node.app rator rands).eval o env = .error (.notAProcedure rator)) ∧
        (∀ tag : Scalar, (∀ p : Prim, tag ≠ .str (.ofString p.symbol)) →
          (Node.app (.prim tag) rands).eval o env = .error (.unknownOperator tag)) ∧
        (∀ p : Prim,
          (Node.app (.prim (.str (.ofString p.symbol))) rands).eval o env = p.apply o args)) := by
  refine ⟨fun rator pre e post f hpre he => ?_, fun rands hok => ?_⟩
  · rw [Node.eval_app, Node.evalAll_append_error hpre he]
  · obtain ⟨args, hargs⟩ := Node.evalAll_ok_of_forall_ne_error hok
    refine ⟨args, Node.evalAll_eq_ok_iff.mp hargs, fun rator hrator => ?_, fun tag htag => ?_,
      fun p => ?_⟩
    · rw [Node.eval_app_of_evalAll_ok hargs, applyNode_of_ne_prim o hrator]
    · rw [Node.eval_app_of_evalAll_ok hargs]
      exact applyTag_of_unknown o htag args
    · rw [Node.eval_app_of_evalAll_ok hargs]
      exact applyTag_symbol o p args

/-- With `f` bound to the operator `+`: in `(plus 1 y z)`, with `plus` an unknown tag, `y`
unbound and `z` a bare declaration, the unbound `y` is the fault; and `(f 1)` is no
procedure, since its operator node is a reference and is not evaluated. -/
theorem operand_fault_before_operator_faults :
    let env : Env := ⟨[⟨⟨.ofString "f", by decide⟩, .prim (.str (.ofString "+"))⟩]⟩
    let y : Scalar := .str (.ofString "y")
    let f : Node := .var (.str (.ofString "f"))
    ((∀ n ∈ [Node.num (.int 1)], ∃ v, n.eval {} env = .ok v) ∧ (Node.var y).eval {} env = .error (.unbound y) ∧
      (Node.app (.prim (.str (.ofString "plus"))) ([.num (.int 1)] ++ .var y :: [.decl (.str (.ofString "z"))])).eval {} env =
        .error (.unbound y)) ∧
    ((∀ n ∈ [Node.num (.int 1)], ∀ fault, n.eval {} env ≠ .error fault) ∧ (∀ tag, f ≠ .prim tag) ∧
      (Node.app f [.num (.int 1)]).eval {} env = .error (.notAProcedure f)) := by
  intro env y f
  have hprecedence := application_fault_precedence {} env
  have hpre : ∀ n ∈ [Node.num (.int 1)], ∃ v, n.eval {} env = .ok v := by simp
  have hy : (Node.var y).eval {} env = .error (.unbound y) := rfl
  have hok : ∀ n ∈ [Node.num (.int 1)], ∀ fault, n.eval {} env ≠ .error fault := by simp
  have hf : ∀ tag, f ≠ .prim tag := fun _ => Node.noConfusion
  obtain ⟨args, -, hnotproc, -⟩ := hprecedence.2 _ hok
  exact ⟨⟨hpre, hy, hprecedence.1 _ _ _ _ _ hpre hy⟩, ⟨hok, hf, hnotproc f hf⟩⟩

end L1
