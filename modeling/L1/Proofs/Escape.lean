import L1.Proofs.Sequence

/-!
# Faults that are raised

The library returns its failures as values, with two exceptions: a binding of what is not a
non-empty name is refused by raising, and a fault whose message would show an integer of
more than `Number.digitLimit` digits cannot be built, so building it raises. Evaluation
never meets the first, since a definition binds only a declared name. It meets the second
wherever a fault shows such an integer taken from the input, a name, a tag or a whole node;
from input that can be written (`Node.writable`) it meets it exactly on a type mismatch over
an integer that long, which evaluation can compute. Every other way to raise is ruled out by
the order of the operators' checks.

A caller sees an outcome as an `Ending`: a value, a fault returned, a refused binding, or
the one error of a message that cannot be built, whichever fault it was meant for.
-/

namespace L1

namespace Fault

/-- Whether a fault is raised rather than returned: a refused binding, or a fault whose
message cannot be built. -/
def raised : Fault → Bool
  | .invalidName _ => true
  | f => !f.writable

/-- The faults an operator can end with: a zero divisor, or a refusal that carries the
operands as they were given. -/
def OfOperator (args : List Value) : Fault → Prop
  | .divisionByZero => True
  | .typeMismatch _ operands | .overflow _ operands => operands = args
  | _ => False

/-- The faults an application of the operator node `rator` can end with: the node is no
procedure, the tag it carries names no operator, or the operator refuses. -/
def OfApplication (rator : Node) (args : List Value) (f : Fault) : Prop :=
  f = .notAProcedure rator ∨ (∃ tag, rator = .prim tag ∧ f = .unknownOperator tag) ∨
    f.OfOperator args

theorem ne_invalidName_of_ofApplication {rator : Node} {args : List Value} {f : Fault}
    (hf : f.OfApplication rator args) (name : Scalar) : f ≠ .invalidName name := by
  rintro rfl
  rcases hf with h | ⟨_, _, h⟩ | h
  · cases h
  · cases h
  · exact h

/-- A fault that is returned, unless it is a type mismatch, which shows computed values. -/
def ReturnedUnlessMismatch (f : Fault) : Prop :=
  f.raised = false ∨ ∃ p args, f = .typeMismatch p args

theorem returnedUnlessMismatch_of_ofOperator {args : List Value} {f : Fault}
    (hf : f.OfOperator args) : f.ReturnedUnlessMismatch := by
  cases f
  case typeMismatch p operands => exact .inr ⟨p, operands, rfl⟩
  case divisionByZero | overflow => exact .inl rfl
  all_goals exact False.elim hf

theorem returnedUnlessMismatch_of_ofApplication {rator : Node} {args : List Value} {f : Fault}
    (hrator : rator.writable = true) (hf : f.OfApplication rator args) :
    f.ReturnedUnlessMismatch := by
  rcases hf with rfl | ⟨tag, rfl, rfl⟩ | hf
  · exact .inl (by simp [raised, writable, hrator])
  · exact .inl (by simpa [raised, writable, Node.writable] using hrator)
  · exact returnedUnlessMismatch_of_ofOperator hf

end Fault

/-- Whether a call that ends with this outcome returns it: a value, or a fault that is not
raised. -/
def returnsNormally {α : Type} : Except Fault α → Bool
  | .ok _ => true
  | .error f => !f.raised

@[simp] theorem returnsNormally_typeMismatch {α : Type} (p : Prim) (args : List Value) :
    returnsNormally (.error (.typeMismatch p args) : Except Fault α) = args.all Value.writable := by
  simp [returnsNormally, Fault.raised, Fault.writable]

/-- The outcome is a type mismatch over operands one of which is an integer too long to be
written. -/
def OverlongMismatch {α : Type} (r : Except Fault α) : Prop :=
  ∃ p args, r = .error (.typeMismatch p args) ∧ ∃ v ∈ args, v.writable = false

/-- An outcome whose fault, if any, is returned unless it is a type mismatch, is raised
exactly when it is a type mismatch over an integer too long to be written. -/
theorem returnsNormally_eq_false_iff {α : Type} {r : Except Fault α}
    (hr : ∀ f, r = .error f → f.ReturnedUnlessMismatch) :
    returnsNormally r = false ↔ OverlongMismatch r := by
  cases r with
  | ok v => simp [returnsNormally, OverlongMismatch]
  | error f =>
      rcases hr f rfl with hreturned | ⟨p, args, rfl⟩
      · -- a returned mismatch shows only operands that can be written
        simp only [returnsNormally, hreturned, Bool.not_false, Bool.true_eq_false, false_iff]
        rintro ⟨p, args, heq, v, hv, hlong⟩
        cases heq
        simp only [Fault.raised, Fault.writable, Bool.not_eq_false', List.all_eq_true] at hreturned
        simp [hreturned v hv] at hlong
      · -- a mismatch is raised exactly when one of its operands cannot be written
        simp only [returnsNormally_typeMismatch, OverlongMismatch, Except.error.injEq,
          Fault.typeMismatch.injEq]
        constructor
        · intro hlong
          exact ⟨p, args, ⟨rfl, rfl⟩, by simpa using hlong⟩
        · rintro ⟨_, _, ⟨rfl, rfl⟩, hlong⟩
          simpa using hlong

/-- What a caller sees of an outcome: its value, a fault returned as a value, a refused
binding raised with its name, or the one error raised whenever the message of a fault cannot
be built, whichever fault it was. -/
inductive Ending (α : Type) where
  | value (a : α)
  | failure (f : Fault)
  | refused (name : Scalar)
  | unwritable

namespace Ending

variable {α : Type}

def ofFault : Fault → Ending α
  | .invalidName name => if name.writable then .refused name else .unwritable
  | f => if f.writable then .failure f else .unwritable

def of : Except Fault α → Ending α
  | .ok a => .value a
  | .error f => ofFault f

@[simp] theorem of_ok (a : α) : of (.ok a : Except Fault α) = .value a := rfl

@[simp] theorem of_error (f : Fault) : of (.error f : Except Fault α) = ofFault f := rfl

theorem ofFault_eq_unwritable_iff {f : Fault} :
    (ofFault f : Ending α) = .unwritable ↔ f.writable = false := by
  cases f <;> simp only [ofFault] <;> split <;> simp_all [Fault.writable]

/-- Once refused bindings are ruled out, an outcome ends with the error of a message that
cannot be built exactly when it is not returned. -/
theorem of_eq_unwritable_iff {r : Except Fault α} (hr : ∀ name, r ≠ .error (.invalidName name)) :
    of r = .unwritable ↔ returnsNormally r = false := by
  cases r with
  | ok a => simp [returnsNormally]
  | error f =>
      rw [of_error, ofFault_eq_unwritable_iff]
      cases f
      case invalidName name => exact absurd rfl (hr name)
      all_goals simp [returnsNormally, Fault.raised]

end Ending

/-! ## Faults of an application -/

theorem mapM_toNumber_eq_none {args : List Value} (h : ∃ v ∈ args, v.toNumber? = none) :
    args.mapM Value.toNumber? = none := by
  induction args with
  | nil => simp at h
  | cons v rest ih =>
      rw [List.mapM_cons]
      cases hv : v.toNumber? with
      | none => rfl
      | some x =>
          have hrest : ∃ w ∈ rest, w.toNumber? = none := by
            obtain ⟨w, hw, hnone⟩ := h
            rcases List.mem_cons.mp hw with rfl | hw
            · simp [hv] at hnone
            · exact ⟨w, hw, hnone⟩
          simp [ih hrest]

theorem mapM_toNumber_map_num (xs : List Number) :
    (xs.map Value.num).mapM Value.toNumber? = some xs := by
  induction xs with
  | nil => rfl
  | cons x xs ih => simp [List.mapM_cons, Value.toNumber?, ih]

namespace Arith

theorem apply_error {a : Arith} {args : List Value} {f : Fault}
    (h : a.apply args = .error f) : f.OfOperator args := by
  unfold Arith.apply at h
  split at h
  · cases h; rfl
  · split at h
    · cases h; trivial
    · split at h
      · cases h
      · cases h; rfl

/-- An operand that is no number is refused before anything is computed, zero divisors
included. -/
theorem apply_of_not_number (a : Arith) {args : List Value}
    (hargs : ∃ v ∈ args, v.toNumber? = none) :
    a.apply args = .error (.typeMismatch (.arith a) args) := by
  simp only [Arith.apply, mapM_toNumber_eq_none hargs]

/-- A zero among the operands of `/`, the first one included, is refused before the fold
divides by anything. -/
theorem apply_div_of_zero {xs : List Number} (hzero : xs.any Number.isZero = true) :
    Arith.div.apply (xs.map .num) = .error .divisionByZero := by
  simp only [Arith.apply, mapM_toNumber_map_num]
  simp [hzero]

theorem apply_of_fold_eq_none {a : Arith} {xs : List Number}
    (hzero : ¬(a = .div ∧ xs.any Number.isZero = true)) (hfold : a.fold xs = none) :
    a.apply (xs.map .num) = .error (.overflow a (xs.map .num)) := by
  simp only [Arith.apply, mapM_toNumber_map_num]
  rw [if_neg hzero, hfold]

end Arith

namespace Prim

theorem apply_error {o : Options} {p : Prim} {args : List Value} {f : Fault}
    (h : p.apply o args = .error f) : f.OfOperator args := by
  unfold Prim.apply at h
  split at h
  · exact Arith.apply_error h
  · cases h
  · cases h; rfl
  · cases h
  · split at h
    · cases h
    · cases h; rfl
  · cases h; rfl

theorem apply_compare_of_ne (o : Options) (c : Compare) {args : List Value}
    (hargs : ∀ x y, args ≠ [.num x, .num y]) :
    (Prim.compare c).apply o args = .error (.typeMismatch (.compare c) args) := by
  match args, hargs with
  | [.num x, .num y], hargs => exact absurd rfl (hargs x y)
  | [], _ => rfl
  | [v], _ => cases v <;> rfl
  | [.bool _, _], _ | [.prim _, _], _ | [.num _, .bool _], _ | [.num _, .prim _], _ => rfl
  | v :: w :: _ :: _, _ => cases v <;> cases w <;> rfl

theorem ofTag_symbol (p : Prim) : ofTag? (.str (Text.ofString p.symbol)) = some p := by
  cases p with
  | arith a => cases a <;> rfl
  | compare c => cases c <;> rfl
  | not => rfl

end Prim

theorem applyTag_error {o : Options} {tag : Scalar} {args : List Value} {f : Fault}
    (h : applyTag o tag args = .error f) : f = .unknownOperator tag ∨ f.OfOperator args := by
  unfold applyTag at h
  split at h
  · exact .inr (Prim.apply_error h)
  · cases h
    exact .inl rfl

theorem applyNode_error {o : Options} {rator : Node} {args : List Value} {f : Fault}
    (h : applyNode o rator args = .error f) : f.OfApplication rator args := by
  unfold applyNode at h
  split at h
  · rcases applyTag_error h with rfl | hf
    · exact .inr (.inl ⟨_, rfl, rfl⟩)
    · exact .inr (.inr hf)
  · cases h
    exact .inl rfl

/-! ## Faults of an evaluation and of a sequence -/

theorem error_of_map_eq_error {α β : Type} {g : α → β} {x : Except Fault α} {f : Fault}
    (h : g <$> x = .error f) : x = .error f := by
  cases x with
  | ok a => nomatch h
  | error e => exact Except.error.inj h ▸ rfl

theorem Env.lookup_error {env : Env} {x : Scalar} {f : Fault} (h : env.lookup x = .error f) :
    f = .unbound x := by
  unfold Env.lookup at h
  split at h
  · cases h
  · exact (Except.error.inj h).symm

/-- A property `P` of the faults that evaluation under `o` makes from nodes of a kind `Q`:
those of a look-up, of an application and of a node that is not an expression. The kind is
kept by the operands of an application and by the right side of a definition. Evaluation
makes faults nowhere else, and carries them unchanged, so `P` holds of every fault it ends
with. -/
structure FaultInvariant (o : Options) (Q : Node → Prop) (P : Fault → Prop) : Prop where
  unbound : ∀ x, Q (.var x) → P (.unbound x)
  apply : ∀ rator rands args f, Q (.app rator rands) → applyNode o rator args = .error f → P f
  malformed : ∀ node, Q node → P (.malformed node)
  operands : ∀ rator rands, Q (.app rator rands) → ∀ n ∈ rands, Q n
  rhs : ∀ target rhs, Q (.define target rhs) → Q rhs

namespace Node

variable {o : Options} {env : Env} {Q : Node → Prop} {P : Fault → Prop}

mutual

theorem eval_error_of (hinv : FaultInvariant o Q P) :
    ∀ e : Node, Q e → ∀ f, e.eval o env = .error f → P f
  | .num _, _, _, h => nomatch h
  | .bool _, _, _, h => nomatch h
  | .prim _, _, _, h => nomatch h
  | .var x, hq, f, h => Env.lookup_error h ▸ hinv.unbound x hq
  | .app rator rands, hq, f, h => by
      rw [eval_app] at h
      cases hrands : evalAll o env rands with
      | ok args =>
          rw [hrands] at h
          exact hinv.apply rator rands args f hq h
      | error g =>
          rw [hrands] at h
          obtain rfl := Except.error.inj h
          exact evalAll_error_of hinv rands (hinv.operands rator rands hq) g hrands
  | .decl _, hq, f, h | .define _ _, hq, f, h | .program _, hq, f, h | .list _, hq, f, h
  | .tuple _, hq, f, h | .scalar _, hq, f, h => by
      cases h
      exact hinv.malformed _ hq

theorem evalAll_error_of (hinv : FaultInvariant o Q P) :
    ∀ es : List Node, (∀ n ∈ es, Q n) → ∀ f, evalAll o env es = .error f → P f
  | [], _, _, h => nomatch h
  | e :: es, hq, f, h => by
      rw [evalAll_cons] at h
      cases he : e.eval o env with
      | error g =>
          rw [he] at h
          obtain rfl := Except.error.inj h
          exact eval_error_of hinv e (hq e (.head _)) g he
      | ok v =>
          rw [he] at h
          cases hes : evalAll o env es with
          | ok vs => rw [hes] at h; nomatch h
          | error g =>
              rw [hes] at h
              obtain rfl := Except.error.inj h
              exact evalAll_error_of hinv es (fun n hn => hq n (.tail _ hn)) g hes

end

end Node

namespace Program

variable {o : Options} {Q : Node → Prop} {P : Fault → Prop} (hinv : FaultInvariant o Q P)
include hinv

theorem step_error_of {env : Env} {form : Node} (hq : Q form) {f : Fault}
    (h : step o env form = .error f) : P f := by
  rcases form_cases form with ⟨name, rhs, rfl⟩ | ⟨target, rhs, rfl, htarget⟩ | hform
  · rw [step_define] at h
    exact Node.eval_error_of hinv rhs (hinv.rhs _ rhs hq) f (error_of_map_eq_error h)
  · rw [step_define_malformed o env rhs htarget] at h
    cases h
    exact hinv.malformed _ hq
  · rw [step_of_ne_define o env hform] at h
    exact Node.eval_error_of hinv form hq f (error_of_map_eq_error h)

theorem finish_error_of (hempty : P .emptyProgram) {env : Env} {form : Node} (hq : Q form)
    {f : Fault} (h : finish o env form = .error f) : P f := by
  cases form
  case define target rhs =>
    rw [finish_define] at h
    cases hstep : step o env (.define target rhs) with
    | ok env' =>
        rw [hstep] at h
        cases h
        exact hempty
    | error g =>
        rw [hstep] at h
        cases h
        exact step_error_of hinv hq hstep
  all_goals
    exact Node.eval_error_of hinv _ hq f
      ((finish_of_ne_define o env fun _ _ => Node.noConfusion).symm.trans h)

theorem runSequence_error_of (hempty : P .emptyProgram) :
    ∀ (forms : List Node) (env : Env), (∀ form ∈ forms, Q form) →
      ∀ f, runSequence o forms env = .error f → P f
  | [], _, _, f, h => by
      cases h
      exact hempty
  | [form], env, hq, f, h => finish_error_of hinv hempty (hq form (.head _)) h
  | form :: next :: rest, env, hq, f, h => by
      rw [runSequence_cons_cons] at h
      cases hstep : step o env form with
      | ok env' =>
          rw [hstep] at h
          exact runSequence_error_of hempty (next :: rest) env' (fun n hn => hq n (.tail _ hn)) f h
      | error g =>
          rw [hstep] at h
          cases h
          exact step_error_of hinv (hq form (.head _)) hstep

end Program

/-! ## No binding is refused during evaluation -/

theorem faultInvariant_ne_invalidName (o : Options) :
    FaultInvariant o (fun _ => True) fun f => ∀ name, f ≠ .invalidName name where
  unbound x _ name := by simp
  apply _ _ _ _ _ hf := Fault.ne_invalidName_of_ofApplication (applyNode_error hf)
  malformed node _ name := by simp
  operands _ _ _ _ _ := trivial
  rhs _ _ _ := trivial

theorem Program.runSequence_ne_invalidName (o : Options) (forms : List Node) (env : Env)
    (name : Scalar) : runSequence o forms env ≠ .error (.invalidName name) := fun h =>
  Program.runSequence_error_of (faultInvariant_ne_invalidName o) (by simp) forms env
    (fun _ _ => trivial) _ h name rfl

/-! ## Input that can be written -/

namespace Node

theorem writableAll_eq_true_iff {ns : List Node} :
    writableAll ns = true ↔ ∀ n ∈ ns, n.writable = true := by
  induction ns with
  | nil => simp [writableAll]
  | cons n ns ih => simp [writableAll, ih]

theorem writable_app {rator : Node} {rands : List Node} :
    (app rator rands).writable = true ↔ rator.writable = true ∧ ∀ n ∈ rands, n.writable = true := by
  simp [writable, writableAll_eq_true_iff]

theorem writable_define {target rhs : Node} :
    (define target rhs).writable = true ↔ target.writable = true ∧ rhs.writable = true := by
  simp [writable]

end Node

/-- From nodes that can be written, evaluation makes only faults that are returned, type
mismatches apart: every other fault shows at most a name, a tag or a node of the input. -/
theorem faultInvariant_returnedUnlessMismatch (o : Options) :
    FaultInvariant o (fun node => node.writable = true) Fault.ReturnedUnlessMismatch where
  unbound x hx := .inl (by simpa [Fault.raised, Fault.writable, Node.writable] using hx)
  apply _ _ _ _ hq hf :=
    Fault.returnedUnlessMismatch_of_ofApplication (Node.writable_app.mp hq).1 (applyNode_error hf)
  malformed node hq := .inl (by simp [Fault.raised, Fault.writable, hq])
  operands _ _ hq := (Node.writable_app.mp hq).2
  rhs _ _ hq := (Node.writable_define.mp hq).2

/-! ## What is raised -/

/-- From input whose integers can all be written, evaluation, application and sequences
raise exactly on a type mismatch over an integer too long to be written, which only
evaluation can have made; the checks come before what they guard. -/
theorem raised_only_by_overlong_mismatch (o : Options) :
    (∀ (e : Node) (env : Env), e.writable = true →
      (returnsNormally (e.eval o env) = false ↔ OverlongMismatch (e.eval o env))) ∧
    (∀ (forms : List Node) (env : Env), (∀ form ∈ forms, form.writable = true) →
      (returnsNormally (Program.runSequence o forms env) = false ↔
        OverlongMismatch (Program.runSequence o forms env))) ∧
    (∀ (rator : Node) (args : List Value), rator.writable = true →
      (returnsNormally (applyNode o rator args) = false ↔
        OverlongMismatch (applyNode o rator args))) ∧
    (∀ (tag : Scalar) (args : List Value), tag.writable = true →
      (returnsNormally (applyTag o tag args) = false ↔ OverlongMismatch (applyTag o tag args))) ∧
    (∀ (a : Arith) (args : List Value), (∃ v ∈ args, v.toNumber? = none) →
      a.apply args = .error (.typeMismatch (.arith a) args)) ∧
    (∀ xs : List Number, xs.any Number.isZero = true →
      Arith.div.apply (xs.map .num) = .error .divisionByZero) ∧
    (∀ (a : Arith) (xs : List Number), ¬(a = .div ∧ xs.any Number.isZero = true) →
      a.fold xs = none → a.apply (xs.map .num) = .error (.overflow a (xs.map .num))) ∧
    (∀ (c : Compare) (args : List Value), (∀ x y, args ≠ [.num x, .num y]) →
      (Prim.compare c).apply o args = .error (.typeMismatch (.compare c) args)) ∧
    (∀ p : Prim, Prim.ofTag? (.str (Text.ofString p.symbol)) = some p) := by
  have hinv := faultInvariant_returnedUnlessMismatch o
  refine ⟨?_, ?_, ?_, ?_, ?_, ?_, ?_, ?_, Prim.ofTag_symbol⟩
  · intro e env he
    exact returnsNormally_eq_false_iff (Node.eval_error_of hinv e he)
  · intro forms env hforms
    exact returnsNormally_eq_false_iff (Program.runSequence_error_of hinv (.inl rfl) forms env hforms)
  · intro rator args hrator
    exact returnsNormally_eq_false_iff fun f hf =>
      Fault.returnedUnlessMismatch_of_ofApplication hrator (applyNode_error hf)
  · intro tag args htag
    refine returnsNormally_eq_false_iff fun f hf => ?_
    -- a tag is applied as the operator literal that carries it, which can be written
    have hrator : (Node.prim tag).writable = true := htag
    have hnode : applyNode o (.prim tag) args = .error f := hf
    exact Fault.returnedUnlessMismatch_of_ofApplication hrator (applyNode_error hnode)
  · intro a args hargs
    exact Arith.apply_of_not_number a hargs
  · intro xs hzero
    exact Arith.apply_div_of_zero hzero
  · intro a xs hzero hfold
    exact Arith.apply_of_fold_eq_none hzero hfold
  · intro c args hargs
    exact Prim.apply_compare_of_ne o c hargs

/-- A program that negates the product of two integers of 2201 digits, each of which can be
written, meets a type mismatch over an integer of 4401 digits, whose message cannot be
built. -/
theorem run_not_of_long_product_raises :
    let forms : List Node := [.app (.prim (.str (.ofString "not")))
      [.app (.prim (.str (.ofString "*"))) [.num (.int (10 ^ 2200)), .num (.int (10 ^ 2200))]]]
    (∀ form ∈ forms, form.writable = true) ∧
      returnsNormally (Program.run {} forms) = false ∧ OverlongMismatch (Program.run {} forms) := by
  intro forms
  have hforms : ∀ form ∈ forms, form.writable = true := by
    decide +kernel
  have hraised : returnsNormally (Program.run {} forms) = false := by
    decide +kernel
  exact ⟨hforms, hraised,
    ((raised_only_by_overlong_mismatch {}).2.1 forms Env.empty hforms).mp hraised⟩

end L1
