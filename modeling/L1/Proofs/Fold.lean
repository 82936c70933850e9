import L1.Proofs.Rounding
import L1.Proofs.Compare

/-!
# Outcomes of the arithmetic operators

An arithmetic operator checks its operands, then folds them from its seed. Its outcome is,
in this order of precedence: a type mismatch when an operand is a truth value or an
operator; for `/`, a division by zero when an operand is zero, the first one included; an
overflow when the fold meets an integer too large for a float beside a float; and a value
otherwise.

When the fold overflows depends on where the first float stands. Before it, the integers
of `+`, `-` and `*` combine exactly, so only their total has to fit a float when the first
float meets it; after it every integer is rounded on its own. So `(+ HUGE -HUGE 1.0)` is
`1.0` while `(+ 1.0 HUGE -HUGE)` overflows, and without a float these operators never
overflow. The fold of `/` makes a float of the reciprocal of its first operand at once, so it
overflows exactly at a later integer too large for a float, with or without float operands.
-/

namespace L1

/-- A number is zero: the integer `0`, or the float `0.0` or `-0.0`. -/
def Number.IsZeroValue (x : Number) : Prop :=
  x = .int 0 ∨ ∃ f, x = .float f ∧ (f.toBits = 0 ∨ f.toBits = 0x8000000000000000)

namespace Arith

def floatOp : Arith → Float → Float → Float
  | .add => (· + ·)
  | .sub => (· - ·)
  | .mul => (· * ·)
  | .div => (· / ·)

/-- The fold of `+`, `-` or `*` overflows: after the integers before the first float, whose
exact total `total` gives, that total or a later integer is too large for a float. -/
def OverflowsAfterInts (total : List Int → Int) (xs : List Number) : Prop :=
  ∃ (ns : List Int) (x : Float) (rest : List Number), xs = ns.map .int ++ .float x :: rest ∧
    (Binary64.intLimit ≤ (total ns).natAbs ∨ ∃ n, .int n ∈ rest ∧ Binary64.intLimit ≤ n.natAbs)

/-- When the fold of an operator meets an integer too large for a float beside a float: for
`+` and `-` the sum of the integers before the first float or a later integer, for `*` their
product or a later integer, and for `/` any integer after the first operand. -/
def Overflows : Arith → List Number → Prop
  | .add, xs => OverflowsAfterInts List.sum xs
  | .sub, xs => OverflowsAfterInts List.sum xs
  | .mul, xs => OverflowsAfterInts List.prod xs
  | .div, xs => ∃ n, .int n ∈ xs.drop 1 ∧ Binary64.intLimit ≤ n.natAbs

/-! ## One step of the fold -/

theorem step_float_left (a : Arith) (y : Float) (b : Number) :
    a.step (.float y) b = b.toFloat?.map fun z => .float (a.floatOp y z) := by
  cases a <;> cases b <;> simp [step, Number.add?, Number.sub?, Number.mul?, Number.div?,
    Number.combine, Number.toFloat?, floatOp, Option.map_eq_bind]

theorem step_int_float (a : Arith) (c : Int) (x : Float) :
    a.step (.int c) (.float x) = (Binary64.ofInt? c).map fun z => .float (a.floatOp z x) := by
  cases a <;> simp [step, Number.add?, Number.sub?, Number.mul?, Number.div?,
    Number.combine, Number.toFloat?, floatOp, Option.map_eq_bind]

theorem step_div_one (x : Number) : ∃ y, Arith.div.step (.int 1) x = some (.float y) := by
  cases x with
  | int n =>
      -- the reciprocal of an integer is rounded once, and always has a value
      obtain ⟨y, hy⟩ := Option.ne_none_iff_exists'.mp (Binary64.ofRatio?_one_ne_none (n < 0) n.natAbs)
      exact ⟨y, by simp [step, Number.div?, Number.combine, Binary64.ofIntRatio?, hy]⟩
  | float z =>
      obtain ⟨y, hy⟩ := Option.ne_none_iff_exists'.mp (Binary64.ofRatio?_one_ne_none false 1)
      exact ⟨y / z, by simp [step_int_float, Binary64.ofInt?, hy, floatOp]⟩

/-! ## Runs of the fold -/

theorem foldlM_float (a : Arith) (y : Float) (rest : List Number) :
    rest.foldlM a.step (.float y) = none ↔
      ∃ n, .int n ∈ rest ∧ Binary64.intLimit ≤ n.natAbs := by
  induction rest generalizing y with
  | nil => simp
  | cons b rest ih =>
      rw [List.foldlM_cons, step_float_left]
      cases b with
      | int n =>
          cases hn : Binary64.ofInt? n with
          | none =>
              have hlarge := (Binary64.ofInt?_eq_none_iff n).mp hn
              simp [Number.toFloat?, hn, hlarge]
          | some z =>
              have hsmall : ¬Binary64.intLimit ≤ n.natAbs := by
                rw [← Binary64.ofInt?_eq_none_iff, hn]
                simp
              simp [Number.toFloat?, hn, ih, hsmall]
      | float z => simp [Number.toFloat?, ih]

theorem foldlM_ints {a : Arith} {op : Int → Int → Int}
    (hop : ∀ c n, a.step (.int c) (.int n) = some (.int (op c n))) (c : Int) (ns : List Int)
    (rest : List Number) :
    (ns.map Number.int ++ rest).foldlM a.step (.int c) =
      rest.foldlM a.step (.int (ns.foldl op c)) := by
  induction ns generalizing c with
  | nil => rfl
  | cons n ns ih =>
      rw [List.map_cons, List.cons_append, List.foldlM_cons, hop]
      exact ih (op c n)

end Arith

theorem ints_or_first_float (xs : List Number) :
    (∃ ns : List Int, xs = ns.map .int) ∨
      ∃ (ns : List Int) (x : Float) (rest : List Number), xs = ns.map .int ++ .float x :: rest := by
  induction xs with
  | nil => exact .inl ⟨[], rfl⟩
  | cons y ys ih =>
      cases y with
      | float x => exact .inr ⟨[], x, ys, rfl⟩
      | int n =>
          rcases ih with ⟨ns, rfl⟩ | ⟨ns, x, rest, rfl⟩
          · exact .inl ⟨n :: ns, rfl⟩
          · exact .inr ⟨n :: ns, x, rest, rfl⟩

namespace Arith

theorem fold_eq_none_iff_of_int_step {a : Arith} {op : Int → Int → Int}
    {total : List Int → Int} {s : Int} (hseed : a.seed = .int s)
    (hop : ∀ c n, a.step (.int c) (.int n) = some (.int (op c n)))
    (htotal : ∀ ns, (ns.foldl op s).natAbs = (total ns).natAbs) (xs : List Number) :
    a.fold xs = none ↔ OverflowsAfterInts total xs := by
  unfold fold
  rw [hseed]
  constructor
  · intro hnone
    rcases ints_or_first_float xs with ⟨ns, rfl⟩ | ⟨ns, x, rest, rfl⟩
    · -- integers alone combine to an integer
      rw [← List.append_nil (ns.map Number.int), foldlM_ints hop] at hnone
      simp at hnone
    · refine ⟨ns, x, rest, rfl, ?_⟩
      rw [foldlM_ints hop, List.foldlM_cons, step_int_float] at hnone
      cases htotal' : Binary64.ofInt? (ns.foldl op s) with
      | none => exact .inl (htotal ns ▸ (Binary64.ofInt?_eq_none_iff _).mp htotal')
      | some z =>
          rw [htotal'] at hnone
          exact .inr ((foldlM_float a _ rest).mp hnone)
  · rintro ⟨ns, x, rest, rfl, hover⟩
    rw [foldlM_ints hop, List.foldlM_cons, step_int_float]
    rcases hover with hlarge | hlater
    · rw [(Binary64.ofInt?_eq_none_iff _).mpr (htotal ns ▸ hlarge)]
      rfl
    · cases Binary64.ofInt? (ns.foldl op s) with
      | none => rfl
      | some z => exact (foldlM_float a _ rest).mpr hlater

theorem fold_div_eq_none_iff (xs : List Number) :
    div.fold xs = none ↔ ∃ n, .int n ∈ xs.drop 1 ∧ Binary64.intLimit ≤ n.natAbs := by
  cases xs with
  | nil => simp [fold]
  | cons x rest =>
      obtain ⟨y, hy⟩ := step_div_one x
      rw [fold, List.foldlM_cons, show div.seed = .int 1 from rfl, hy]
      exact foldlM_float div y rest

theorem foldl_sub_eq (c : Int) (ns : List Int) : ns.foldl (· - ·) c = c - ns.sum := by
  induction ns generalizing c with
  | nil => simp
  | cons n ns ih =>
      rw [List.foldl_cons, ih, List.sum_cons]
      omega

theorem fold_eq_none_iff (a : Arith) (xs : List Number) : a.fold xs = none ↔ a.Overflows xs := by
  cases a with
  | add =>
      exact fold_eq_none_iff_of_int_step rfl (fun _ _ => rfl)
        (fun ns => by rw [← List.sum_eq_foldl]) xs
  | sub =>
      exact fold_eq_none_iff_of_int_step rfl (fun _ _ => rfl)
        (fun ns => by rw [foldl_sub_eq, Int.zero_sub, Int.natAbs_neg]) xs
  | mul =>
      exact fold_eq_none_iff_of_int_step rfl (fun _ _ => rfl)
        (fun ns => by rw [← List.prod_eq_foldl]) xs
  | div => exact fold_div_eq_none_iff xs

theorem apply_of_fold_eq_some {a : Arith} {xs : List Number} {r : Number}
    (hzero : ¬(a = .div ∧ xs.any Number.isZero = true)) (hfold : a.fold xs = some r) :
    a.apply (xs.map .num) = .ok (.num r) := by
  simp only [Arith.apply, mapM_toNumber_map_num]
  rw [if_neg hzero, hfold]

theorem apply_ne_typeMismatch (a : Arith) (xs : List Number) (p : Prim) (vs : List Value) :
    a.apply (xs.map .num) ≠ .error (.typeMismatch p vs) := by
  by_cases hzero : a = .div ∧ xs.any Number.isZero = true
  · obtain ⟨rfl, hany⟩ := hzero
    rw [apply_div_of_zero hany]
    simp
  · cases hfold : a.fold xs with
    | none =>
        rw [apply_of_fold_eq_none hzero hfold]
        simp
    | some r =>
        rw [apply_of_fold_eq_some hzero hfold]
        simp

end Arith

theorem map_int_append_float_inj {ns ns' : List Int} {x x' : Float} {rest rest' : List Number}
    (h : ns.map Number.int ++ .float x :: rest = ns'.map Number.int ++ .float x' :: rest') :
    ns = ns' ∧ rest = rest' := by
  induction ns generalizing ns' with
  | nil =>
      cases ns' with
      | nil =>
          simp only [List.map_nil, List.nil_append, List.cons.injEq] at h
          exact ⟨rfl, h.2⟩
      | cons n' ns' => simp at h
  | cons n ns ih =>
      cases ns' with
      | nil => simp at h
      | cons n' ns' =>
          simp only [List.map_cons, List.cons_append, List.cons.injEq, Number.int.injEq] at h
          obtain ⟨rfl, htail⟩ := h
          obtain ⟨rfl, rfl⟩ := ih htail
          exact ⟨rfl, rfl⟩

theorem Arith.overflowsAfterInts_iff (total : List Int → Int) (ns : List Int) (x : Float)
    (rest : List Number) :
    OverflowsAfterInts total (ns.map .int ++ .float x :: rest) ↔
      Binary64.intLimit ≤ (total ns).natAbs ∨ ∃ n, .int n ∈ rest ∧ Binary64.intLimit ≤ n.natAbs := by
  constructor
  · rintro ⟨ns', x', rest', h, hover⟩
    obtain ⟨rfl, rfl⟩ := map_int_append_float_inj h.symm
    exact hover
  · intro hover
    exact ⟨ns, x, rest, rfl, hover⟩

theorem exists_map_num_of_no_bool_prim {args : List Value}
    (hargs : ¬∃ v ∈ args, (∃ b, v = .bool b) ∨ ∃ t, v = .prim t) :
    ∃ xs : List Number, args = xs.map .num := by
  induction args with
  | nil => exact ⟨[], rfl⟩
  | cons v rest ih =>
      obtain ⟨xs, rfl⟩ := ih fun ⟨w, hw, hkind⟩ => hargs ⟨w, .tail _ hw, hkind⟩
      cases v with
      | num n => exact ⟨n :: xs, rfl⟩
      | bool b => exact absurd ⟨.bool b, .head _, .inl ⟨b, rfl⟩⟩ hargs
      | prim t => exact absurd ⟨.prim t, .head _, .inr ⟨t, rfl⟩⟩ hargs

theorem Arith.apply_of_bool_or_prim (a : Arith) {args : List Value}
    (hkind : ∃ v ∈ args, (∃ b, v = .bool b) ∨ ∃ t, v = .prim t) :
    a.apply args = .error (.typeMismatch (.arith a) args) := by
  obtain ⟨v, hv, hkind⟩ := hkind
  refine apply_of_not_number a ⟨v, hv, ?_⟩
  rcases hkind with ⟨b, rfl⟩ | ⟨t, rfl⟩ <;> rfl

/-- An arithmetic operator raises exactly when it refuses an operand that is no number and
one of the operands is too long to be written: over numbers alone it ends with a value, a
zero divisor or an overflow, and none of these shows an operand. -/
theorem Arith.returnsNormally_apply_eq_false_iff (a : Arith) (args : List Value) :
    returnsNormally (a.apply args) = false ↔
      (∃ v ∈ args, (∃ b, v = .bool b) ∨ ∃ t, v = .prim t) ∧ ∃ v ∈ args, v.writable = false := by
  by_cases hkind : ∃ v ∈ args, (∃ b, v = .bool b) ∨ ∃ t, v = .prim t
  · rw [Arith.apply_of_bool_or_prim a hkind, returnsNormally_typeMismatch]
    simp only [hkind, true_and]
    simp
  · obtain ⟨xs, rfl⟩ := exists_map_num_of_no_bool_prim hkind
    simp only [hkind, false_and, iff_false, Bool.not_eq_false]
    cases h : a.apply (xs.map .num) with
    | ok r => rfl
    | error f =>
        rcases Fault.returnedUnlessMismatch_of_ofOperator (Arith.apply_error h) with
          hreturned | ⟨p, vs, rfl⟩
        · simp [returnsNormally, hreturned]
        · exact absurd h (Arith.apply_ne_typeMismatch a xs p vs)

/-- The outcome of an arithmetic operator, by precedence: a type mismatch exactly when an
operand is a truth value or an operator, raised rather than returned exactly when an operand
is too long to be written; then, for `/` alone, a division by zero exactly when an operand is
zero; then an overflow exactly when the fold meets an integer too large for a float beside a
float; and a value otherwise. -/
theorem arith_outcome_by_precedence (o : Options) (a : Arith) (args : List Value) :
    applyTag o (.str (.ofString a.symbol)) args = a.apply args ∧
    (a.apply args = .error (.typeMismatch (.arith a) args) ↔
      ∃ v ∈ args, (∃ b, v = .bool b) ∨ ∃ t, v = .prim t) ∧
    (returnsNormally (a.apply args) = false ↔
      (∃ v ∈ args, (∃ b, v = .bool b) ∨ ∃ t, v = .prim t) ∧ ∃ v ∈ args, v.writable = false) ∧
    ∀ xs : List Number, args = xs.map .num →
      (a.apply args = .error .divisionByZero ↔ a = .div ∧ ∃ x ∈ xs, x.IsZeroValue) ∧
      (a.apply args = .error (.overflow a args) ↔
        ¬(a = .div ∧ ∃ x ∈ xs, x.IsZeroValue) ∧ a.Overflows xs) ∧
      ((∃ r, a.apply args = .ok r) ↔ ¬(a = .div ∧ ∃ x ∈ xs, x.IsZeroValue) ∧ ¬a.Overflows xs) := by
  refine ⟨applyTag_symbol o (.arith a) args,
    ⟨fun hmismatch => ?_, Arith.apply_of_bool_or_prim a⟩,
    Arith.returnsNormally_apply_eq_false_iff a args, ?_⟩
  · -- operands that are all numbers are never refused as a mismatch
    by_contra hnone
    obtain ⟨xs, rfl⟩ := exists_map_num_of_no_bool_prim hnone
    exact Arith.apply_ne_typeMismatch a xs _ _ hmismatch
  · rintro xs rfl
    have hzero : xs.any Number.isZero = true ↔ ∃ x ∈ xs, x.IsZeroValue := by
      simp [Number.isZero_eq_true_iff, Number.IsZeroValue]
    by_cases hdiv : a = .div ∧ ∃ x ∈ xs, x.IsZeroValue
    · -- refused before the fold
      obtain ⟨rfl, hany⟩ := hdiv
      rw [Arith.apply_div_of_zero (hzero.mpr hany)]
      simp [hany]
    · have hcond : ¬(a = .div ∧ xs.any Number.isZero = true) := fun h => hdiv ⟨h.1, hzero.mp h.2⟩
      cases hfold : a.fold xs with
      | none =>
          have hover := (Arith.fold_eq_none_iff a xs).mp hfold
          rw [Arith.apply_of_fold_eq_none hcond hfold]
          simp [hdiv, hover]
      | some r =>
          have hfits : ¬a.Overflows xs := fun hover => by
            rw [(Arith.fold_eq_none_iff a xs).mpr hover] at hfold
            cases hfold
          rw [Arith.apply_of_fold_eq_some hcond hfold]
          simp [hdiv, hfits]

/-- With `HUGE = 2^1024`, `(+ 1.0 HUGE -HUGE)` overflows, since each integer meets the float
on its own, while `(+ HUGE -HUGE 1.0)` has a value, since the integers cancel before the float.
`(+ #t 10^4400)` is refused as a mismatch, and the refusal is raised: its operand is too long
to be written. -/
theorem sum_outcomes_at_huge_integers :
    let one : Float := Float.ofBits 0x3FF0000000000000
    let early : List Number := [.float one, .int (2 ^ 1024), .int (-2 ^ 1024)]
    let late : List Number := [.int (2 ^ 1024), .int (-2 ^ 1024), .float one]
    let long : List Value := [.bool true, .num (.int (10 ^ 4400))]
    Arith.add.apply (early.map .num) = .error (.overflow .add (early.map .num)) ∧
      (∃ r, Arith.add.apply (late.map .num) = .ok r) ∧
      Arith.add.apply long = .error (.typeMismatch (.arith .add) long) ∧
      returnsNormally (Arith.add.apply long) = false := by
  intro one early late long
  have hadd : ∀ xs : List Number, ¬(Arith.add = .div ∧ ∃ x ∈ xs, x.IsZeroValue) :=
    fun _ h => nomatch h.1
  have hearly : Arith.add.Overflows early :=
    ⟨[], one, [.int (2 ^ 1024), .int (-2 ^ 1024)], rfl,
      .inr ⟨2 ^ 1024, .head _, by unfold Binary64.intLimit; omega⟩⟩
  have hlate : ¬Arith.add.Overflows late := by
    change ¬Arith.OverflowsAfterInts List.sum ([2 ^ 1024, -2 ^ 1024].map .int ++ [.float one])
    rw [Arith.overflowsAfterInts_iff]
    -- the integers cancel, and nothing follows the float
    have hlimit : 0 < Binary64.intLimit := by
      unfold Binary64.intLimit
      omega
    simp only [List.sum_cons, List.sum_nil, List.not_mem_nil, false_and, exists_false, or_false]
    omega
  have hkind : ∃ v ∈ long, (∃ b, v = .bool b) ∨ ∃ t, v = .prim t :=
    ⟨.bool true, .head _, .inl ⟨true, rfl⟩⟩
  have hlong : ∃ v ∈ long, v.writable = false :=
    ⟨.num (.int (10 ^ 4400)), .tail _ (.head _), by decide +kernel⟩
  have houtcome := fun args => arith_outcome_by_precedence {} .add args
  exact ⟨((houtcome _).2.2.2 early rfl).2.1.mpr ⟨hadd early, hearly⟩,
    ((houtcome _).2.2.2 late rfl).2.2.mpr ⟨hadd late, hlate⟩,
    (houtcome long).2.1.mpr hkind, (houtcome long).2.2.1.mpr ⟨hkind, hlong⟩⟩

end L1
