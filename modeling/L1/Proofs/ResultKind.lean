import L1.Proofs.Fold

/-!
# Exact integers and the kinds of results

The integers of L1 are unbounded, and `+`, `-` and `*` fold them exactly: a list of integers
gives its sum, minus its sum (the fold `0 - a₀ - … - aₙ`) and its product, never an overflow,
however long the list and however large its members.

The kind of a result follows from the kinds of the operands. A float is kept by every step
of a fold, and a step that meets one makes one, so once a float is met the fold can only end
in a float or fail. The quotient of `/` is a float from its first step on, since the fold
starts with the reciprocal of its first operand; only the empty quotient keeps the integer
seed `1`.
-/

namespace L1

namespace Arith

/-! ## Integers alone -/

theorem fold_map_int {a : Arith} {op : Int → Int → Int} {s : Int} (hseed : a.seed = .int s)
    (hop : ∀ c n, a.step (.int c) (.int n) = some (.int (op c n))) (ns : List Int) :
    a.fold (ns.map .int) = some (.int (ns.foldl op s)) := by
  rw [fold, hseed, ← List.append_nil (ns.map Number.int), foldlM_ints hop]
  rfl

theorem fold_add_ints (ns : List Int) : add.fold (ns.map .int) = some (.int ns.sum) := by
  rw [fold_map_int rfl (fun _ _ => rfl), ← List.sum_eq_foldl]

theorem fold_sub_ints (ns : List Int) : sub.fold (ns.map .int) = some (.int (-ns.sum)) := by
  rw [fold_map_int rfl (fun _ _ => rfl), foldl_sub_eq, Int.zero_sub]

theorem fold_mul_ints (ns : List Int) : mul.fold (ns.map .int) = some (.int ns.prod) := by
  rw [fold_map_int rfl (fun _ _ => rfl), ← List.prod_eq_foldl]

/-! ## Floats stay floats -/

theorem step_isFloat (a : Arith) {x b r : Number} (h : a.step x b = some r)
    (hfloat : (∃ y, x = .float y) ∨ ∃ z, b = .float z) : ∃ w, r = .float w := by
  -- a float accumulator is met by `step_float_left`, an integer one only by a float operand
  have hleft : ∀ y, a.step (.float y) b = some r → ∃ w, r = .float w := by
    intro y hy
    rw [step_float_left] at hy
    obtain ⟨z, -, rfl⟩ := Option.map_eq_some_iff.mp hy
    exact ⟨_, rfl⟩
  rcases hfloat with ⟨y, rfl⟩ | ⟨z, rfl⟩
  · exact hleft y h
  · cases x with
    | float y => exact hleft y h
    | int c =>
        rw [step_int_float] at h
        obtain ⟨w, -, rfl⟩ := Option.map_eq_some_iff.mp h
        exact ⟨_, rfl⟩

theorem foldlM_isFloat (a : Arith) {x r : Number} {xs : List Number}
    (h : xs.foldlM a.step x = some r) (hfloat : (∃ y, x = .float y) ∨ ∃ z, .float z ∈ xs) :
    ∃ w, r = .float w := by
  induction xs generalizing x with
  | nil =>
      obtain ⟨y, rfl⟩ := hfloat.resolve_right (by simp)
      exact ⟨y, (Option.some.inj h).symm⟩
  | cons b rest ih =>
      rw [List.foldlM_cons] at h
      cases hstep : a.step x b with
      | none => simp [hstep] at h
      | some x' =>
          simp only [hstep, Option.bind_eq_bind, Option.bind_some] at h
          -- the float is the accumulator, this operand, or one of the rest
          refine ih h ?_
          rcases hfloat with hx | ⟨z, hz⟩
          · exact .inl (step_isFloat a hstep (.inl hx))
          · rcases List.mem_cons.mp hz with rfl | hz
            · exact .inl (step_isFloat a hstep (.inr ⟨z, rfl⟩))
            · exact .inr ⟨z, hz⟩

theorem fold_isFloat_of_float_mem (a : Arith) {xs : List Number} {r : Number}
    (hfloat : ∃ z, .float z ∈ xs) (h : a.fold xs = some r) : ∃ w, r = .float w :=
  foldlM_isFloat a h (.inr hfloat)

/-- The quotient of a non-empty list is a float, if it has a value: the first step takes a
reciprocal. -/
theorem fold_div_isFloat {x : Number} {rest : List Number} {r : Number}
    (h : div.fold (x :: rest) = some r) : ∃ w, r = .float w := by
  obtain ⟨y, hy⟩ := step_div_one x
  rw [fold, List.foldlM_cons, show div.seed = .int 1 from rfl, hy] at h
  exact foldlM_isFloat div h (.inl ⟨y, rfl⟩)

/-! ## From the fold to the operator -/

theorem fold_of_apply_eq_ok {a : Arith} {xs : List Number} {r : Value}
    (h : a.apply (xs.map .num) = .ok r) : ∃ y, a.fold xs = some y ∧ r = .num y := by
  simp only [Arith.apply, mapM_toNumber_map_num] at h
  split at h
  · cases h
  · split at h
    · rename_i y hy
      exact ⟨y, hy, (Except.ok.inj h).symm⟩
    · cases h

theorem apply_ints_of_fold {a : Arith} (hdiv : a ≠ .div) {ns : List Int} {n : Int}
    (hfold : a.fold (ns.map .int) = some (.int n)) :
    a.apply (ns.map (Value.num ∘ Number.int)) = .ok (.num (.int n)) := by
  rw [← List.map_map]
  exact apply_of_fold_eq_some (fun h => hdiv h.1) hfold

end Arith

/-- The integer fragment is exact and unbounded: integers give their exact sum, minus their
sum and their product, never an overflow. The kind of a result follows from the kinds of the
operands: any value of an operator over numbers that include a float is a float, the empty
quotient is the integer `1`, and any value of a quotient of one or more numbers is a float,
never an integer. -/
theorem integer_fold_exact_and_result_kinds (o : Options) :
    (∀ ns : List Int,
      applyTag o (.str (.ofString "+")) (ns.map (Value.num ∘ Number.int)) =
          .ok (.num (.int ns.sum)) ∧
        applyTag o (.str (.ofString "-")) (ns.map (Value.num ∘ Number.int)) =
          .ok (.num (.int (-ns.sum))) ∧
        applyTag o (.str (.ofString "*")) (ns.map (Value.num ∘ Number.int)) =
          .ok (.num (.int ns.prod))) ∧
    (∀ (a : Arith) (xs : List Number), (∃ z, .float z ∈ xs) →
      ∀ r, applyTag o (.str (.ofString a.symbol)) (xs.map .num) = .ok r →
        ∃ w, r = .num (.float w)) ∧
    applyTag o (.str (.ofString "/")) [] = .ok (.num (.int 1)) ∧
    (∀ xs : List Number, xs ≠ [] →
      ∀ r, applyTag o (.str (.ofString "/")) (xs.map .num) = .ok r → ∃ w, r = .num (.float w)) := by
  refine ⟨fun ns => ⟨?_, ?_, ?_⟩, ?_, rfl, ?_⟩
  · exact (applyTag_symbol o (.arith .add) _).trans
      (Arith.apply_ints_of_fold (by decide) (Arith.fold_add_ints ns))
  · exact (applyTag_symbol o (.arith .sub) _).trans
      (Arith.apply_ints_of_fold (by decide) (Arith.fold_sub_ints ns))
  · exact (applyTag_symbol o (.arith .mul) _).trans
      (Arith.apply_ints_of_fold (by decide) (Arith.fold_mul_ints ns))
  · intro a xs hfloat r hr
    obtain ⟨y, hfold, rfl⟩ :=
      Arith.fold_of_apply_eq_ok ((applyTag_symbol o (.arith a) _).symm.trans hr)
    obtain ⟨w, rfl⟩ := Arith.fold_isFloat_of_float_mem a hfloat hfold
    exact ⟨w, rfl⟩
  · rintro (_ | ⟨x, rest⟩) hne r hr
    · exact absurd rfl hne
    · obtain ⟨y, hfold, rfl⟩ :=
        Arith.fold_of_apply_eq_ok ((applyTag_symbol o (.arith .div) _).symm.trans hr)
      obtain ⟨w, rfl⟩ := Arith.fold_div_isFloat hfold
      exact ⟨w, rfl⟩

/-- `(- 10 3 2)` is `-15`, minus the sum; and `(+ 1 0.5)` and `(/ 4)`, a quotient of one
integer, have floats as values if any. -/
theorem sub_negates_sum_and_kinds_of_float_results :
    let half : Float := Float.ofBits 0x3FE0000000000000
    applyTag {} (.str (.ofString "-")) ([10, 3, 2].map (Value.num ∘ Number.int)) =
        .ok (.num (.int (-15))) ∧
      ((∃ z, .float z ∈ [Number.int 1, .float half]) ∧
        ∀ r, applyTag {} (.str (.ofString "+")) ([Number.int 1, .float half].map .num) = .ok r →
          ∃ w, r = .num (.float w)) ∧
      ([Number.int 4] ≠ [] ∧
        ∀ r, applyTag {} (.str (.ofString "/")) ([Number.int 4].map .num) = .ok r →
          ∃ w, r = .num (.float w)) := by
  intro half
  have hkinds := integer_fold_exact_and_result_kinds {}
  have hfloat : ∃ z, .float z ∈ [Number.int 1, .float half] := ⟨half, by simp⟩
  refine ⟨(hkinds.1 [10, 3, 2]).2.1, ⟨hfloat, hkinds.2.1 .add _ hfloat⟩, ?_⟩
  have hne : [Number.int 4] ≠ [] := by simp
  exact ⟨hne, hkinds.2.2.2 _ hne⟩

end L1
