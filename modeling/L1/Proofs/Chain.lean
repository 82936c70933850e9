import L1.Proofs.Extension

/-!
# Environment chains: bindings, look-ups and text

An environment is the empty one extended binding by binding, and everything else about it is
read off its bindings, innermost first, shadowed ones included: its depth is their number, a
look-up takes the first binding of the name, and its text writes each binding followed by an
arrow, then the empty end.

The look-up is stated here by the pair it finds, and its text in two ways: built up one binding
at a time, each new binding taking its place right after the opening, and written out as the
bindings one after another. The two agree at the empty environment, whose text is the opening,
the empty end and nothing else.
-/

namespace L1

namespace Text

theorem ext {a b : Text} (h : a.points = b.points) : a = b := by
  cases a
  cases b
  cases h
  rfl

@[simp] theorem points_empty : empty.points = [] := rfl

theorem append_assoc (a b c : Text) : a ++ b ++ c = a ++ (b ++ c) := by
  apply ext
  simp

def join (ts : List Text) : Text :=
  ⟨ts.flatMap Text.points⟩

@[simp] theorem join_nil : join [] = empty := rfl

@[simp] theorem join_cons (t : Text) (ts : List Text) : join (t :: ts) = t ++ join ts := rfl

theorem intercalate_cons_of_ne_nil (sep t : Text) {ts : List Text} (hts : ts ≠ []) :
    sep.intercalate (t :: ts) = t ++ sep ++ sep.intercalate ts := by
  cases ts with
  | nil => exact absurd rfl hts
  | cons u us => rfl

/-- Texts joined by a separator and ended by a last one: each text is followed by the
separator. -/
theorem intercalate_append_singleton (sep : Text) (ts : List Text) (last : Text) :
    sep.intercalate (ts ++ [last]) = join (ts.map (· ++ sep)) ++ last := by
  induction ts with
  | nil =>
      apply ext
      simp [intercalate, join]
  | cons t ts ih =>
      rw [List.cons_append, intercalate_cons_of_ne_nil sep t (by simp), ih]
      simp only [List.map_cons, join_cons, append_assoc]

end Text

namespace Env

/-! ## Bindings and look-ups -/

@[simp] theorem bindings_empty : empty.bindings = [] := rfl

@[simp] theorem bindings_extend (e : Env) (n : Name) (v : Value) :
    (e.extend n v).bindings = ⟨n, v⟩ :: e.bindings := rfl

theorem eq_str_of_ofScalar_eq_some {y : Scalar} {n : Name} (h : Name.ofScalar? y = some n) :
    y = .str n.text := by
  cases y with
  | str s =>
      by_cases hs : s = Text.empty
      · simp [Name.ofScalar?, hs] at h
      · simp only [Name.ofScalar?, dif_neg hs, Option.some.injEq] at h
        subst h
        rfl
  | int _ | float _ | bool _ | none => cases h

theorem bind_name (e : Env) (n : Name) (v : Value) : e.bind? (.str n.text) v = .ok (e.extend n v) := by
  simp [bind?, Name.ofScalar?, n.nonempty]

theorem bind_eq_ok_iff {e e' : Env} {y : Scalar} {v : Value} :
    e.bind? y v = .ok e' ↔ ∃ n : Name, y = .str n.text ∧ e'.bindings = ⟨n, v⟩ :: e.bindings := by
  constructor
  · intro h
    unfold bind? at h
    split at h
    · rename_i n hn
      cases h
      exact ⟨n, eq_str_of_ofScalar_eq_some hn, rfl⟩
    · cases h
  · rintro ⟨n, rfl, hbindings⟩
    rw [bind_name]
    -- an environment is its bindings
    obtain ⟨bs⟩ := e'
    change bs = _ at hbindings
    subst hbindings
    rfl

@[simp] theorem lookup_empty (x : Scalar) : empty.lookup x = .error (.unbound x) := by
  cases x <;> rfl

theorem lookup_eq_ok_iff {e : Env} {x : Scalar} {v : Value} :
    e.lookup x = .ok v ↔ ∃ pre n post, e.bindings = pre ++ ⟨n, v⟩ :: post ∧ x = .str n.text ∧
      ∀ b ∈ pre, x ≠ .str b.name.text := by
  obtain ⟨bs⟩ := e
  induction bs with
  | nil =>
      change empty.lookup x = .ok v ↔ _
      simp
  | cons b bs ih =>
      change (extend ⟨bs⟩ b.name b.value).lookup x = .ok v ↔ _
      by_cases hx : x = .str b.name.text
      · -- the innermost binding has the name, so it is the first pair
        rw [hx, lookup_extend_self]
        constructor
        · rintro ⟨⟩
          exact ⟨[], b.name, bs, rfl, rfl, by simp⟩
        · rintro ⟨pre, n, post, hsplit, -, hpre⟩
          cases pre with
          | nil =>
              obtain ⟨rfl, -⟩ := List.cons.inj hsplit
              rfl
          | cons c pre =>
              obtain ⟨rfl, -⟩ := List.cons.inj hsplit
              exact absurd rfl (hpre _ (.head _))
      · -- the first pair is among the outer bindings
        rw [lookup_extend_of_ne _ _ _ hx, ih]
        constructor
        · rintro ⟨pre, n, post, hsplit, hxn, hpre⟩
          refine ⟨b :: pre, n, post, congrArg (b :: ·) hsplit, hxn, ?_⟩
          rintro c (_ | ⟨_, hc⟩)
          · exact hx
          · exact hpre c hc
        · rintro ⟨pre, n, post, hsplit, hxn, hpre⟩
          cases pre with
          | nil =>
              obtain ⟨rfl, -⟩ := List.cons.inj hsplit
              exact absurd hxn hx
          | cons c pre =>
              obtain ⟨-, hrest⟩ := List.cons.inj hsplit
              exact ⟨pre, n, post, hrest, hxn, fun c hc => hpre c (.tail _ hc)⟩

theorem lookup_eq_unbound_iff {e : Env} {x : Scalar} :
    e.lookup x = .error (.unbound x) ↔ ∀ b ∈ e.bindings, x ≠ .str b.name.text := by
  obtain ⟨bs⟩ := e
  induction bs with
  | nil =>
      change empty.lookup x = _ ↔ _
      simp
  | cons b bs ih =>
      change (extend ⟨bs⟩ b.name b.value).lookup x = _ ↔ _
      by_cases hx : x = .str b.name.text
      · -- the innermost binding has the name
        subst hx
        simp
      · rw [lookup_extend_of_ne _ _ _ hx, ih]
        simp only [List.mem_cons, forall_eq_or_imp]
        exact ⟨fun h => ⟨hx, h⟩, fun h => h.2⟩

/-! ## Text -/

theorem render_binding_arrow (b : Binding) :
    b.render ++ .ofString " -> " =
      .ofString "\x7b" ++ b.name.text ++ .ofString ": " ++ b.value.render ++ .ofString "\x7d -> " := by
  apply Text.ext
  simp [Binding.render]

theorem render_eq_join (e : Env) :
    e.render = .ofString "<Environment chain: " ++
      Text.join (e.bindings.map fun b => b.render ++ .ofString " -> ") ++ .ofString "\x7b\x7d>" := by
  rw [render, Text.intercalate_append_singleton, List.map_map]
  apply Text.ext
  simp [Function.comp_def]

end Env

/-- The bindings and the depth of an environment and its look-ups agree. Binding succeeds
exactly for a name and puts the new binding in front of the bindings, which the empty
environment has none of. The depth is the number of bindings, shadowed ones included. A
look-up gives the value of the first binding of the name, innermost first, and finds nothing,
whatever the kind of the name looked up, exactly when no binding has it. -/
theorem chain_traversals_agree :
    Env.empty.bindings = [] ∧
    (∀ (e e' : Env) (y : Scalar) (v : Value), e.bind? y v = .ok e' ↔
      ∃ n : Name, y = .str n.text ∧ e'.bindings = ⟨n, v⟩ :: e.bindings) ∧
    (∀ e : Env, e.depth = e.bindings.length) ∧
    (∀ (e : Env) (x : Scalar) (v : Value), e.lookup x = .ok v ↔
      ∃ pre n post, e.bindings = pre ++ ⟨n, v⟩ :: post ∧ x = .str n.text ∧
        ∀ b ∈ pre, x ≠ .str b.name.text) ∧
    (∀ (e : Env) (x : Scalar),
      e.lookup x = .error (.unbound x) ↔ ∀ b ∈ e.bindings, x ≠ .str b.name.text) :=
  ⟨rfl, fun _ _ _ _ => Env.bind_eq_ok_iff, fun _ => rfl,
    fun _ _ _ => Env.lookup_eq_ok_iff, fun _ _ => Env.lookup_eq_unbound_iff⟩

/-- Binding `x` to `2` over a binding of `x` to `1` puts the new binding in front, and the
look-up of `x` then finds `2`, the first of the two. -/
theorem shadowing_binding_found_first :
    let one : Env := ⟨[⟨Name.x, .num (.int 1)⟩]⟩
    let two : Env := ⟨[⟨Name.x, .num (.int 2)⟩, ⟨Name.x, .num (.int 1)⟩]⟩
    one.bind? (.str (.ofString "x")) (.num (.int 2)) = .ok two ∧
      (∃ n : Name, Scalar.str (.ofString "x") = .str n.text ∧
        two.bindings = ⟨n, .num (.int 2)⟩ :: one.bindings) ∧
      two.lookup (.str (.ofString "x")) = .ok (.num (.int 2)) := by
  intro one two
  have hbind : one.bind? (.str (.ofString "x")) (.num (.int 2)) = .ok two := rfl
  refine ⟨hbind, (chain_traversals_agree.2.1 one two _ _).mp hbind, ?_⟩
  exact (chain_traversals_agree.2.2.2.1 two _ _).mpr ⟨[], Name.x, one.bindings, rfl, rfl, by simp⟩

/-- The text of an environment is built one binding at a time: extending writes the new
binding, `{name: value}`, and an arrow right after the opening, in front of the rest of the
text. Written out, it is the opening, each binding followed by an arrow, innermost first, and
the empty end; for the empty environment this is the opening and the empty end alone. -/
theorem render_compositional :
    (∀ (e : Env) (n : Name) (v : Value), ∃ rest,
      e.render = .ofString "<Environment chain: " ++ rest ∧
      (e.extend n v).render = .ofString "<Environment chain: \x7b" ++ n.text ++ .ofString ": " ++
        v.render ++ .ofString "\x7d -> " ++ rest) ∧
    (∀ e : Env, e.render = .ofString "<Environment chain: " ++
      Text.join (e.bindings.map fun b =>
        .ofString "\x7b" ++ b.name.text ++ .ofString ": " ++ b.value.render ++ .ofString "\x7d -> ") ++
      .ofString "\x7b\x7d>") ∧
    Env.empty.render = .ofString "<Environment chain: \x7b\x7d>" := by
  refine ⟨fun e n v => ?_, fun e => ?_, ?_⟩
  · refine ⟨Text.join (e.bindings.map fun b => b.render ++ .ofString " -> ") ++ .ofString "\x7b\x7d>",
      ?_, ?_⟩
    · rw [Env.render_eq_join, Text.append_assoc]
    · rw [Env.render_eq_join, Env.bindings_extend, List.map_cons, Text.join_cons,
        Env.render_binding_arrow]
      apply Text.ext
      simp
  · simp only [Env.render_eq_join, Env.render_binding_arrow]
  · apply Text.ext
    simp [Env.render_eq_join]

end L1
