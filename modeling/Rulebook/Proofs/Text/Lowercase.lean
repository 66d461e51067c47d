import Rulebook.Text.Lowercase
import Mathlib.Data.List.Infix

/-!
# Lower-casing a part of a text

The lower case of a capital sigma depends on what stands around it, so a part of a text may come
out in another way than it does alone. `lowerBetween before after x` is what `x` comes out as in its
place, and the lower case of a whole text is made up of such stretches (`lowercase_append`).

A stretch comes out as it does alone exactly when each capital sigma in it ends a word in its place
just when it does alone (`lowerBetween_eq_iff`). Since a stretch has one length wherever it stands,
this decides whether the lower case of a text still begins or ends with that of a part that it
begins or ends with (`lowercase_prefix_iff`, `lowercase_suffix_iff`).
-/

namespace Rulebook.Text

/-- The lower case of a stretch that stands between `before`, which is given backwards, and
`after`. -/
def lowerBetween (before after : List Char) : List Char → List Char
  | [] => []
  | c :: rest =>
    (if c = 'Σ' then [if endsWord before (rest ++ after) then 'ς' else 'σ'] else lowerChar c) ++
      lowerBetween (c :: before) after rest

/-- Each capital sigma of `x` ends a word between `u` and `v` just when it does in `x` alone. -/
def KeepsWordEnds (u x v : List Char) : Prop :=
  ∀ p q, x = p ++ 'Σ' :: q →
    endsWord (p.reverse ++ u.reverse) (q ++ v) = endsWord p.reverse q

theorem keepsWordEnds_of_not_mem {u x v : List Char} (h : 'Σ' ∉ x) : KeepsWordEnds u x v := by
  rintro p q rfl
  exact absurd (List.mem_append_right p List.mem_cons_self) h

/-! ## Stretches of a text -/

theorem lowerAfter_append (before x y : List Char) :
    lowerAfter before (x ++ y) =
      lowerBetween before y x ++ lowerAfter (x.reverse ++ before) y := by
  induction x generalizing before with
  | nil => rfl
  | cons c x ih =>
    rw [List.cons_append, lowerAfter, lowerBetween, ih, List.append_assoc, List.reverse_cons,
      List.append_assoc, List.singleton_append]

theorem lowerAfter_eq_lowerBetween (before x : List Char) :
    lowerAfter before x = lowerBetween before [] x := by
  have h := lowerAfter_append before x []
  rwa [List.append_nil, lowerAfter, List.append_nil] at h

theorem lowercase_eq_lowerBetween (x : List Char) : lowercase x = lowerBetween [] [] x :=
  lowerAfter_eq_lowerBetween [] x

/-- The lower case of a text, cut into what becomes of three parts of it. -/
theorem lowercase_append (u x v : List Char) :
    lowercase (u ++ (x ++ v)) =
      lowerBetween [] (x ++ v) u ++
        (lowerBetween u.reverse v x ++ lowerBetween (x.reverse ++ u.reverse) [] v) := by
  rw [lowercase, lowerAfter_append, List.append_nil, lowerAfter_append,
    lowerAfter_eq_lowerBetween]

/-! ## One stretch in two places -/

theorem length_lowerBetween (before after before' after' x : List Char) :
    (lowerBetween before after x).length = (lowerBetween before' after' x).length := by
  induction x generalizing before before' with
  | nil => rfl
  | cons c x ih =>
    rw [lowerBetween, lowerBetween, List.length_append, List.length_append,
      ih (c :: before) (c :: before')]
    split <;> rfl

/-- **A stretch comes out alike in two places** if and only if each capital sigma in it ends a word
in both or in neither. -/
theorem lowerBetween_eq_iff {before after before' after' x : List Char} :
    lowerBetween before after x = lowerBetween before' after' x ↔
      ∀ p q, x = p ++ 'Σ' :: q →
        endsWord (p.reverse ++ before) (q ++ after) =
          endsWord (p.reverse ++ before') (q ++ after') := by
  induction x generalizing before before' with
  | nil => simp [lowerBetween]
  | cons c x ih =>
    -- The first character is in the stretch with nothing before it; all others come after it.
    have hsplit : (∀ p q, c :: x = p ++ 'Σ' :: q →
          endsWord (p.reverse ++ before) (q ++ after) =
            endsWord (p.reverse ++ before') (q ++ after')) ↔
        (c = 'Σ' → endsWord before (x ++ after) = endsWord before' (x ++ after')) ∧
          ∀ p q, x = p ++ 'Σ' :: q →
            endsWord (p.reverse ++ c :: before) (q ++ after) =
              endsWord (p.reverse ++ c :: before') (q ++ after') := by
      constructor
      · intro h
        refine ⟨fun hc => h [] x (by rw [hc, List.nil_append]), fun p q hx => ?_⟩
        simpa using h (c :: p) q (by rw [hx, List.cons_append])
      · rintro ⟨hfirst, hrest⟩ p q hx
        cases p with
        | nil =>
          obtain ⟨rfl, rfl⟩ := List.cons.inj hx
          exact hfirst rfl
        | cons a p =>
          obtain ⟨rfl, hx'⟩ := List.cons.inj hx
          simpa using hrest p q hx'
    rw [hsplit, ← ih, lowerBetween, lowerBetween]
    by_cases hc : c = 'Σ'
    · rw [if_pos hc, if_pos hc, List.singleton_append, List.singleton_append, List.cons.injEq]
      refine and_congr_left fun _ => ?_
      cases endsWord before (x ++ after) <;> cases endsWord before' (x ++ after') <;> simp [hc]
    · simp [hc]

theorem keepsWordEnds_iff {u x v : List Char} :
    KeepsWordEnds u x v ↔ lowercase x = lowerBetween u.reverse v x := by
  rw [lowercase_eq_lowerBetween, lowerBetween_eq_iff, KeepsWordEnds]
  simp only [List.append_nil]
  exact forall₃_congr fun p q _ => eq_comm

/-! ## Parts of a text -/

theorem lowercase_prefix_iff {x v : List Char} :
    lowercase x <+: lowercase (x ++ v) ↔ KeepsWordEnds [] x v := by
  have hlower : lowercase (x ++ v) = lowerBetween [] v x ++ lowerBetween x.reverse [] v := by
    have h := lowercase_append [] x v
    rwa [List.nil_append, List.reverse_nil, List.append_nil, lowerBetween, List.nil_append] at h
  rw [keepsWordEnds_iff, hlower]
  constructor
  · intro h
    refine List.IsPrefix.eq_of_length (List.prefix_of_prefix_length_le h (List.prefix_append _ _)
      (Nat.le_of_eq ?_)) ?_
    all_goals rw [lowercase_eq_lowerBetween]; exact length_lowerBetween _ _ _ _ x
  · intro h
    rw [h]
    exact List.prefix_append _ _

theorem lowercase_suffix_iff {u x : List Char} :
    lowercase x <:+ lowercase (u ++ x) ↔ KeepsWordEnds u x [] := by
  have hlower : lowercase (u ++ x) = lowerBetween [] x u ++ lowerBetween u.reverse [] x := by
    have h := lowercase_append u x []
    rwa [List.append_nil, lowerBetween, List.append_nil] at h
  rw [keepsWordEnds_iff, hlower]
  constructor
  · intro h
    refine List.IsSuffix.eq_of_length (List.suffix_of_suffix_length_le h (List.suffix_append _ _)
      (Nat.le_of_eq ?_)) ?_
    all_goals rw [lowercase_eq_lowerBetween]; exact length_lowerBetween _ _ _ _ x
  · intro h
    rw [h]
    exact List.suffix_append _ _

/-- A part whose word ends are kept is found again in lower case. -/
theorem lowercase_infix_of_keepsWordEnds {u x v : List Char} (h : KeepsWordEnds u x v) :
    lowercase x <:+: lowercase (u ++ (x ++ v)) := by
  rw [lowercase_append, ← keepsWordEnds_iff.1 h, ← List.append_assoc]
  exact List.infix_append _ _ _

end Rulebook.Text
