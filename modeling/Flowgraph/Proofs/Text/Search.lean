import Flowgraph.Text.Search
/-!
# Where texts are cut

A text is cut at the first occurrence of a mark (`cutAt?_le`), and is not cut only where the mark
does not occur at all (`cutAt?_eq_none_iff`). Cut at a single character, the part in front does not
have that character (`not_mem_of_cutAt?`), and a text without it in front changes nothing
(`cutAt?_append_of_not_mem`). What stands on both sides of the first place of a character, or of its
last, is read back off the whole (`append_cons_inj_of_notMem_left`,
`append_cons_inj_of_notMem_right`).
-/

namespace Flowgraph.Text

/-! ## One character -/

section Split

variable {α : Type} {a : α} {as bs as' bs' : List α}

/-- A list is split at the first place of an element in one way only. -/
theorem append_cons_inj_of_notMem_left (h : a ∉ as) (h' : a ∉ as')
    (heq : as ++ a :: bs = as' ++ a :: bs') : as = as' ∧ bs = bs' := by
  -- what stands between the two places of the element is in front of one of them
  have hnothing : ∀ between cs cs' : List α, a ∉ between → a :: cs = between ++ a :: cs' →
      between = [] ∧ cs = cs' := by
    intro between cs cs' hbetween hrest
    cases between with
    | nil => exact ⟨rfl, (List.cons.inj hrest).2⟩
    | cons c rest => exact absurd (List.mem_cons.2 (.inl (List.cons.inj hrest).1)) hbetween
  rcases List.append_eq_append_iff.1 heq with ⟨between, rfl, hrest⟩ | ⟨between, rfl, hrest⟩
  · have hbetween : a ∉ between := fun hmem => h' (List.mem_append_right _ hmem)
    obtain ⟨rfl, rfl⟩ := hnothing between bs bs' hbetween hrest
    exact ⟨(List.append_nil as).symm, rfl⟩
  · have hbetween : a ∉ between := fun hmem => h (List.mem_append_right _ hmem)
    obtain ⟨rfl, rfl⟩ := hnothing between bs' bs hbetween hrest
    exact ⟨List.append_nil as', rfl⟩

/-- A list is split at the last place of an element in one way only. -/
theorem append_cons_inj_of_notMem_right (h : a ∉ bs) (h' : a ∉ bs')
    (heq : as ++ a :: bs = as' ++ a :: bs') : as = as' ∧ bs = bs' := by
  have hreverse := congrArg List.reverse heq
  simp only [List.reverse_append, List.reverse_cons, List.append_assoc, List.singleton_append]
    at hreverse
  obtain ⟨hbs, has⟩ := append_cons_inj_of_notMem_left
    (mt List.mem_reverse.1 h) (mt List.mem_reverse.1 h') hreverse
  exact ⟨List.reverse_inj.1 has, List.reverse_inj.1 hbs⟩

end Split

/-! ## Marks -/

theorem cutAt?_of_isPrefixOf {mark cs : List Char} (hne : mark ≠ [])
    (h : mark.isPrefixOf cs = true) : cutAt? mark cs = some ([], cs.drop mark.length) := by
  cases cs with
  | nil =>
    rw [List.isPrefixOf_iff_prefix, List.prefix_nil] at h
    exact absurd h hne
  | cons c cs => rw [cutAt?, if_pos h]

/-- A text is cut wherever the mark occurs, and not behind that place. -/
theorem cutAt?_append {mark : List Char} (hne : mark ≠ []) (before after : List Char) :
    ∃ first rest, cutAt? mark (before ++ mark ++ after) = some (first, rest) ∧
      first.length ≤ before.length := by
  induction before with
  | nil =>
    refine ⟨[], after, ?_, Nat.le_refl _⟩
    have hstarts : mark.isPrefixOf (mark ++ after) = true := by
      rw [List.isPrefixOf_iff_prefix]
      exact List.prefix_append mark after
    rw [List.nil_append, cutAt?_of_isPrefixOf hne hstarts, List.drop_left]
  | cons c before ih =>
    obtain ⟨first, rest, hcut, hle⟩ := ih
    simp only [List.cons_append, cutAt?]
    by_cases hstarts : mark.isPrefixOf (c :: (before ++ mark ++ after)) = true
    · rw [if_pos hstarts]
      exact ⟨[], _, rfl, Nat.zero_le _⟩
    · rw [if_neg hstarts, hcut]
      exact ⟨c :: first, rest, rfl, Nat.succ_le_succ hle⟩

/-- A text is not cut where the mark does not occur. -/
theorem cutAt?_eq_none_iff {mark : List Char} (hne : mark ≠ []) {cs : List Char} :
    cutAt? mark cs = none ↔ ∀ before after, cs ≠ before ++ mark ++ after := by
  constructor
  · rintro h before after rfl
    obtain ⟨first, rest, hcut, -⟩ := cutAt?_append hne before after
    rw [h] at hcut
    cases hcut
  · intro h
    cases hcut : cutAt? mark cs with
    | none => rfl
    | some parts => exact absurd (cutAt?_eq_some hcut) (h parts.1 parts.2)

/-- A text is cut at the first occurrence of the mark. -/
theorem cutAt?_le {mark : List Char} (hne : mark ≠ []) {cs before after before' after' : List Char}
    (h : cutAt? mark cs = some (before, after)) (htext : cs = before' ++ mark ++ after') :
    before.length ≤ before'.length := by
  obtain ⟨first, rest, hcut, hle⟩ := cutAt?_append hne before' after'
  rw [← htext, h] at hcut
  cases hcut
  exact hle

/-- In front of the first occurrence of a character there is none. -/
theorem not_mem_of_cutAt? {c : Char} {cs before after : List Char}
    (h : cutAt? [c] cs = some (before, after)) : c ∉ before := by
  intro hmem
  obtain ⟨front, back, rfl⟩ := List.append_of_mem hmem
  have htext := cutAt?_eq_some h
  rw [List.append_assoc front (c :: back), List.append_assoc front,
    show c :: back ++ [c] ++ after = [c] ++ (back ++ [c] ++ after) by simp,
    ← List.append_assoc] at htext
  have hle := cutAt?_le (List.cons_ne_nil c []) h htext
  rw [List.length_append, List.length_cons] at hle
  omega

theorem cutAt?_singleton_eq_none_iff {c : Char} {cs : List Char} :
    cutAt? [c] cs = none ↔ c ∉ cs := by
  rw [cutAt?_eq_none_iff (List.cons_ne_nil c [])]
  constructor
  · intro h hmem
    obtain ⟨before, after, hcs⟩ := List.append_of_mem hmem
    exact h before after (by rw [hcs, List.append_assoc, List.singleton_append])
  · rintro h before after rfl
    simp at h

theorem cutAt?_cons_self (c : Char) (cs : List Char) : cutAt? [c] (c :: cs) = some ([], cs) :=
  cutAt?_of_isPrefixOf (List.cons_ne_nil c []) (by simp)

/-- A text is not cut in a part without the character. -/
theorem cutAt?_append_of_not_mem {c : Char} {as : List Char} (h : c ∉ as) (bs : List Char) :
    cutAt? [c] (as ++ bs) = (cutAt? [c] bs).map fun parts => (as ++ parts.1, parts.2) := by
  induction as with
  | nil => cases hcut : cutAt? [c] bs <;> rw [List.nil_append, hcut] <;> rfl
  | cons a as ih =>
    rw [List.mem_cons, not_or] at h
    have hstarts : ¬[c].isPrefixOf (a :: (as ++ bs)) = true := fun hbegins =>
      h.1 (List.cons_prefix_cons.1 (List.isPrefixOf_iff_prefix.1 hbegins)).1
    rw [List.cons_append, cutAt?, if_neg hstarts, ih h.2, Option.map_map]
    rfl

end Flowgraph.Text
