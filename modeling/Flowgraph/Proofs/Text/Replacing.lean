import Flowgraph.Text.Search
/-!
# What replacing leaves alone

Replacing a pattern everywhere works on the two sides of a character apart when no occurrence of the
pattern reaches that character from the left (`replaceFrom_append`): because the character is not in
the pattern, or because it ends the text and not the pattern. At both ends of the new text stands
what stood there before, or what was written there (`head?_replaceAll`, `getLast?_replaceFrom`).
-/

namespace Flowgraph.Text

variable {pattern replacement cs : List Char} {c : Char}

/-! ## Replacing on two sides of a character -/

theorem prefix_of_prefix_append_cons (h : c ∉ pattern) {as bs : List Char}
    (hbegins : pattern <+: as ++ c :: bs) : pattern <+: as := by
  refine List.prefix_of_prefix_length_le hbegins (List.prefix_append as _)
    (Nat.le_of_not_lt fun hlong => ?_)
  obtain ⟨rest, hrest⟩ := hbegins
  have hat : (as ++ c :: bs)[as.length]? = some c := by simp
  rw [← hrest, List.getElem?_append_left hlong] at hat
  exact h (List.mem_of_getElem? hat)

theorem prefix_of_prefix_concat (h : pattern.getLast? ≠ some c) {as : List Char}
    (hbegins : pattern <+: as ++ [c]) : pattern <+: as := by
  rcases List.prefix_concat_iff.1 hbegins with heq | hbegins
  · rw [heq, List.getLast?_concat] at h
    exact absurd rfl h
  · exact hbegins

/-- Where the pattern begins, it is replaced. -/
theorem replaceFrom_of_begins {cs : List Char} (h : pattern <+: c :: cs) :
    replaceFrom pattern replacement 0 (c :: cs) =
      replacement ++ replaceFrom pattern replacement (pattern.length - 1) cs := by
  rw [replaceFrom, if_pos (List.isPrefixOf_iff_prefix.2 h)]

/-- Where the pattern does not begin, the character stays. -/
theorem replaceFrom_of_not_begins {cs : List Char} (h : ¬pattern <+: c :: cs) :
    replaceFrom pattern replacement 0 (c :: cs) = c :: replaceFrom pattern replacement 0 cs := by
  rw [replaceFrom, if_neg fun hstarts => h (List.isPrefixOf_iff_prefix.1 hstarts)]

/-- Where no occurrence reaches a character, its two sides are replaced apart. -/
theorem replaceFrom_append {bs : List Char} (hne : pattern ≠ [])
    (hreach : ∀ as, pattern <+: as ++ c :: bs → pattern <+: as) {as : List Char} {skip : Nat}
    (hskip : skip ≤ as.length) :
    replaceFrom pattern replacement skip (as ++ c :: bs) =
      replaceFrom pattern replacement skip as ++ c :: replaceFrom pattern replacement 0 bs := by
  induction as generalizing skip with
  | nil =>
    obtain rfl : skip = 0 := Nat.eq_zero_of_le_zero hskip
    exact replaceFrom_of_not_begins fun hbegins => hne (List.prefix_nil.1 (hreach [] hbegins))
  | cons a as ih =>
    cases skip with
    | succ skip => exact ih (Nat.le_of_succ_le_succ hskip)
    | zero =>
      rw [List.cons_append]
      by_cases hstarts : pattern <+: a :: as
      · have hwhole : pattern <+: a :: (as ++ c :: bs) :=
          hstarts.trans (List.prefix_append (a :: as) (c :: bs))
        have hle := hstarts.length_le
        rw [List.length_cons] at hle
        rw [replaceFrom_of_begins hstarts, replaceFrom_of_begins hwhole, ih (by omega),
          List.append_assoc]
      · have hwhole : ¬pattern <+: a :: (as ++ c :: bs) := fun hbegins =>
          hstarts (hreach (a :: as) hbegins)
        rw [replaceFrom_of_not_begins hstarts, replaceFrom_of_not_begins hwhole,
          ih (Nat.zero_le _), List.cons_append]

/-- A character that does not begin the pattern stays in front. -/
theorem replaceAll_cons (hne : pattern ≠ []) (h : pattern.head? ≠ some c) :
    replaceAll pattern replacement (c :: cs) = c :: replaceAll pattern replacement cs := by
  refine replaceFrom_of_not_begins fun hbegins => ?_
  obtain ⟨p, rest, rfl⟩ := List.exists_cons_of_ne_nil hne
  rw [(List.cons_prefix_cons.1 hbegins).1] at h
  exact h rfl

/-- A character that does not end the pattern stays at the end. -/
theorem replaceAll_concat (hne : pattern ≠ []) (h : pattern.getLast? ≠ some c) :
    replaceAll pattern replacement (cs ++ [c]) = replaceAll pattern replacement cs ++ [c] :=
  replaceFrom_append hne (fun _ => prefix_of_prefix_concat h) (Nat.zero_le _)

/-- A character that is not in the pattern stays where it is. -/
theorem replaceAll_append_cons (hne : pattern ≠ []) (h : c ∉ pattern) (as bs : List Char) :
    replaceAll pattern replacement (as ++ c :: bs) =
      replaceAll pattern replacement as ++ c :: replaceAll pattern replacement bs :=
  replaceFrom_append hne (fun _ => prefix_of_prefix_append_cons h) (Nat.zero_le _)

/-- Nothing is replaced where the pattern does not occur. -/
theorem replaceAll_eq_self (h : ¬pattern <:+: cs) : replaceAll pattern replacement cs = cs := by
  induction cs with
  | nil => rfl
  | cons a rest ih =>
    have hrest : ¬pattern <:+: rest := fun hoccurs =>
      h (hoccurs.trans (List.suffix_cons a rest).isInfix)
    rw [replaceAll, replaceFrom_of_not_begins fun hbegins => h hbegins.isInfix, ← replaceAll,
      ih hrest]

/-! ## What the new text is made of -/

theorem mem_replaceFrom {skip : Nat} (h : c ∈ replaceFrom pattern replacement skip cs) :
    c ∈ replacement ∨ c ∈ cs := by
  induction cs generalizing skip with
  | nil => cases skip <;> exact absurd h List.not_mem_nil
  | cons a rest ih =>
    cases skip with
    | succ skip => exact (ih h).imp_right (List.mem_cons_of_mem a)
    | zero =>
      by_cases hstarts : pattern <+: a :: rest
      · rw [replaceFrom_of_begins hstarts, List.mem_append] at h
        rcases h with h | h
        · exact .inl h
        · exact (ih h).imp_right (List.mem_cons_of_mem a)
      · rw [replaceFrom_of_not_begins hstarts, List.mem_cons] at h
        rcases h with rfl | h
        · exact .inr List.mem_cons_self
        · exact (ih h).imp_right (List.mem_cons_of_mem a)

variable (hreplacement : replacement ≠ [])

include hreplacement

theorem replaceAll_ne_nil (h : cs ≠ []) : replaceAll pattern replacement cs ≠ [] := by
  obtain ⟨a, rest, rfl⟩ := List.exists_cons_of_ne_nil h
  rw [replaceAll]
  by_cases hstarts : pattern <+: a :: rest
  · rw [replaceFrom_of_begins hstarts]
    exact List.append_ne_nil_of_left_ne_nil hreplacement _
  · rw [replaceFrom_of_not_begins hstarts]
    exact List.cons_ne_nil _ _

/-- In front stands what stood there, or what was written there. -/
theorem head?_replaceAll (h : (replaceAll pattern replacement cs).head? = some c) :
    c ∈ replacement ∨ cs.head? = some c := by
  cases cs with
  | nil => cases h
  | cons a rest =>
    rw [replaceAll] at h
    by_cases hstarts : pattern <+: a :: rest
    · obtain ⟨r, more, rfl⟩ := List.exists_cons_of_ne_nil hreplacement
      rw [replaceFrom_of_begins hstarts] at h
      cases h
      exact .inl List.mem_cons_self
    · rw [replaceFrom_of_not_begins hstarts] at h
      exact .inr h

/-- At the end stands what stood there, or what was written there. -/
theorem getLast?_replaceFrom {skip : Nat}
    (h : (replaceFrom pattern replacement skip cs).getLast? = some c) :
    c ∈ replacement ∨ cs.getLast? = some c := by
  induction cs generalizing skip with
  | nil => cases skip <;> cases h
  | cons a rest ih =>
    have hrest : ∀ {skip : Nat},
        (replaceFrom pattern replacement skip rest).getLast? = some c →
          c ∈ replacement ∨ (a :: rest).getLast? = some c := by
      intro skip h
      refine (ih h).imp_right fun hlast => ?_
      rw [List.getLast?_cons, hlast]
      rfl
    cases skip with
    | succ skip => exact hrest h
    | zero =>
      by_cases hstarts : pattern <+: a :: rest
      · rw [replaceFrom_of_begins hstarts, List.getLast?_append] at h
        rcases Option.or_eq_some_iff.1 h with h | ⟨-, h⟩
        · exact hrest h
        · exact .inl (List.mem_of_getLast? h)
      · rw [replaceFrom_of_not_begins hstarts] at h
        -- Nothing is left of the rest only if there is none.
        cases rest with
        | nil => exact .inr h
        | cons b rest =>
          have hne : replaceFrom pattern replacement 0 (b :: rest) ≠ [] :=
            replaceAll_ne_nil hreplacement (List.cons_ne_nil b rest)
          rw [List.getLast?_cons_of_ne_nil hne] at h
          exact hrest h

end Flowgraph.Text
