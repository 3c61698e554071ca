import Flowgraph.Proofs.Text.Search
import Flowgraph.Template
/-!
# The expressions in a text

Which expression of a text is resolved next, said without the search for it. A span of a text is
flat when neither mark occurs in its body. Two flat spans of one text are the same or one lies
behind the other (`Span.IsFlat.trichotomy`), and the span that is resolved next is the first flat
one (`innermost?_eq_some_iff`). There is none only in a plain text, one that has no closed
expression at all (`innermost?_eq_none_iff`). What is written in front of a text does not change
its expressions as long as it completes none itself (`innermost?_append`).
-/

namespace Flowgraph.Template

/-- Whether no part of the text is a closed expression. -/
def IsPlain (cs : List Char) : Prop :=
  ∀ s : Span, s.text ≠ cs

/-- Whether an expression has no mark inside. -/
structure Span.IsFlat (s : Span) : Prop where
  unclosed : '\x7d' ∉ s.body
  unopened : ∀ before after, s.body ≠ before ++ openMark ++ after

theorem openMark_ne_nil : openMark ≠ [] := List.cons_ne_nil _ _

/-! ## The last opening mark -/

theorem cutAtLast?_eq_none_iff {mark : List Char} (hne : mark ≠ []) {cs : List Char} :
    cutAtLast? mark cs = none ↔ ∀ before after, cs ≠ before ++ mark ++ after := by
  constructor
  · intro h before
    induction cs generalizing before with
    | nil => simp [hne]
    | cons c cs ih =>
      cases hcut : cutAtLast? mark cs with
      | some parts => simp [cutAtLast?, hcut] at h
      | none =>
        intro after htext
        cases before with
        | nil =>
          have hstarts : mark.isPrefixOf (c :: cs) = true := by
            rw [List.isPrefixOf_iff_prefix, htext]
            exact List.prefix_append mark after
          simp [cutAtLast?, hcut, hstarts] at h
        | cons b before =>
          simp only [List.cons_append, List.cons.injEq] at htext
          exact ih hcut before after htext.2
  · intro h
    cases hcut : cutAtLast? mark cs with
    | none => rfl
    | some parts => exact absurd (cutAtLast?_eq_some hcut) (h parts.1 parts.2)

/-- Behind the last occurrence of a mark there is none. -/
theorem not_append_of_cutAtLast? {mark : List Char} (hne : mark ≠ [])
    {cs before after : List Char} (h : cutAtLast? mark cs = some (before, after))
    (front back : List Char) : after ≠ front ++ mark ++ back := by
  induction cs generalizing before with
  | nil => cases h
  | cons c cs ih =>
    cases hcut : cutAtLast? mark cs with
    | some parts =>
      simp only [cutAtLast?, hcut, Option.some.injEq, Prod.mk.injEq] at h
      obtain ⟨-, rfl⟩ := h
      exact ih hcut
    | none =>
      simp only [cutAtLast?, hcut] at h
      split at h
      · -- What is left of the text behind this mark is a part of `cs`, where it does not occur.
        cases h
        obtain ⟨m, mark, rfl⟩ := List.exists_cons_of_ne_nil hne
        intro hafter
        rw [List.length_cons, List.drop_succ_cons] at hafter
        refine (cutAtLast?_eq_none_iff hne).1 hcut (cs.take mark.length ++ front) back ?_
        calc cs = cs.take mark.length ++ cs.drop mark.length := (List.take_append_drop ..).symm
          _ = cs.take mark.length ++ front ++ m :: mark ++ back := by
            rw [hafter, List.append_assoc, List.append_assoc, List.append_assoc]
      · cases h

/-! ## Flat spans -/

namespace Span

theorem text_eq (s : Span) :
    s.text = s.before ++ '$' :: '\x7b' :: (s.body ++ '\x7d' :: s.after) := by
  simp [text, openMark, closeMark]

/-- A flat span in a text that a flat span opens: it is this span, or it lies behind it. -/
theorem IsFlat.behind {s s' : Span} (h : s.IsFlat) (h' : s'.IsFlat) {front : List Char}
    (htext : '$' :: '\x7b' :: (s.body ++ '\x7d' :: s.after) =
      front ++ '$' :: '\x7b' :: (s'.body ++ '\x7d' :: s'.after)) :
    front = [] ∧ s.body = s'.body ∧ s.after = s'.after ∨
      ∃ gap, front = openMark ++ s.body ++ closeMark ++ gap ∧
        s.after = gap ++ openMark ++ s'.body ++ closeMark ++ s'.after := by
  match front with
  | [] =>
    simp only [List.nil_append, List.cons.injEq, true_and] at htext
    exact .inl ⟨rfl, Text.append_cons_inj_of_notMem_left h.unclosed h'.unclosed htext⟩
  | [c] =>
    simp only [List.cons_append, List.nil_append, List.cons.injEq] at htext
    exact absurd htext.2.1 (by decide)
  | c :: d :: front =>
    simp only [List.cons_append, List.cons.injEq] at htext
    obtain ⟨rfl, rfl, htext⟩ := htext
    obtain ⟨more, rfl, hmore⟩ | ⟨more, hbody, hmore⟩ := List.append_eq_append_iff.1 htext
    · -- The closing mark of the first span comes before the opening mark of the second.
      cases more with
      | nil => exact absurd (List.cons.inj hmore).1 (by decide)
      | cons e gap =>
        obtain ⟨rfl, hafter⟩ := List.cons.inj hmore
        refine .inr ⟨gap, ?_, ?_⟩
        · simp [openMark, closeMark]
        · simp [hafter, openMark, closeMark]
    · -- The second span would open in the body of the first.
      match more with
      | [] => exact absurd (List.cons.inj hmore).1 (by decide)
      | [e] => exact absurd (List.cons.inj (List.cons.inj hmore).2).1 (by decide)
      | e :: e' :: more =>
        simp only [List.cons_append, List.cons.injEq] at hmore
        obtain ⟨rfl, rfl, -⟩ := hmore
        exact absurd (by simp [hbody, openMark]) (h.unopened front more)

/-- **Flat spans do not overlap**: two of them in one text are the same, or one lies behind the
other. -/
theorem IsFlat.trichotomy {s s' : Span} (h : s.IsFlat) (h' : s'.IsFlat) (htext : s.text = s'.text) :
    s = s' ∨
      (∃ gap, s'.before = s.before ++ openMark ++ s.body ++ closeMark ++ gap ∧
        s.after = gap ++ openMark ++ s'.body ++ closeMark ++ s'.after) ∨
      ∃ gap, s.before = s'.before ++ openMark ++ s'.body ++ closeMark ++ gap ∧
        s'.after = gap ++ openMark ++ s.body ++ closeMark ++ s.after := by
  rw [text_eq, text_eq] at htext
  obtain ⟨front, hfront, htext⟩ | ⟨front, hfront, htext⟩ := List.append_eq_append_iff.1 htext
  · obtain ⟨rfl, hbody, hafter⟩ | ⟨gap, rfl, hafter⟩ := h.behind h' htext
    · rw [List.append_nil] at hfront
      exact .inl (by cases s; cases s'; simp_all)
    · exact .inr (.inl ⟨gap, by simp [hfront], hafter⟩)
  · obtain ⟨rfl, hbody, hafter⟩ | ⟨gap, rfl, hafter⟩ := h'.behind h htext
    · rw [List.append_nil] at hfront
      exact .inl (by cases s; cases s'; simp_all)
    · exact .inr (.inr ⟨gap, by simp [hfront], hafter⟩)

/-- A closed expression stays one inside a longer text. -/
theorem text_within (s : Span) (front back : List Char) :
    (Span.mk (front ++ s.before) s.body (s.after ++ back)).text = front ++ s.text ++ back := by
  simp [text]

end Span

theorem isPlain_nil : IsPlain [] := by
  intro s hs
  rw [Span.text_eq] at hs
  simp at hs

theorem IsPlain.of_append {front back : List Char} (h : IsPlain (front ++ back)) :
    IsPlain front ∧ IsPlain back := by
  refine ⟨fun s hs => ?_, fun s hs => ?_⟩
  · refine h ⟨s.before, s.body, s.after ++ back⟩ ?_
    have hwithin := s.text_within [] back
    rw [List.nil_append, List.nil_append, hs] at hwithin
    exact hwithin
  · refine h ⟨front ++ s.before, s.body, s.after⟩ ?_
    have hwithin := s.text_within front []
    rw [List.append_nil, List.append_nil, hs] at hwithin
    exact hwithin

/-! ## The expression that is resolved next -/

/-- No expression closes in front of the first closing mark behind the first opening one. -/
theorem isPlain_of_cutAt? {cs before outer back : List Char}
    (hopen : Text.cutAt? openMark cs = some (before, outer ++ back)) (hunclosed : '\x7d' ∉ outer) :
    IsPlain (before ++ openMark ++ outer) := by
  intro t ht
  have htext : cs = t.before ++ openMark ++ (t.body ++ closeMark ++ t.after ++ back) := by
    rw [Text.cutAt?_eq_some hopen, ← List.append_assoc, ← ht]
    simp [Span.text]
  have hle : before.length ≤ t.before.length := Text.cutAt?_le openMark_ne_nil hopen htext
  -- So the closing mark of `t` would be one of `outer`.
  rw [Span.text_eq, List.append_assoc] at ht
  obtain ⟨more, hbefore, hmore⟩ | ⟨more, hbefore, hmore⟩ := List.append_eq_append_iff.1 ht
  · rw [hbefore, List.length_append] at hle
    obtain rfl : more = [] := List.eq_nil_of_length_eq_zero (by omega)
    simp only [openMark, List.nil_append, List.cons_append, List.cons.injEq, true_and] at hmore
    exact hunclosed (by simp [← hmore])
  · have hmem : '\x7d' ∈ openMark ++ outer := by simp [hmore]
    simp [openMark, hunclosed] at hmem

/-- The span that is resolved next is flat, and no expression closes in front of it. -/
theorem isFlat_of_innermost? {cs : List Char} {s : Span} (h : innermost? cs = some s) :
    s.IsFlat ∧ IsPlain s.before := by
  simp only [innermost?, Option.bind_eq_bind, Option.bind_eq_some_iff] at h
  obtain ⟨⟨before, rest⟩, hopen, ⟨inside, after⟩, hclose, h⟩ := h
  have hunclosed : '\x7d' ∉ inside := Text.not_mem_of_cutAt? hclose
  have hrest : rest = inside ++ closeMark ++ after := Text.cutAt?_eq_some hclose
  cases hlast : cutAtLast? openMark inside with
  | none =>
    simp only [hlast, Option.pure_def, Option.some.injEq] at h
    subst h
    rw [← List.nil_append rest] at hopen
    have hplain := isPlain_of_cutAt? hopen List.not_mem_nil
    rw [List.append_nil] at hplain
    exact ⟨⟨hunclosed, (cutAtLast?_eq_none_iff openMark_ne_nil).1 hlast⟩, hplain.of_append.1⟩
  | some parts =>
    obtain ⟨outer, body⟩ := parts
    simp only [hlast, Option.pure_def, Option.some.injEq] at h
    subst h
    have hinside := cutAtLast?_eq_some hlast
    have hbody : '\x7d' ∉ body := fun hmem => hunclosed (by simp [hinside, hmem])
    have houter : '\x7d' ∉ outer := fun hmem => hunclosed (by simp [hinside, hmem])
    rw [hrest, hinside, List.append_assoc, List.append_assoc, List.append_assoc] at hopen
    exact ⟨⟨hbody, not_append_of_cutAtLast? openMark_ne_nil hlast⟩, isPlain_of_cutAt? hopen houter⟩

/-- A text with a closed expression has one that is resolved next. -/
theorem innermost?_text_ne_none (s : Span) : innermost? s.text ≠ none := by
  obtain ⟨before, rest, hopen, hle⟩ := Text.cutAt?_append openMark_ne_nil s.before
    (s.body ++ closeMark ++ s.after)
  have htext := Text.cutAt?_eq_some hopen
  -- The text is first opened in front of the span or with it, so `rest` has its closing mark.
  have hsuffix : s.body ++ closeMark ++ s.after <:+ rest := by
    have hlength := congrArg List.length htext
    simp only [List.length_append] at hlength
    refine List.suffix_of_suffix_length_le (List.suffix_append (s.before ++ openMark) _) ?_ ?_
    · rw [htext]
      exact List.suffix_append _ _
    · simp only [List.length_append]
      omega
  obtain ⟨front, hfront⟩ := hsuffix
  have hclose : Text.cutAt? closeMark rest ≠ none := by
    intro hnone
    have hne : closeMark ≠ [] := List.cons_ne_nil _ _
    exact (Text.cutAt?_eq_none_iff hne).1 hnone (front ++ s.body) s.after (by simp [← hfront])
  obtain ⟨parts, hparts⟩ := Option.ne_none_iff_exists'.1 hclose
  have hassoc : s.text = s.before ++ openMark ++ (s.body ++ closeMark ++ s.after) := by
    simp [Span.text]
  rw [hassoc]
  simp only [innermost?, hopen, hparts, Option.bind_eq_bind, Option.bind_some]
  split <;> exact Option.some_ne_none _

theorem innermost?_eq_none_iff {cs : List Char} : innermost? cs = none ↔ IsPlain cs := by
  constructor
  · rintro h s rfl
    exact innermost?_text_ne_none s h
  · intro h
    cases hnext : innermost? cs with
    | none => rfl
    | some s => exact absurd (innermost?_eq_some hnext) (h s)

/-- **The first flat span is resolved next.** -/
theorem innermost?_eq_some_iff {cs : List Char} {s : Span} :
    innermost? cs = some s ↔ s.text = cs ∧ s.IsFlat ∧ IsPlain s.before := by
  constructor
  · exact fun h => ⟨innermost?_eq_some h, isFlat_of_innermost? h⟩
  · rintro ⟨rfl, hflat, hplain⟩
    obtain ⟨t, ht⟩ := Option.ne_none_iff_exists'.1 (innermost?_text_ne_none s)
    obtain ⟨htflat, htplain⟩ := isFlat_of_innermost? ht
    obtain rfl | ⟨gap, hgap, -⟩ | ⟨gap, hgap, -⟩ :=
      hflat.trichotomy htflat (innermost?_eq_some ht).symm
    · exact ht
    · exact absurd hgap.symm (htplain ⟨s.before, s.body, gap⟩)
    · exact absurd hgap.symm (hplain ⟨t.before, t.body, gap⟩)

/-- What stands in front of a text leaves its expressions alone, if it completes none itself. -/
theorem innermost?_append {front cs : List Char} {s : Span} (h : innermost? cs = some s)
    (hplain : IsPlain (front ++ s.before)) :
    innermost? (front ++ cs) = some ⟨front ++ s.before, s.body, s.after⟩ := by
  obtain ⟨rfl, hflat, -⟩ := innermost?_eq_some_iff.1 h
  refine innermost?_eq_some_iff.2 ⟨?_, ⟨hflat.unclosed, hflat.unopened⟩, hplain⟩
  have hwithin := s.text_within front []
  rw [List.append_nil, List.append_nil] at hwithin
  exact hwithin

theorem length_after_of_innermost? {cs : List Char} {s : Span} (h : innermost? cs = some s) :
    s.after.length < cs.length := by
  rw [← innermost?_eq_some h, Span.text_eq]
  simp only [List.length_append, List.length_cons]
  omega

end Flowgraph.Template
