import Flowgraph.Proofs.Template.Frames
/-!
# Evaluating a template in one pass

The evaluator looks for an expression, writes its value into the text and starts over. As long as
every text that it writes is inert, that is, has a character and none that could be a part of a
mark, this comes to one pass over the text with a frame for each open expression
(`evaluate_eq_onePass`).

The invariant is the value that is read in one pass: one step of the evaluation does not change it
(`valueOfTokens_splice`), and at the end, where nothing is left to be closed, it is the text itself
(`valueOfTokens_of_isPlain`).
-/

namespace Flowgraph.Template

/-! ## One step of the evaluation -/

/-- Whether an expression is closed by the last piece does not depend on what stands in the place of
another one. -/
theorem closesAtEnd_splice {body text : List Char} (htext : text ≠ []) (front back : List Token)
    (depth : Nat) :
    closesAtEnd depth (front ++ flatTokens body ++ back) =
      closesAtEnd depth (front ++ text.map .plain ++ back) := by
  induction front generalizing depth with
  | nil =>
    rw [List.nil_append, List.nil_append, closesAtEnd_flatTokens, closesAtEnd_plain]
  | cons t front ih =>
    cases t with
    | opening => exact ih (depth + 1)
    | plain ch => exact ih depth
    | closing =>
      cases depth with
      | zero =>
        -- Something follows the mark in either text, so it is not the last one.
        change (front ++ flatTokens body ++ back).isEmpty =
          (front ++ text.map Token.plain ++ back).isEmpty
        rw [List.isEmpty_eq_false_iff.2 (by simp [flatTokens]),
          List.isEmpty_eq_false_iff.2 (by simp [htext])]
      | succ depth => exact ih depth

/-- A text with something around one of its expressions is one outermost expression if and only if
it is with a text in the place of that one. -/
theorem isOneSpan_splice {body text : List Char} (htext : text ≠ []) {front back : List Token}
    (haround : front ≠ [] ∨ back ≠ []) :
    isOneSpan (front ++ flatTokens body ++ back) =
      isOneSpan (front ++ text.map .plain ++ back) := by
  cases front with
  | nil =>
    obtain ⟨ch, rest, rfl⟩ := List.exists_cons_of_ne_nil htext
    have hback : back.isEmpty = false := by simpa using haround
    change closesAtEnd 0 (body.map .plain ++ [.closing] ++ back) = false
    rw [List.append_assoc, closesAtEnd_plain]
    exact hback
  | cons t front =>
    cases t with
    | opening => exact closesAtEnd_splice htext front back 0
    | plain ch => rfl
    | closing => rfl

/-- A frame is open around what stands behind the written text, and closed at the end, if that text
is inside the outermost expression. -/
theorem closesAtEnd_of_isOneSpan {c : Context} {text : List Char} (htext : text ≠ [])
    {front back : List Token} (h : isOneSpan (front ++ text.map .plain ++ back) = true) :
    ∃ depth, closesAtEnd depth back = true ∧ depth < (Reading.run c {} front).outer.length := by
  cases front with
  | nil =>
    obtain ⟨ch, rest, rfl⟩ := List.exists_cons_of_ne_nil htext
    cases h
  | cons t front =>
    cases t with
    | plain ch => cases h
    | closing => cases h
    | opening =>
      have hne : text.map Token.plain ++ back ≠ [] := by simp [htext]
      change closesAtEnd 0 (front ++ text.map Token.plain ++ back) = true at h
      rw [List.append_assoc] at h
      obtain ⟨depth, hclose, hdepth⟩ :=
        closesAtEnd_append (r := Reading.step c {} .opening) hne h Nat.zero_lt_one
      rw [closesAtEnd_plain] at hclose
      exact ⟨depth, hclose, hdepth⟩

/-- **One step of the evaluation keeps what is read in one pass.** -/
theorem valueOfTokens_splice {c : Context} {body : List Char} (htext : written c body ≠ [])
    {front back : List Token} (haround : front ≠ [] ∨ back ≠ []) :
    valueOfTokens c (front ++ flatTokens body ++ back) =
      valueOfTokens c (front ++ (written c body).map .plain ++ back) := by
  let r : Reading := ⟨(Reading.run c {} front).text ++ written c body,
    (Reading.run c {} front).outer, (Reading.run c {} front).value⟩
  -- The two readings go on behind the expression, where only the last value differs.
  have hflat : Reading.run c {} (front ++ flatTokens body ++ back) =
      Reading.run c { r with value := resolve c body } back := by
    rw [Reading.run_append, Reading.run_append, Reading.run_flatTokens]
  have hplain : Reading.run c {} (front ++ (written c body).map .plain ++ back) =
      Reading.run c r back := by
    rw [Reading.run_append, Reading.run_append, Reading.run_plain]
  rw [valueOfTokens, valueOfTokens, isOneSpan_splice htext haround, hflat, hplain]
  by_cases hspan : isOneSpan (front ++ (written c body).map .plain ++ back) = true
  · obtain ⟨depth, hclose, hdepth⟩ := closesAtEnd_of_isOneSpan (c := c) htext hspan
    rw [if_pos hspan, if_pos hspan, Reading.run_of_closesAtEnd (r := r) hclose hdepth]
  · obtain ⟨v, hv⟩ := Reading.run_value c r (resolve c body) back
    rw [if_neg hspan, if_neg hspan, hv]
    rfl

/-! ## The evaluation -/

/-- The texts that the evaluation of a text writes in the place of expressions. -/
def replacements (c : Context) : Nat → List Char → List (List Char)
  | budget, cs =>
    match innermost? cs with
    | none => []
    | some span =>
      if span.isWhole then []
      else
        match budget with
        | 0 => []
        | budget + 1 =>
          written c span.body :: replacements c budget (span.splice (written c span.body))

/-- Whether a text has a character, and none that could be a part of a mark. -/
structure IsInert (cs : List Char) : Prop where
  ne_nil : cs ≠ []
  not_dollar : '$' ∉ cs
  not_opening : '\x7b' ∉ cs
  not_closing : '\x7d' ∉ cs

instance (cs : List Char) : Decidable (IsInert cs) :=
  decidable_of_iff (cs ≠ [] ∧ '$' ∉ cs ∧ '\x7b' ∉ cs ∧ '\x7d' ∉ cs)
    ⟨fun ⟨h₁, h₂, h₃, h₄⟩ => ⟨h₁, h₂, h₃, h₄⟩, fun ⟨h₁, h₂, h₃, h₄⟩ => ⟨h₁, h₂, h₃, h₄⟩⟩

/-- The pieces of a text into which an inert text was written. -/
theorem tokens_splice {s : Span} {text : List Char} (h : IsInert text) :
    tokens (s.splice text) = tokens s.before ++ text.map .plain ++ tokens s.after := by
  have hopen (before after : List Char) : text ≠ before ++ openMark ++ after := by
    rintro rfl
    exact h.not_dollar (by simp [openMark])
  have hback : (text ++ s.after).head? ≠ some '\x7b' := by
    obtain ⟨ch, rest, rfl⟩ := List.exists_cons_of_ne_nil h.ne_nil
    rintro ⟨⟩
    exact h.not_opening List.mem_cons_self
  rw [Span.splice, List.append_assoc, tokens_append fun _ => hback,
    tokens_append fun hlast => absurd (List.mem_of_getLast? hlast) h.not_dollar,
    tokens_of_flat h.not_closing hopen, List.append_assoc]

/-- No opening mark of a text without a closed expression is followed by a closing one. -/
theorem closing_not_mem_of_isPlain {cs : List Char} (h : IsPlain cs) (front back : List Token)
    (hts : tokens cs = front ++ .opening :: back) : .closing ∉ back := by
  intro hmem
  obtain ⟨inside, after, rfl⟩ := List.append_of_mem hmem
  have htext := flatMap_text_tokens cs
  rw [hts] at htext
  refine h ⟨front.flatMap Token.text, inside.flatMap Token.text, after.flatMap Token.text⟩ ?_
  rw [← htext]
  simp [Span.text, Token.text]

/-- A text without a closed expression is read as it is. -/
theorem valueOfTokens_of_isPlain {c : Context} {cs : List Char} (h : IsPlain cs) :
    valueOfTokens c (tokens cs) = .text (String.ofList cs) := by
  have hspan : isOneSpan (tokens cs) = false := by
    unfold isOneSpan
    split
    · next back hts => exact closesAtEnd_of_not_mem (closing_not_mem_of_isPlain h [] back hts) 0
    · rfl
  have hread := Reading.literal_run (c := c) (r := {}) (closing_not_mem_of_isPlain h) fun _ => rfl
  rw [flatMap_text_tokens] at hread
  rw [valueOfTokens, hspan, hread]
  rfl

/-- An expression without marks inside is read as its value. -/
theorem valueOfTokens_flatTokens (c : Context) (body : List Char) :
    valueOfTokens c (flatTokens body) = resolve c body := by
  have hspan : isOneSpan (flatTokens body) = true := closesAtEnd_plain body 0 [.closing]
  rw [valueOfTokens, hspan, Reading.run_flatTokens]
  rfl

/-- An inert text in the place of an expression leaves fewer opening marks. -/
theorem count_splice_lt {s : Span} {text : List Char} (h : IsInert text) :
    (s.splice text).count '$' < s.text.count '$' := by
  have htext : text.count '$' = 0 := List.count_eq_zero.2 h.not_dollar
  rw [Span.splice, Span.text_eq]
  simp only [List.count_append, htext, List.count_cons_self]
  have hrest := List.count_le_count_cons (a := '$') (b := '\x7b') (l := s.body ++ '\x7d' :: s.after)
  simp only [List.count_append] at hrest
  have hclose := List.count_le_count_cons (a := '$') (b := '\x7d') (l := s.after)
  omega

/-- The pieces around an expression that is not the whole text. -/
theorem around_of_not_isWhole {s : Span} (h : s.isWhole = false) :
    tokens s.before ≠ [] ∨ tokens s.after ≠ [] := by
  have hempty (cs : List Char) (hcs : tokens cs = []) : cs = [] := by
    rw [← flatMap_text_tokens cs, hcs]
    rfl
  by_cases hbefore : tokens s.before = []
  · refine .inr fun hafter => ?_
    rw [Span.isWhole, hempty _ hbefore, hempty _ hafter] at h
    cases h
  · exact .inl hbefore

/-- The evaluation of a text, with a replacement to spare for each of its opening marks. -/
theorem expand_eq_valueOfTokens {c : Context} {cs : List Char} {budget : Nat}
    (hinert : ∀ text ∈ replacements c budget cs, IsInert text)
    (hbudget : cs.count '$' ≤ budget) : expand c budget cs = valueOfTokens c (tokens cs) := by
  -- The induction is on the budget: each replacement uses up an opening mark.
  induction budget generalizing cs with
  | zero =>
    have hplain : IsPlain cs := by
      rintro s rfl
      simp [Span.text_eq] at hbudget
    rw [expand, innermost?_eq_none_iff.2 hplain]
    exact (valueOfTokens_of_isPlain hplain).symm
  | succ budget ih =>
    cases hnext : innermost? cs with
    | none =>
      rw [expand, hnext]
      exact (valueOfTokens_of_isPlain (innermost?_eq_none_iff.1 hnext)).symm
    | some s =>
      obtain ⟨rfl, hflat, -⟩ := innermost?_eq_some_iff.1 hnext
      rw [expand, hnext, tokens_text hflat]
      cases hwhole : s.isWhole with
      | true =>
        obtain ⟨hbefore, hafter⟩ : s.before = [] ∧ s.after = [] := by
          simpa [Span.isWhole] using hwhole
        simp only [hwhole, if_true, hbefore, hafter, tokens, List.nil_append, List.append_nil]
        exact (valueOfTokens_flatTokens c s.body).symm
      | false =>
        rw [replacements, hnext] at hinert
        simp only [hwhole, Bool.false_eq_true, if_false] at hinert ⊢
        obtain ⟨htext, hrest⟩ := List.forall_mem_cons.1 hinert
        have hlt := count_splice_lt (s := s) htext
        calc expand c budget (s.splice (written c s.body))
          _ = valueOfTokens c (tokens (s.splice (written c s.body))) := ih hrest (by omega)
          _ = valueOfTokens c (tokens s.before ++ (written c s.body).map .plain ++
                tokens s.after) := by rw [tokens_splice htext]
          _ = valueOfTokens c (tokens s.before ++ flatTokens s.body ++ tokens s.after) :=
            (valueOfTokens_splice htext.ne_nil (around_of_not_isWhole hwhole)).symm

/-- **Evaluation is one pass** over the text, as long as every text that is written on the way is
inert. A text that is one outermost expression has the value of this expression, and every other one
has a text. -/
theorem evaluate_eq_onePass {c : Context} {s : String}
    (hinert : ∀ text ∈ replacements c (budgetOf s) s.toList, IsInert text) :
    evaluate c s = onePass c s ∧
      (isOneSpan (tokens s.toList) = true →
        ∃ body, Reading.run c {} (tokens s.toList) = ⟨written c body, [], resolve c body⟩ ∧
          evaluate c s = resolve c body) ∧
      (isOneSpan (tokens s.toList) = false → ∃ text, evaluate c s = .text text) := by
  have hvalue : evaluate c s = onePass c s :=
    expand_eq_valueOfTokens hinert (Nat.le_trans List.count_le_length (length_le_budgetOf s))
  refine ⟨hvalue, fun hspan => ?_, fun hspan => ?_⟩
  · obtain ⟨body, hbody⟩ := Reading.run_of_isOneSpan (c := c) hspan
    refine ⟨body, hbody, ?_⟩
    rw [hvalue, onePass, valueOfTokens, if_pos hspan, hbody]
  · rw [hvalue, onePass, valueOfTokens, hspan]
    exact ⟨_, rfl⟩

/-- A text with a closing mark, expressions beside and inside one another, and an opening mark. -/
def nested : String :=
  "\x7d $\x7bname\x7d$\x7benv.$\x7benv.key\x7d\x7d $\x7bname"

/-- The marks that are left over in the nested text stay where they are. -/
theorem nested_eq_onePass :
    (∀ text ∈ replacements (twoEntries "Ada" "key") (budgetOf nested) nested.toList,
        IsInert text) ∧
      evaluate (twoEntries "Ada" "key") nested = onePass (twoEntries "Ada" "key") nested ∧
      (evaluate (twoEntries "Ada" "key") nested).stringify = "\x7d Adakey $\x7bname" := by
  have hinert : ∀ text ∈ replacements (twoEntries "Ada" "key") (budgetOf nested) nested.toList,
      IsInert text := by decide +kernel
  exact ⟨hinert, (evaluate_eq_onePass hinert).1, by decide +kernel⟩

end Flowgraph.Template
