import Flowgraph.Proofs.Template.OnePass
/-!
# Expressions that keep their type

A text that is one expression from end to end has the value of that expression, of whatever type,
and not its text. The evaluator asks for that of the text as it stands after the replacements so
far. So an expression also keeps its type when all that stands beside it is replaced by nothing
(`typed_beside_nothing`).

As long as what is written completes no mark (`Span.KeepsMarks`), there is no other way: a text
has the value of its last expression if that one ends the text and everything in front of it is
read as nothing (`RemainsAlone`), and a text otherwise. A text that does not begin and end like an
expression has a text, whatever is written into it (`typed_only_alone`).
-/

namespace Flowgraph.Template

deriving instance DecidableEq for Token

variable {c : Context}

/-! ## What is written into a text -/

/-- The expressions that the evaluation of a text replaces, in the texts where they stand. -/
def rewrites (c : Context) : Nat → List Char → List Span
  | budget, cs =>
    match innermost? cs with
    | none => []
    | some span =>
      if span.isWhole then []
      else
        match budget with
        | 0 => []
        | budget + 1 => span :: rewrites c budget (span.splice (written c span.body))

/-- Whether the value of an expression is written as characters only: it brings no mark, and
completes none with what stands around it. -/
def Span.KeepsMarks (c : Context) (s : Span) : Prop :=
  tokens (s.splice (written c s.body)) =
    tokens s.before ++ (written c s.body).map .plain ++ tokens s.after

instance (s : Span) : Decidable (s.KeepsMarks c) :=
  inferInstanceAs (Decidable (_ = _))

/-- Whether the last piece closes an outermost expression, in front of which nothing is read. -/
def RemainsAlone (c : Context) (ts : List Token) : Prop :=
  ts.getLast? = some .closing ∧ (Reading.run c {} ts.dropLast).outer = [[]]

instance (ts : List Token) : Decidable (RemainsAlone c ts) :=
  inferInstanceAs (Decidable (_ ∧ _))

theorem Reading.run_concat (r : Reading) (ts : List Token) (t : Token) :
    Reading.run c r (ts ++ [t]) = Reading.step c (Reading.run c r ts) t :=
  Reading.run_append c r ts [t]

theorem remainsAlone_concat {ts : List Token} {t : Token} :
    RemainsAlone c (ts ++ [t]) ↔ t = .closing ∧ (Reading.run c {} ts).outer = [[]] := by
  simp [RemainsAlone]

/-- The last piece of an expression that is closed at the end closes the outermost frame. -/
theorem exists_concat_of_closesAtEnd {ts : List Token} (text bottom : List Char)
    (inner : List (List Char)) (value : Value) (h : closesAtEnd inner.length ts = true) :
    ∃ front, ts = front ++ [.closing] ∧
      (Reading.run c ⟨text, inner ++ [bottom], value⟩ front).outer = [bottom] := by
  induction ts generalizing text inner value with
  | nil => cases h
  | cons t ts ih =>
    cases t with
    | opening =>
      obtain ⟨front, rfl, houter⟩ := ih [] (text :: inner) value h
      exact ⟨.opening :: front, rfl, houter⟩
    | plain ch =>
      obtain ⟨front, rfl, houter⟩ := ih (text ++ [ch]) inner value h
      exact ⟨.plain ch :: front, rfl, houter⟩
    | closing =>
      cases inner with
      | nil =>
        obtain rfl : ts = [] := List.isEmpty_iff.1 h
        exact ⟨[], rfl, rfl⟩
      | cons enclosing inner =>
        obtain ⟨front, rfl, houter⟩ :=
          ih (enclosing ++ written c text) inner (resolve c text) h
        exact ⟨.closing :: front, rfl, houter⟩

/-- One outermost expression that is the whole text is alone. -/
theorem remainsAlone_of_isOneSpan {ts : List Token} (h : isOneSpan ts = true) :
    RemainsAlone c ts := by
  unfold isOneSpan at h
  split at h
  · obtain ⟨front, rfl, houter⟩ := exists_concat_of_closesAtEnd (c := c) [] [] [] .null h
    rw [← List.cons_append, remainsAlone_concat]
    exact ⟨rfl, houter⟩
  · cases h

/-! ## Text that nothing is closed in -/

theorem outer_run_of_not_mem {ts : List Token} {r : Reading} (h : .opening ∉ ts)
    (hr : r.outer = []) : (Reading.run c r ts).outer = [] := by
  induction ts generalizing r with
  | nil => exact hr
  | cons t ts ih =>
    rw [List.mem_cons, not_or] at h
    refine ih h.2 ?_
    cases t with
    | opening => exact absurd rfl h.1
    | plain ch => exact hr
    | closing => simp only [Reading.step, hr]

section Plain

variable {cs : List Char} (h : IsPlain cs)
include h

theorem not_remainsAlone_of_isPlain : ¬RemainsAlone c (tokens cs) := by
  rintro ⟨hlast, houter⟩
  obtain ⟨ts, hts⟩ := List.getLast?_eq_some_iff.1 hlast
  have hopening : .opening ∉ ts := by
    intro hmem
    obtain ⟨before, after, rfl⟩ := List.append_of_mem hmem
    exact closing_not_mem_of_isPlain h before (after ++ [.closing]) (by simp [hts]) (by simp)
  rw [hts, List.dropLast_concat, outer_run_of_not_mem hopening rfl] at houter
  cases houter

theorem literal_run_of_isPlain : (Reading.run c {} (tokens cs)).literal = cs := by
  rw [Reading.literal_run (closing_not_mem_of_isPlain h) fun _ => rfl, flatMap_text_tokens]
  rfl

/-- Only the empty text is read as nothing. -/
theorem eq_nil_of_run_tokens (htext : (Reading.run c {} (tokens cs)).text = [])
    (houter : (Reading.run c {} (tokens cs)).outer = []) : cs = [] := by
  rw [← literal_run_of_isPlain (c := c) h, Reading.literal, houter, List.foldl_nil, htext]

end Plain

/-! ## One step of the evaluation -/

/-- The value of pieces, read in one pass: the value of the last expression if it remains alone, and
a text otherwise. -/
def valueAlone (c : Context) (ts : List Token) : Value :=
  if RemainsAlone c ts then (Reading.run c {} ts).value
  else .text (String.ofList (Reading.run c {} ts).literal)

/-- An expression inside a text and the text of its value read the same, but for the value. -/
theorem run_flatTokens_append (front : List Token) (body : List Char) (back : List Token) :
    ∃ v, Reading.run c {} (front ++ flatTokens body ++ back) =
      { Reading.run c {} (front ++ (written c body).map .plain ++ back) with value := v } := by
  rw [Reading.run_append, Reading.run_append, Reading.run_append, Reading.run_append,
    Reading.run_flatTokens, Reading.run_plain]
  exact Reading.run_value c ⟨_, _, (Reading.run c {} front).value⟩ (resolve c body) back

/-- **One step of the evaluation keeps what is read.** -/
theorem valueAlone_splice {cs body : List Char} (hplain : IsPlain cs) {back : List Token}
    (haround : cs ≠ [] ∨ back ≠ []) :
    valueAlone c (tokens cs ++ flatTokens body ++ back) =
      valueAlone c (tokens cs ++ (written c body).map .plain ++ back) := by
  obtain ⟨v, hread⟩ := run_flatTokens_append (c := c) (tokens cs) body back
  rcases List.eq_nil_or_concat back with rfl | ⟨back, t, rfl⟩
  · -- What stands in front of the expression is text, so neither it nor what replaces it is alone.
    have hne : cs ≠ [] := haround.resolve_right (not_not_intro rfl)
    have hflat : ¬RemainsAlone c (tokens cs ++ flatTokens body ++ []) := by
      rw [List.append_nil, flatTokens, ← List.append_assoc, remainsAlone_concat, Reading.run_append]
      rintro ⟨-, houter⟩
      change (Reading.run c (Reading.step c _ .opening) (body.map .plain)).outer = [[]] at houter
      rw [Reading.run_plain] at houter
      obtain ⟨htext, houter⟩ := List.cons.inj houter
      exact hne (eq_nil_of_run_tokens hplain htext houter)
    have htext : ¬RemainsAlone c (tokens cs ++ (written c body).map .plain ++ []) := by
      rw [List.append_nil]
      rcases List.eq_nil_or_concat (written c body) with hnone | ⟨text, ch, hsome⟩
      · rw [hnone, List.map_nil, List.append_nil]
        exact not_remainsAlone_of_isPlain hplain
      · rw [hsome, List.concat_eq_append, List.map_append, ← List.append_assoc]
        intro halone
        cases (remainsAlone_concat.1 halone).1
    rw [valueAlone, valueAlone, if_neg hflat, if_neg htext, hread]
    rfl
  · obtain ⟨v', hfront⟩ := run_flatTokens_append (c := c) (tokens cs) body back
    rw [List.concat_eq_append, ← List.append_assoc, ← List.append_assoc] at hread ⊢
    have hiff : RemainsAlone c (tokens cs ++ flatTokens body ++ back ++ [t]) ↔
        RemainsAlone c (tokens cs ++ (written c body).map .plain ++ back ++ [t]) := by
      rw [remainsAlone_concat, remainsAlone_concat, hfront]
    by_cases halone : RemainsAlone c (tokens cs ++ (written c body).map .plain ++ back ++ [t])
    · rw [valueAlone, valueAlone, if_pos (hiff.2 halone), if_pos halone, Reading.run_concat,
        Reading.run_concat, hfront]
      -- The last piece closes a frame, so the value is that of its text.
      obtain ⟨rfl, houter⟩ := remainsAlone_concat.1 halone
      simp only [Reading.step, houter]
    · rw [valueAlone, valueAlone, if_neg (mt hiff.1 halone), if_neg halone, hread]
      rfl

/-! ## The evaluation -/

/-- A replacement that keeps the marks leaves one opening mark less. -/
theorem count_opening_splice {s : Span} (hflat : s.IsFlat) (hkeeps : s.KeepsMarks c) :
    (tokens (s.splice (written c s.body))).count .opening + 1 = (tokens s.text).count .opening := by
  have hplain (cs : List Char) : (cs.map Token.plain).count .opening = 0 :=
    List.count_eq_zero.2 (by simp)
  rw [hkeeps, tokens_text hflat, flatTokens]
  simp only [List.count_append, hplain, List.count_cons, List.count_nil]
  simp
  omega

theorem length_tokens_le (cs : List Char) : (tokens cs).length ≤ cs.length := by
  induction cs using tokens.induct with
  | case1 cs ih =>
    rw [tokens, List.length_cons, List.length_cons, List.length_cons]
    omega
  | case2 cs ih =>
    rw [tokens, List.length_cons, List.length_cons]
    omega
  | case3 ch cs hopen hclose ih =>
    rw [tokens.eq_3 ch cs hopen hclose, List.length_cons, List.length_cons]
    omega
  | case4 => exact Nat.le_refl _

/-- The evaluation of a text, with a replacement to spare for each of its opening marks. -/
theorem expand_eq_valueAlone {cs : List Char} {budget : Nat}
    (hkeeps : ∀ s ∈ rewrites c budget cs, s.KeepsMarks c)
    (hbudget : (tokens cs).count .opening ≤ budget) :
    expand c budget cs = valueAlone c (tokens cs) := by
  have hplain (cs : List Char) (h : IsPlain cs) :
      valueAlone c (tokens cs) = .text (String.ofList cs) := by
    rw [valueAlone, if_neg (not_remainsAlone_of_isPlain h), literal_run_of_isPlain h]
  -- Each replacement uses up an opening mark of the budget.
  fun_induction expand c budget cs with
  | case1 budget cs hnext => exact (hplain cs (innermost?_eq_none_iff.1 hnext)).symm
  | case2 budget cs s hnext resolved hwhole =>
    obtain ⟨rfl, hflat, -⟩ := innermost?_eq_some_iff.1 hnext
    obtain ⟨hfront, hafter⟩ : s.before = [] ∧ s.after = [] := by
      simpa [Span.isWhole] using hwhole
    have hspan : isOneSpan (flatTokens s.body) = true := closesAtEnd_plain s.body 0 [.closing]
    rw [tokens_text hflat, hfront, hafter, tokens, List.nil_append, List.append_nil, valueAlone,
      if_pos (remainsAlone_of_isOneSpan hspan), Reading.run_flatTokens]
  | case3 cs s hnext hwhole =>
    obtain ⟨rfl, hflat, -⟩ := innermost?_eq_some_iff.1 hnext
    simp [tokens_text hflat, flatTokens] at hbudget
  | case4 cs s hnext resolved hwhole budget ih =>
    obtain ⟨rfl, hflat, hbefore⟩ := innermost?_eq_some_iff.1 hnext
    rw [rewrites, hnext] at hkeeps
    simp only [hwhole, Bool.false_eq_true, if_false] at hkeeps
    obtain ⟨hspan, hrest⟩ := List.forall_mem_cons.1 hkeeps
    have hcount : (tokens (s.splice resolved.stringify.toList)).count .opening + 1 =
        (tokens s.text).count .opening := count_opening_splice hflat hspan
    have haround : s.before ≠ [] ∨ tokens s.after ≠ [] := by
      refine (around_of_not_isWhole (Bool.eq_false_iff.2 hwhole)).imp_left fun hne hnil => hne ?_
      rw [hnil]
      rfl
    calc expand c budget (s.splice (written c s.body))
      _ = valueAlone c (tokens (s.splice (written c s.body))) := ih hrest (by omega)
      _ = valueAlone c (tokens s.before ++ (written c s.body).map .plain ++ tokens s.after) := by
        rw [hspan]
      _ = valueAlone c (tokens s.before ++ flatTokens s.body ++ tokens s.after) :=
        (valueAlone_splice hbefore haround).symm
      _ = valueAlone c (tokens s.text) := by rw [tokens_text hflat]

/-- A text has a text if no replacement makes it one expression. -/
theorem exists_expand_eq_text (keeps : List Char → Prop)
    (hwhole : ∀ s : Span, keeps s.text → s.isWhole = false)
    (hsplice : ∀ (s : Span) (text : List Char), keeps s.text → keeps (s.splice text))
    (budget : Nat) {cs : List Char} (h : keeps cs) : ∃ text, expand c budget cs = .text text := by
  fun_induction expand c budget cs with
  | case1 budget cs hnext => exact ⟨_, rfl⟩
  | case2 budget cs s hnext resolved hw =>
    obtain rfl := innermost?_eq_some hnext
    exact absurd hw (Bool.eq_false_iff.1 (hwhole s h))
  | case3 cs s hnext hw => exact ⟨_, rfl⟩
  | case4 cs s hnext resolved hw budget ih =>
    obtain rfl := innermost?_eq_some hnext
    exact ih (hsplice s _ h)

/-- A text that does not begin like an expression keeps its beginning. -/
theorem exists_expand_eq_text_of_head? (budget : Nat) {cs : List Char} (h : cs.head? ≠ some '$') :
    ∃ text, expand c budget cs = .text text := by
  have hbefore (s : Span) (hs : s.text.head? ≠ some '$') : s.before ≠ [] := by
    intro hnil
    rw [Span.text_eq, hnil] at hs
    exact hs rfl
  refine exists_expand_eq_text (·.head? ≠ some '$') (fun s hs => ?_) (fun s text hs => ?_) budget h
  · rw [Span.isWhole, List.isEmpty_eq_false_iff.2 (hbefore s hs), Bool.false_and]
  · obtain ⟨ch, before, hcons⟩ := List.exists_cons_of_ne_nil (hbefore s hs)
    rw [Span.text_eq, hcons] at hs
    rwa [Span.splice, hcons]

/-- A text that does not end like an expression keeps its end. -/
theorem exists_expand_eq_text_of_getLast? (budget : Nat) {cs : List Char}
    (h : cs.getLast? ≠ some '\x7d') : ∃ text, expand c budget cs = .text text := by
  have hafter (s : Span) (hs : s.text.getLast? ≠ some '\x7d') : s.after ≠ [] := by
    intro hnil
    rw [Span.text, hnil, List.append_nil, closeMark, List.getLast?_concat] at hs
    exact hs rfl
  refine exists_expand_eq_text (·.getLast? ≠ some '\x7d') (fun s hs => ?_) (fun s text hs => ?_)
    budget h
  · rw [Span.isWhole, List.isEmpty_eq_false_iff.2 (hafter s hs), Bool.and_false]
  · have hlast (front : List Char) : (front ++ s.after).getLast? = s.after.getLast? := by
      rw [List.getLast?_append, Option.or_of_isSome (by simpa using hafter s hs)]
    rw [Span.text, hlast] at hs
    rwa [Span.splice, hlast]

/-- **Which texts keep a type.** A text that is one outermost expression is alone, and a text that
does not both begin and end like an expression has a text, whatever is written into it. Where no
value that is written brings or completes a mark, a text has the value of its last expression if
that one remains alone, and a text otherwise. -/
theorem typed_only_alone (c : Context) (s : String) :
    (isOneSpan (tokens s.toList) = true → RemainsAlone c (tokens s.toList)) ∧
    (s.toList.head? ≠ some '$' ∨ s.toList.getLast? ≠ some '\x7d' →
      ∃ text, evaluate c s = .text text) ∧
    ((∀ span ∈ rewrites c (budgetOf s) s.toList, span.KeepsMarks c) →
      (RemainsAlone c (tokens s.toList) →
        evaluate c s = (Reading.run c {} (tokens s.toList)).value) ∧
      (¬RemainsAlone c (tokens s.toList) → ∃ text, evaluate c s = .text text)) := by
  refine ⟨remainsAlone_of_isOneSpan, fun h => ?_, fun hkeeps => ?_⟩
  · rcases h with hhead | hlast
    · exact exists_expand_eq_text_of_head? (budgetOf s) hhead
    · exact exists_expand_eq_text_of_getLast? (budgetOf s) hlast
  · have hbudget : (tokens s.toList).count .opening ≤ budgetOf s :=
      calc (tokens s.toList).count .opening
        _ ≤ (tokens s.toList).length := List.count_le_length
        _ ≤ s.toList.length := length_tokens_le s.toList
        _ ≤ budgetOf s := length_le_budgetOf s
    have hvalue : evaluate c s = valueAlone c (tokens s.toList) :=
      expand_eq_valueAlone hkeeps hbudget
    rw [hvalue, valueAlone]
    exact ⟨fun halone => if_pos halone, fun halone => ⟨_, if_neg halone⟩⟩

/-- A context with an empty text and a number. -/
def emptyAndNumber : Context :=
  .ofFields [("none", .text ""), ("count", .int 3)]

/-- The number keeps its type behind an empty text, and not in front of one. -/
theorem typed_only_alone_emptyAndNumber :
    RemainsAlone emptyAndNumber (tokens "$\x7bnone\x7d$\x7bcount\x7d".toList) ∧
      evaluate emptyAndNumber "$\x7bnone\x7d$\x7bcount\x7d" =
        (Reading.run emptyAndNumber {} (tokens "$\x7bnone\x7d$\x7bcount\x7d".toList)).value ∧
      ∃ text, evaluate emptyAndNumber "$\x7bcount\x7d$\x7bnone\x7d" = .text text := by
  have halone : RemainsAlone emptyAndNumber (tokens "$\x7bnone\x7d$\x7bcount\x7d".toList) := by
    decide +kernel
  have hbehind := (typed_only_alone emptyAndNumber "$\x7bnone\x7d$\x7bcount\x7d").2.2
    (by decide +kernel)
  have hinFront := (typed_only_alone emptyAndNumber "$\x7bcount\x7d$\x7bnone\x7d").2.2
    (by decide +kernel)
  exact ⟨halone, hbehind.1 halone, hinFront.2 (by decide +kernel)⟩

/-- **An expression beside others may keep its type**: a text of two expressions, of which the
first is replaced by nothing, has the number that the second one stands for. -/
theorem typed_beside_nothing :
    ¬∀ (c : Context) (s : String), isOneSpan (tokens s.toList) = false →
      ∃ text, evaluate c s = .text text := by
  intro htext
  obtain ⟨text, htext⟩ := htext emptyAndNumber "$\x7bnone\x7d$\x7bcount\x7d" (by decide)
  have hnumber : (evaluate emptyAndNumber "$\x7bnone\x7d$\x7bcount\x7d").isNumber = true := by
    decide +kernel
  rw [htext] at hnumber
  cases hnumber

end Flowgraph.Template
