import Flowgraph.Proofs.Template.Span
/-!
# What a template evaluates to

The search for expressions starts over in the text that a value was written into, so what a value
brings along can complete an expression that nobody wrote (`spliced_text_is_read`). Where that does
not happen, evaluation is filling in values for the written expressions (`fill`), and the result
depends on the context through the values of the written expressions alone (`evaluate_congr`).

The proof follows the evaluation from left to right. A text on its way is what was filled in so far
followed by a written rest, and as long as the filled-in part completes no expression, the next
expression is one of the rest (`innermost?_append`).
-/

namespace Flowgraph.Template

/-- The text with a text written in place of each of its expressions. -/
def fill (value : List Char → List Char) (cs : List Char) : List Char :=
  match _h : innermost? cs with
  | none => cs
  | some s => s.before ++ value s.body ++ fill value s.after
termination_by cs.length
decreasing_by exact length_after_of_innermost? _h

/-- The text of the value of an expression. -/
def written (c : Context) (body : List Char) : List Char :=
  (resolve c body).stringify.toList

/-- Whether two contexts give the expressions that are written in a text the same values. -/
def Agree (c₁ c₂ : Context) (cs : List Char) : Prop :=
  ∀ s : Span, s.text = cs → s.IsFlat → resolve c₁ s.body = resolve c₂ s.body

/-- Whether filling in completes no expression: the filled text has none, or it is nothing but the
value of the last expression, which is not written into a text at all. -/
def Settles (value : List Char → List Char) (cs : List Char) : Prop :=
  IsPlain (fill value cs) ∨
    ∃ last : Span, last.text = cs ∧ last.IsFlat ∧ last.after = [] ∧ fill value last.before = []

variable {value : List Char → List Char} {cs : List Char} {s : Span}

theorem fill_of_none (h : innermost? cs = none) : fill value cs = cs := by
  rw [fill]
  split
  · rfl
  · next hs => rw [h] at hs; cases hs

theorem fill_of_some (h : innermost? cs = some s) :
    fill value cs = s.before ++ value s.body ++ fill value s.after := by
  rw [fill]
  split
  · next hs => rw [h] at hs; cases hs
  · next hs => rw [h] at hs; cases hs; rfl

theorem fill_nil : fill value [] = [] :=
  fill_of_none (innermost?_eq_none_iff.2 isPlain_nil)

/-- The expressions behind one expression are written in the whole text. -/
theorem Agree.after {c₁ c₂ : Context} (h : Agree c₁ c₂ cs) (hs : innermost? cs = some s) :
    Agree c₁ c₂ s.after := by
  intro t ht hflat
  refine h ⟨s.before ++ openMark ++ s.body ++ closeMark ++ t.before, t.body, t.after⟩ ?_
    ⟨hflat.unclosed, hflat.unopened⟩
  rw [← innermost?_eq_some hs]
  simp only [Span.text, List.append_assoc] at ht ⊢
  rw [ht]

theorem Agree.innermost {c₁ c₂ : Context} (h : Agree c₁ c₂ cs) (hs : innermost? cs = some s) :
    resolve c₁ s.body = resolve c₂ s.body := by
  obtain ⟨htext, hflat, -⟩ := innermost?_eq_some_iff.1 hs
  exact h s htext hflat

/-- What is filled in up to the next expression completes none. -/
theorem isPlain_of_fill {front : List Char} (hs : innermost? cs = some s)
    (hplain : IsPlain (front ++ fill value cs)) :
    IsPlain (front ++ s.before) ∧
      IsPlain (front ++ s.before ++ value s.body ++ fill value s.after) := by
  rw [fill_of_some hs, ← List.append_assoc, ← List.append_assoc] at hplain
  refine ⟨?_, hplain⟩
  rw [List.append_assoc] at hplain
  exact hplain.of_append.1

/-- One step of the evaluation of a text whose front completes no expression. -/
theorem expand_append {c : Context} {front : List Char} (hs : innermost? cs = some s)
    (hplain : IsPlain (front ++ s.before)) (budget : Nat) :
    expand c budget (front ++ cs) =
      if (front ++ s.before).isEmpty && s.after.isEmpty then resolve c s.body
      else
        match budget with
        | 0 => .text (String.ofList (front ++ cs))
        | budget + 1 => expand c budget (front ++ s.before ++ written c s.body ++ s.after) := by
  rw [expand, innermost?_append hs hplain]
  rfl

/-- Two evaluations of a text whose front is filled in already. -/
theorem expand_congr {c₁ c₂ : Context} {front : List Char} (hagree : Agree c₁ c₂ cs)
    (hplain : IsPlain (front ++ fill (written c₁) cs)) (budget : Nat) :
    expand c₁ budget (front ++ cs) = expand c₂ budget (front ++ cs) := by
  induction cs using fill.induct generalizing front budget with
  | case1 cs hs =>
    rw [fill_of_none hs] at hplain
    rw [expand, expand, innermost?_eq_none_iff.2 hplain]
  | case2 cs s hs ih =>
    obtain ⟨hfront, hplain⟩ := isPlain_of_fill hs hplain
    have hvalue := hagree.innermost hs
    rw [expand_append hs hfront, expand_append hs hfront, written, written, hvalue]
    split
    · rfl
    · cases budget with
      | zero => rfl
      | succ budget =>
        rw [written, hvalue] at hplain
        exact ih (hagree.after hs) hplain budget

theorem length_le_budgetOf (s : String) : s.toList.length ≤ budgetOf s := by
  have hbytes : ∀ cs : List Char, cs.length ≤ (String.ofList cs).utf8ByteSize := by
    intro cs
    induction cs with
    | nil => exact Nat.zero_le _
    | cons c cs ih =>
      have hpos := c.utf8Size_pos
      rw [String.ofList_cons, String.utf8ByteSize_append, String.utf8ByteSize_singleton,
        List.length_cons]
      omega
  have hs := hbytes s.toList
  rw [String.ofList_toList] at hs
  exact Nat.le_succ_of_le hs

/-- Two evaluations of a text that ends with an expression in front of which nothing is left. -/
theorem expand_congr_last {c₁ c₂ : Context} {before body : List Char}
    (hagree : Agree c₁ c₂ (Span.mk before body []).text) (hflat : (Span.mk before body []).IsFlat)
    (hbefore : fill (written c₁) before = []) (budget : Nat) :
    expand c₁ budget (Span.mk before body []).text =
      expand c₂ budget (Span.mk before body []).text := by
  induction before using fill.induct generalizing budget with
  | case1 before hs =>
    rw [fill_of_none hs] at hbefore
    subst hbefore
    have hnext : innermost? (Span.mk [] body []).text = some ⟨[], body, []⟩ :=
      innermost?_eq_some_iff.2 ⟨rfl, hflat, innermost?_eq_none_iff.1 hs⟩
    rw [expand, expand, hnext]
    exact hagree.innermost hnext
  | case2 before s hs ih =>
    obtain ⟨rfl, hsflat, hsplain⟩ := innermost?_eq_some_iff.1 hs
    rw [fill_of_some hs] at hbefore
    obtain ⟨hempty, hrest⟩ := List.append_eq_nil_iff.1 hbefore
    obtain ⟨hfront, hvalue⟩ := List.append_eq_nil_iff.1 hempty
    -- The next expression leaves no text, and the evaluation goes on behind it.
    have hnext : innermost? (Span.mk s.text body []).text =
        some ⟨s.before, s.body, (Span.mk s.after body []).text⟩ :=
      innermost?_eq_some_iff.2
        ⟨by simp [Span.text], ⟨hsflat.unclosed, hsflat.unopened⟩, hsplain⟩
    have hsame := hagree.innermost hnext
    have hsplice (c : Context) (h : written c s.body = []) :
        (Span.mk s.before s.body (Span.mk s.after body []).text).splice
          (resolve c s.body).stringify.toList = (Span.mk s.after body []).text := by
      rw [Span.splice, hfront, show (resolve c s.body).stringify.toList = [] from h]
      rfl
    have hopen : (Span.mk s.before s.body (Span.mk s.after body []).text).isWhole = false := by
      simp [Span.isWhole, Span.text, openMark]
    rw [expand, expand, hnext]
    simp only [hopen]
    cases budget with
    | zero => rfl
    | succ budget =>
      have hvalue₂ : written c₂ s.body = [] := by rw [written, ← hsame]; exact hvalue
      simp only [hsplice c₁ hvalue, hsplice c₂ hvalue₂]
      exact ih (hagree.after hnext) ⟨hflat.unclosed, hflat.unopened⟩ hrest budget

/-- **Values are not read as templates** where filling them in completes no expression: then two
contexts that give the written expressions the same values give the text the same value. -/
theorem evaluate_congr {c₁ c₂ : Context} {s : String} (hagree : Agree c₁ c₂ s.toList)
    (hsettles : Settles (written c₁) s.toList) : evaluate c₁ s = evaluate c₂ s := by
  obtain hplain | ⟨⟨before, body, after⟩, htext, hflat, hafter, hbefore⟩ := hsettles
  · have hfront : IsPlain ([] ++ fill (written c₁) s.toList) := hplain
    exact expand_congr hagree hfront (budgetOf s)
  · obtain rfl : after = [] := hafter
    rw [← htext] at hagree
    unfold evaluate
    rw [← htext]
    exact expand_congr_last hagree hflat hbefore (budgetOf s)

/-! ### A greeting and a value that reads the environment -/

/-- A context with two entries. -/
def twoEntries (name : String) (key : String) : Context where
  entries := [("name", .data (.text name)), ("env", .data (.map [("key", .text key)]))]

/-- The text `x ${name}`, which has one expression. -/
def greeting : Span := ⟨['x', ' '], ['n', 'a', 'm', 'e'], []⟩

theorem greeting_isFlat : greeting.IsFlat where
  unclosed := by decide
  unopened before after h := by
    have hcount := congrArg (List.count '$') h
    simp [greeting, openMark, List.count_append] at hcount

/-- The only expression of the greeting is the name. -/
theorem eq_greeting {s : Span} (h : s.text = greeting.text) (hflat : s.IsFlat) : s = greeting := by
  obtain h | ⟨gap, h, -⟩ | ⟨gap, -, h⟩ := hflat.trichotomy greeting_isFlat h
  · exact h
  · have hmem : '\x7d' ∈ greeting.before := by simp [h, closeMark]
    exact absurd hmem (by decide)
  · have hafter : greeting.after = [] := rfl
    simp [hafter, openMark] at h

theorem greeting_agree (name key key' : String) :
    Agree (twoEntries name key) (twoEntries name key') greeting.text := by
  intro s hs hflat
  obtain rfl := eq_greeting hs hflat
  rfl

/-- Under a plain name the greeting does not show the environment. -/
theorem greeting_congr :
    Agree (twoEntries "Ada" "one") (twoEntries "Ada" "two") (String.ofList greeting.text).toList ∧
      Settles (written (twoEntries "Ada" "one")) (String.ofList greeting.text).toList ∧
      evaluate (twoEntries "Ada" "one") (String.ofList greeting.text) =
        evaluate (twoEntries "Ada" "two") (String.ofList greeting.text) := by
  have hagree := greeting_agree "Ada" "one" "two"
  have hsettles : Settles (written (twoEntries "Ada" "one")) greeting.text := by
    have hnext : innermost? greeting.text = some greeting := rfl
    have hafter : greeting.after = [] := rfl
    refine .inl (innermost?_eq_none_iff.1 ?_)
    have hname : written (twoEntries "Ada" "one") greeting.body = ['A', 'd', 'a'] := by
      decide +kernel
    rw [fill_of_some hnext, hafter, fill_nil, hname]
    rfl
  rw [← String.toList_ofList (l := greeting.text)] at hagree hsettles
  exact ⟨hagree, hsettles, evaluate_congr hagree hsettles⟩

/-- **A value can be read as a template.** Without a word on what the values bring along, two
contexts that give every written expression of a text the same value need not give the text the
same value, even if no expression of it opens inside another. -/
theorem spliced_text_is_read :
    ¬∀ (c₁ c₂ : Context) (s : String),
      (∀ t : Span, t.text = s.toList → '\x7d' ∉ t.body → t.IsFlat) →
      Agree c₁ c₂ s.toList → evaluate c₁ s = evaluate c₂ s := by
  intro h
  have hflat (t : Span) (ht : t.text = greeting.text) (hunclosed : '\x7d' ∉ t.body) : t.IsFlat := by
    refine ⟨hunclosed, fun before after hbody => ?_⟩
    -- The text has one opening mark only.
    have hcount := congrArg (List.count '$') ht
    simp [Span.text, hbody, greeting, openMark, closeMark, List.count_append] at hcount
    omega
  have hsame := h (twoEntries "$\x7benv.key\x7d" "one") (twoEntries "$\x7benv.key\x7d" "two")
    (String.ofList greeting.text)
  rw [String.toList_ofList] at hsame
  have hvalues := hsame hflat (greeting_agree _ _ _)
  have hone : (evaluate (twoEntries "$\x7benv.key\x7d" "one")
      (String.ofList greeting.text)).stringify = "x one" := by decide +kernel
  have htwo : (evaluate (twoEntries "$\x7benv.key\x7d" "two")
      (String.ofList greeting.text)).stringify = "x two" := by decide +kernel
  rw [hvalues, htwo] at hone
  exact absurd hone (by decide)

end Flowgraph.Template
