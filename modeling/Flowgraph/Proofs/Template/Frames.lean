import Flowgraph.Proofs.Template.Filling
/-!
# Reading a template in frames

A text is a sequence of marks and characters (`tokens`). Read once from left to right, an opening
mark begins a frame, and a closing one ends the innermost open frame, whose text is resolved and
whose value is written at the end of the enclosing one (`Reading.step`). A closing mark without an
open frame is a character like any other, and a frame that is still open at the end was only text.

The value of a text read like this (`onePass`) is the value of its outermost expression where there
is nothing else (`Reading.run_of_isOneSpan`), and the text that was read everywhere else.
-/

namespace Flowgraph.Template

/-! ## Marks and characters -/

/-- One piece of a text: a mark or a character that is no part of one. -/
inductive Token where
  | opening
  | closing
  | plain (c : Char)

/-- The text of a piece. -/
def Token.text : Token → List Char
  | opening => openMark
  | closing => closeMark
  | plain c => [c]

/-- The pieces of a text from left to right. -/
def tokens : List Char → List Token
  | '$' :: '\x7b' :: cs => .opening :: tokens cs
  | '\x7d' :: cs => .closing :: tokens cs
  | c :: cs => .plain c :: tokens cs
  | [] => []

theorem tokens_openMark (cs : List Char) : tokens (openMark ++ cs) = .opening :: tokens cs := rfl

theorem tokens_closeMark (cs : List Char) : tokens (closeMark ++ cs) = .closing :: tokens cs := by
  simp [closeMark, tokens]

theorem tokens_cons {c : Char} {cs : List Char} (hclose : c ≠ '\x7d')
    (hopen : c = '$' → cs.head? ≠ some '\x7b') : tokens (c :: cs) = .plain c :: tokens cs := by
  rw [tokens.eq_3]
  · rintro rest rfl rfl
    exact hopen rfl rfl
  · exact hclose

/-- The pieces make up the text. -/
theorem flatMap_text_tokens (cs : List Char) : (tokens cs).flatMap Token.text = cs := by
  induction cs using tokens.induct with
  | case1 cs ih => simp [tokens, Token.text, openMark, ih]
  | case2 cs ih => simp [tokens, Token.text, closeMark, ih]
  | case3 c cs hopen hclose ih =>
    rw [tokens.eq_3 c cs hopen hclose, List.flatMap_cons, ih]
    rfl
  | case4 => rfl

/-- A text is cut into pieces part by part, if no opening mark lies across the cut. -/
theorem tokens_append {front back : List Char}
    (h : front.getLast? = some '$' → back.head? ≠ some '\x7b') :
    tokens (front ++ back) = tokens front ++ tokens back := by
  induction front using tokens.induct with
  | case1 cs ih =>
    have hcs : cs.getLast? = some '$' → back.head? ≠ some '\x7b' := fun hlast =>
      h (by cases cs <;> simp_all)
    exact congrArg (Token.opening :: ·) (ih hcs)
  | case2 cs ih =>
    have hcs : cs.getLast? = some '$' → back.head? ≠ some '\x7b' := fun hlast =>
      h (by cases cs <;> simp_all)
    rw [List.cons_append, tokens, tokens, ih hcs, List.cons_append]
  | case3 c cs hopen hclose ih =>
    rw [tokens.eq_3 c cs hopen hclose, List.cons_append, List.cons_append]
    rw [tokens_cons hclose]
    · cases cs with
      | nil => rfl
      | cons d ds => rw [ih (by simpa using h)]
    · rintro rfl
      cases cs with
      | nil => exact h rfl
      | cons d ds =>
        intro hhead
        cases hhead
        exact hopen ds rfl rfl
  | case4 => rfl

/-- A text without marks is characters only. -/
theorem tokens_of_flat {cs : List Char} (hclose : '\x7d' ∉ cs)
    (hopen : ∀ before after, cs ≠ before ++ openMark ++ after) : tokens cs = cs.map .plain := by
  induction cs with
  | nil => rfl
  | cons c cs ih =>
    rw [List.mem_cons, not_or] at hclose
    rw [tokens_cons (Ne.symm hclose.1), List.map_cons, ih hclose.2]
    · intro before after hcs
      exact hopen (c :: before) after (by rw [hcs]; rfl)
    · rintro rfl hhead
      obtain ⟨rest, rfl⟩ := List.head?_eq_some_iff.1 hhead
      exact hopen [] rest rfl

/-- The pieces of an expression without marks inside. -/
def flatTokens (body : List Char) : List Token :=
  .opening :: body.map .plain ++ [.closing]

/-- The pieces around an expression without marks inside. -/
theorem tokens_text {s : Span} (h : s.IsFlat) :
    tokens s.text = tokens s.before ++ flatTokens s.body ++ tokens s.after := by
  have hbefore : s.text = s.before ++ (openMark ++ (s.body ++ (closeMark ++ s.after))) := by
    simp [Span.text]
  have hbody : tokens (s.body ++ (closeMark ++ s.after)) =
      s.body.map .plain ++ .closing :: tokens s.after := by
    rw [tokens_append fun _ => by simp [closeMark], tokens_closeMark,
      tokens_of_flat h.unclosed h.unopened]
  rw [hbefore, tokens_append fun _ => by simp [openMark], tokens_openMark, hbody]
  simp [flatTokens]

/-! ## Reading once -/

/-- What one pass has read: the text of the innermost open frame, the texts of the frames around
it from the inside out, and the value of the expression that was closed last. -/
structure Reading where
  text : List Char := []
  outer : List (List Char) := []
  value : Value := .null

namespace Reading

/-- Reads one piece. A closing mark without an open frame is a character like any other. -/
def step (c : Context) (r : Reading) : Token → Reading
  | .opening => ⟨[], r.text :: r.outer, r.value⟩
  | .plain ch => { r with text := r.text ++ [ch] }
  | .closing =>
    match r.outer with
    | [] => { r with text := r.text ++ closeMark }
    | enclosing :: outer => ⟨enclosing ++ written c r.text, outer, resolve c r.text⟩

/-- Reads pieces from left to right. -/
def run (c : Context) (r : Reading) (ts : List Token) : Reading :=
  ts.foldl (step c) r

/-- All that was read, with the marks of the open frames as text. -/
def literal (r : Reading) : List Char :=
  r.outer.foldl (fun inner enclosing => enclosing ++ openMark ++ inner) r.text

end Reading

/-- Whether an expression with `depth` others open inside is closed by the last piece. -/
def closesAtEnd : Nat → List Token → Bool
  | _, [] => false
  | depth, .opening :: ts => closesAtEnd (depth + 1) ts
  | 0, .closing :: ts => ts.isEmpty
  | depth + 1, .closing :: ts => closesAtEnd depth ts
  | depth, .plain _ :: ts => closesAtEnd depth ts

/-- Whether one outermost expression is the whole text. -/
def isOneSpan : List Token → Bool
  | .opening :: ts => closesAtEnd 0 ts
  | _ => false

/-- The value of pieces, read in one pass: the value of the outermost expression where it is all
there is, and a text otherwise. -/
def valueOfTokens (c : Context) (ts : List Token) : Value :=
  if isOneSpan ts then (Reading.run c {} ts).value
  else .text (String.ofList (Reading.run c {} ts).literal)

/-- The value of a text, read in one pass. -/
def onePass (c : Context) (s : String) : Value :=
  valueOfTokens c (tokens s.toList)

/-! ## What is read of some pieces -/

namespace Reading

theorem run_append (c : Context) (r : Reading) (ts us : List Token) :
    run c r (ts ++ us) = run c (run c r ts) us :=
  List.foldl_append

theorem run_plain (c : Context) (r : Reading) (cs : List Char) :
    run c r (cs.map .plain) = { r with text := r.text ++ cs } := by
  induction cs generalizing r with
  | nil => simp [run]
  | cons ch cs ih =>
    change run c (step c r (.plain ch)) (cs.map .plain) = _
    rw [ih]
    simp [step]

/-- An expression without marks inside is read as its value. -/
theorem run_flatTokens (c : Context) (r : Reading) (body : List Char) :
    run c r (flatTokens body) = ⟨r.text ++ written c body, r.outer, resolve c body⟩ := by
  rw [flatTokens, run_append]
  change run c (run c (step c r .opening) (body.map .plain)) [.closing] = _
  rw [run_plain]
  rfl

theorem literal_text_append (text suffix : List Char) (outer : List (List Char)) (v : Value) :
    literal ⟨text ++ suffix, outer, v⟩ = literal ⟨text, outer, v⟩ ++ suffix := by
  unfold literal
  induction outer generalizing text with
  | nil => rfl
  | cons enclosing outer ih =>
    rw [List.foldl_cons, List.foldl_cons, ← List.append_assoc]
    exact ih (enclosing ++ openMark ++ text)

/-- A piece that closes no frame is read as its text. -/
theorem literal_step {c : Context} {r : Reading} {t : Token} (h : t = .closing → r.outer = []) :
    (step c r t).literal = r.literal ++ t.text := by
  cases t with
  | opening =>
    change literal ⟨r.text ++ openMark ++ [], r.outer, r.value⟩ = _
    rw [List.append_nil]
    exact literal_text_append r.text openMark r.outer r.value
  | plain ch => exact literal_text_append r.text [ch] r.outer r.value
  | closing =>
    have hstep : step c r .closing = ⟨r.text ++ closeMark, r.outer, r.value⟩ := by
      simp only [step, h rfl]
    rw [hstep]
    exact literal_text_append r.text closeMark r.outer r.value

/-- Pieces of which no closing mark comes behind an opening one are all text. -/
theorem literal_run {c : Context} {ts : List Token} {r : Reading}
    (hts : ∀ front back, ts = front ++ .opening :: back → .closing ∉ back)
    (hr : .closing ∈ ts → r.outer = []) :
    (run c r ts).literal = r.literal ++ ts.flatMap Token.text := by
  induction ts generalizing r with
  | nil => simp [run]
  | cons t ts ih =>
    have hstep := literal_step (c := c) (r := r) (t := t) fun h => hr (by simp [h])
    have hrest : ∀ front back, ts = front ++ .opening :: back → .closing ∉ back :=
      fun front back h => hts (t :: front) back (by rw [h]; rfl)
    have hopen : .closing ∈ ts → (step c r t).outer = [] := by
      intro hmem
      have hnone := hr (List.mem_cons_of_mem _ hmem)
      cases t with
      | opening => exact absurd hmem (hts [] ts rfl)
      | plain ch => exact hnone
      | closing => simp only [step, hnone]
    change (run c (step c r t) ts).literal = _
    rw [ih hrest hopen, hstep, List.flatMap_cons, List.append_assoc]

/-- The value that was read before does not matter to the frames. -/
theorem run_value (c : Context) (r : Reading) (v : Value) (ts : List Token) :
    ∃ v', run c { r with value := v } ts = { run c r ts with value := v' } := by
  induction ts generalizing r v with
  | nil => exact ⟨v, rfl⟩
  | cons t ts ih =>
    cases t with
    | opening => exact ih (step c r .opening) v
    | plain ch => exact ih (step c r (.plain ch)) v
    | closing =>
      obtain ⟨text, outer, value⟩ := r
      cases outer with
      | nil => exact ih ⟨text ++ closeMark, [], value⟩ v
      | cons enclosing outer => exact ⟨_, rfl⟩

/-- The value that was read before does not matter to an expression that is still to be closed. -/
theorem run_of_closesAtEnd {c : Context} {ts : List Token} {r : Reading} {depth : Nat}
    (h : closesAtEnd depth ts = true) (hdepth : depth < r.outer.length) (v : Value) :
    run c { r with value := v } ts = run c r ts := by
  induction ts generalizing r depth with
  | nil => cases h
  | cons t ts ih =>
    cases t with
    | opening => exact ih (r := step c r .opening) h (Nat.succ_lt_succ hdepth)
    | plain ch => exact ih (r := step c r (.plain ch)) h hdepth
    | closing =>
      obtain ⟨enclosing, outer, houter⟩ : ∃ enclosing outer, r.outer = enclosing :: outer :=
        List.exists_cons_of_length_pos (Nat.zero_lt_of_lt hdepth)
      -- The mark closes an open frame, and with it comes a value of its own.
      change run c (step c { r with value := v } .closing) ts = run c (step c r .closing) ts
      simp only [step, houter]

/-- An expression that is closed by the last piece ends all frames but the outermost one, to which
its value is written. -/
theorem run_eq_of_closesAtEnd {c : Context} {ts : List Token} (text bottom : List Char)
    (inner : List (List Char)) (value : Value) (h : closesAtEnd inner.length ts = true) :
    ∃ body, run c ⟨text, inner ++ [bottom], value⟩ ts =
      ⟨bottom ++ written c body, [], resolve c body⟩ := by
  induction ts generalizing text inner value with
  | nil => cases h
  | cons t ts ih =>
    cases t with
    | opening => exact ih [] (text :: inner) value h
    | plain ch => exact ih (text ++ [ch]) inner value h
    | closing =>
      cases inner with
      | nil =>
        obtain rfl : ts = [] := List.isEmpty_iff.1 h
        exact ⟨text, rfl⟩
      | cons enclosing inner => exact ih (enclosing ++ written c text) inner (resolve c text) h

/-- A text that is one outermost expression is read as the value of this expression alone. -/
theorem run_of_isOneSpan {c : Context} {ts : List Token} (h : isOneSpan ts = true) :
    ∃ body, run c {} ts = ⟨written c body, [], resolve c body⟩ := by
  unfold isOneSpan at h
  split at h
  · exact run_eq_of_closesAtEnd [] [] [] .null h
  · cases h

end Reading

/-! ## Where expressions are closed -/

theorem closesAtEnd_plain (cs : List Char) (depth : Nat) (ts : List Token) :
    closesAtEnd depth (cs.map .plain ++ ts) = closesAtEnd depth ts := by
  induction cs with
  | nil => rfl
  | cons ch cs ih => exact ih

theorem closesAtEnd_of_not_mem {ts : List Token} (h : .closing ∉ ts) (depth : Nat) :
    closesAtEnd depth ts = false := by
  induction ts generalizing depth with
  | nil => rfl
  | cons t ts ih =>
    have hrest := fun hmem => h (List.mem_cons_of_mem t hmem)
    cases t with
    | opening => exact ih hrest (depth + 1)
    | plain ch => exact ih hrest depth
    | closing => exact absurd List.mem_cons_self h

theorem closesAtEnd_flatTokens (body : List Char) (depth : Nat) (ts : List Token) :
    closesAtEnd depth (flatTokens body ++ ts) = closesAtEnd depth ts := by
  rw [flatTokens, List.append_assoc]
  exact closesAtEnd_plain body (depth + 1) ([.closing] ++ ts)

/-- A frame is open around what follows the beginning of an expression that is closed at the
end. -/
theorem closesAtEnd_append {c : Context} {front back : List Token} {r : Reading} {depth : Nat}
    (hback : back ≠ []) (h : closesAtEnd depth (front ++ back) = true)
    (hdepth : depth < r.outer.length) :
    ∃ depth', closesAtEnd depth' back = true ∧ depth' < (Reading.run c r front).outer.length := by
  induction front generalizing r depth with
  | nil => exact ⟨depth, h, hdepth⟩
  | cons t front ih =>
    cases t with
    | opening => exact ih (r := r.step c .opening) h (Nat.succ_lt_succ hdepth)
    | plain ch => exact ih (r := r.step c (.plain ch)) h hdepth
    | closing =>
      obtain ⟨enclosing, outer, houter⟩ : ∃ enclosing outer, r.outer = enclosing :: outer :=
        List.exists_cons_of_length_pos (Nat.zero_lt_of_lt hdepth)
      cases depth with
      | zero => simp [closesAtEnd, hback] at h
      | succ depth =>
        refine ih (r := r.step c .closing) h ?_
        rw [houter, List.length_cons] at hdepth
        simp only [Reading.step, houter]
        omega

end Flowgraph.Template
