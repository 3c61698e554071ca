import Flowgraph.Proofs.Template.Span
/-!
# The loop that evaluates a template

The evaluation of a text as a loop over a working text and an offset into it. A turn of the loop
(`Cursor.turn`) looks for the next opening mark behind the offset, and for the first closing mark
behind that one. With another opening mark in between, it goes on from the last such mark; otherwise
it resolves what stands between the marks, writes the value into the text and goes back to its
beginning, or ends.

Offsets count bytes, and a turn is `none` where a text would be sliced outside its bounds or inside
a character. That never happens, and the loop ends with the value of the text
(`Cursor.ends_evaluate`). A replacement uses up the budget and a move does not, but no move follows
another one: behind the last opening mark there is none (`turn_of_innermost?`).
-/

namespace Flowgraph.Template

/-! ## Slices by bytes -/

/-- The length of a text in bytes. -/
def byteLength (cs : List Char) : Nat :=
  (String.ofList cs).utf8ByteSize

@[simp] theorem byteLength_nil : byteLength [] = 0 := rfl

@[simp] theorem byteLength_cons (ch : Char) (cs : List Char) :
    byteLength (ch :: cs) = ch.utf8Size + byteLength cs := by
  rw [byteLength, String.ofList_cons, String.utf8ByteSize_append, String.utf8ByteSize_singleton,
    byteLength]

@[simp] theorem byteLength_append (front back : List Char) :
    byteLength (front ++ back) = byteLength front + byteLength back := by
  rw [byteLength, String.ofList_append, String.utf8ByteSize_append, byteLength, byteLength]

theorem byteLength_eq_zero_iff {cs : List Char} : byteLength cs = 0 ↔ cs = [] := by
  cases cs with
  | nil => simp
  | cons ch cs =>
    have hpos := ch.utf8Size_pos
    simp only [byteLength_cons, reduceCtorEq, iff_false]
    omega

/-- The text before and behind a byte offset; `none` when the offset is outside the text or inside a
character. -/
def splitAtByte? : Nat → List Char → Option (List Char × List Char)
  | 0, cs => some ([], cs)
  | _ + 1, [] => none
  | offset + 1, ch :: cs =>
    if ch.utf8Size ≤ offset + 1 then
      (splitAtByte? (offset + 1 - ch.utf8Size) cs).map fun (front, back) => (ch :: front, back)
    else none

/-- An offset is within a text exactly when it is the length of a part in front. -/
theorem splitAtByte?_eq_some_iff {offset : Nat} {cs front back : List Char} :
    splitAtByte? offset cs = some (front, back) ↔
      cs = front ++ back ∧ byteLength front = offset := by
  have hzero (cs front : List Char) :
      splitAtByte? 0 cs = some (front, back) ↔ cs = front ++ back ∧ byteLength front = 0 := by
    rw [splitAtByte?, Option.some.injEq, Prod.mk.injEq, byteLength_eq_zero_iff]
    constructor
    · rintro ⟨rfl, rfl⟩
      exact ⟨rfl, rfl⟩
    · rintro ⟨hcs, rfl⟩
      exact ⟨rfl, hcs⟩
  induction cs generalizing offset front with
  | nil =>
    cases offset with
    | zero => exact hzero [] front
    | succ offset =>
      refine iff_of_false nofun fun ⟨hcs, hlength⟩ => ?_
      obtain ⟨rfl, -⟩ := List.append_eq_nil_iff.1 hcs.symm
      cases hlength
  | cons ch cs ih =>
    cases offset with
    | zero => exact hzero (ch :: cs) front
    | succ offset =>
      have hpos := ch.utf8Size_pos
      rw [splitAtByte?]
      constructor
      · intro h
        split at h
        · obtain ⟨⟨front', back'⟩, hsplit, heq⟩ := Option.map_eq_some_iff.1 h
          cases heq
          obtain ⟨rfl, hlength⟩ := ih.1 hsplit
          exact ⟨rfl, by rw [byteLength_cons]; omega⟩
        · cases h
      · rintro ⟨hcs, hlength⟩
        cases front with
        | nil => cases hlength
        | cons ch' front =>
          cases hcs
          rw [byteLength_cons] at hlength
          rw [if_pos (by omega), ih.2 ⟨rfl, by omega⟩]
          rfl

/-- The text from a byte offset on. -/
def sliceFrom? (start : Nat) (cs : List Char) : Option (List Char) :=
  (splitAtByte? start cs).map Prod.snd

/-- The text up to a byte offset. -/
def sliceTo? (stop : Nat) (cs : List Char) : Option (List Char) :=
  (splitAtByte? stop cs).map Prod.fst

/-- The text between two byte offsets. -/
def slice? (start stop : Nat) (cs : List Char) : Option (List Char) :=
  (sliceTo? stop cs).bind (sliceFrom? start)

theorem sliceFrom?_append (front back : List Char) :
    sliceFrom? (byteLength front) (front ++ back) = some back := by
  rw [sliceFrom?, splitAtByte?_eq_some_iff.2 ⟨rfl, rfl⟩, Option.map_some]

theorem sliceTo?_append (front back : List Char) :
    sliceTo? (byteLength front) (front ++ back) = some front := by
  rw [sliceTo?, splitAtByte?_eq_some_iff.2 ⟨rfl, rfl⟩, Option.map_some]

theorem slice?_append (front inside back : List Char) :
    slice? (byteLength front) (byteLength (front ++ inside)) (front ++ inside ++ back) =
      some inside := by
  rw [slice?, sliceTo?_append, Option.bind_some, sliceFrom?_append]

/-- The byte offset of the first occurrence of a mark. -/
def find? (mark cs : List Char) : Option Nat :=
  (Text.cutAt? mark cs).map fun parts => byteLength parts.1

/-- The byte offset of the last occurrence of a mark. -/
def findLast? (mark cs : List Char) : Option Nat :=
  (cutAtLast? mark cs).map fun parts => byteLength parts.1

/-! ## The loop -/

/-- Where the evaluation of a text stands: the working text, the byte offset from which it is
searched, and how many replacements may still be made. -/
structure Cursor where
  text : List Char
  start : Nat
  left : Nat

/-- What a turn of the loop does. -/
inductive Turn where
  /-- It goes on from an inner opening mark. -/
  | moved (next : Cursor)
  /-- It has resolved an expression and replaced it by its value. -/
  | replaced (next : Cursor)
  /-- It ends the loop, having resolved an expression or not. -/
  | ended (resolved : Bool) (v : Value)

namespace Cursor

/-- The cursor at which the evaluation of a text begins. -/
def begin (s : String) : Cursor :=
  ⟨s.toList, 0, budgetOf s⟩

/-- What becomes of an expression between two marks at byte offsets. -/
def resolveBetween (c : Context) (cursor : Cursor) (opening closing : Nat) (body : List Char) :
    Option Turn :=
  let resolved := resolve c body
  if opening = 0 ∧ closing + 1 = byteLength cursor.text then some (.ended true resolved)
  else
    match cursor.left with
    | 0 => some (.ended true (.text (String.ofList cursor.text)))
    | left + 1 => do
      let before ← sliceTo? opening cursor.text
      let after ← sliceFrom? (closing + 1) cursor.text
      return .replaced ⟨before ++ resolved.stringify.toList ++ after, 0, left⟩

/-- One turn of the loop; `none` when a text is sliced where it cannot be. -/
def turn (c : Context) (cursor : Cursor) : Option Turn := do
  let rest ← sliceFrom? cursor.start cursor.text
  match find? openMark rest with
  | none => return .ended false (.text (String.ofList cursor.text))
  | some offset =>
    let opening := cursor.start + offset
    let opened ← sliceFrom? opening cursor.text
    match find? closeMark opened with
    | none => return .ended false (.text (String.ofList cursor.text))
    | some length =>
      let closing := opening + length
      let bodyStart := opening + byteLength openMark
      let body ← slice? bodyStart closing cursor.text
      match findLast? openMark body with
      | some inner => return .moved { cursor with start := bodyStart + inner }
      | none => resolveBetween c cursor opening closing body

end Cursor

/-- Whether the loop ends from a cursor on, after how many turns, of which how many resolve an
expression, and with which value. -/
inductive Cursor.Ends (c : Context) : Cursor → Nat → Nat → Value → Prop
  | ended {cursor : Cursor} {resolved : Bool} {v : Value}
      (hturn : cursor.turn c = some (.ended resolved v)) : Ends c cursor 1 resolved.toNat v
  | moved {cursor next : Cursor} {turns resolutions : Nat} {v : Value}
      (hturn : cursor.turn c = some (.moved next)) (hrest : Ends c next turns resolutions v) :
      Ends c cursor (turns + 1) resolutions v
  | replaced {cursor next : Cursor} {turns resolutions : Nat} {v : Value}
      (hturn : cursor.turn c = some (.replaced next)) (hrest : Ends c next turns resolutions v) :
      Ends c cursor (turns + 1) (resolutions + 1) v

/-- The loop ends in one way at most. -/
theorem Cursor.Ends.unique {c : Context} {cursor : Cursor}
    {turns turns' resolutions resolutions' : Nat} {v v' : Value}
    (h : cursor.Ends c turns resolutions v)
    (h' : cursor.Ends c turns' resolutions' v') :
    turns = turns' ∧ resolutions = resolutions' ∧ v = v' := by
  induction h generalizing turns' resolutions' with
  | ended hturn =>
    cases h' with
    | ended hturn' =>
      rw [hturn] at hturn'
      cases hturn'
      exact ⟨rfl, rfl, rfl⟩
    | moved hturn' _ => rw [hturn] at hturn'; cases hturn'
    | replaced hturn' _ => rw [hturn] at hturn'; cases hturn'
  | moved hturn _ ih =>
    cases h' with
    | ended hturn' => rw [hturn] at hturn'; cases hturn'
    | moved hturn' hrest' =>
      rw [hturn] at hturn'
      cases hturn'
      obtain ⟨rfl, rfl, rfl⟩ := ih hrest'
      exact ⟨rfl, rfl, rfl⟩
    | replaced hturn' _ => rw [hturn] at hturn'; cases hturn'
  | replaced hturn _ ih =>
    cases h' with
    | ended hturn' => rw [hturn] at hturn'; cases hturn'
    | moved hturn' _ => rw [hturn] at hturn'; cases hturn'
    | replaced hturn' hrest' =>
      rw [hturn] at hturn'
      cases hturn'
      obtain ⟨rfl, rfl, rfl⟩ := ih hrest'
      exact ⟨rfl, rfl, rfl⟩

/-! ## Turns -/

/-- What becomes of an expression of the working text. -/
def Span.turn (c : Context) (s : Span) (left : Nat) : Turn :=
  if s.isWhole then .ended true (resolve c s.body)
  else
    match left with
    | 0 => .ended true (.text (String.ofList s.text))
    | left + 1 => .replaced ⟨s.splice (resolve c s.body).stringify.toList, 0, left⟩

namespace Cursor

variable {c : Context} {left : Nat}

/-- The marks of an expression are where it is sliced. -/
theorem resolveBetween_span (s : Span) (start left : Nat) :
    resolveBetween c ⟨s.text, start, left⟩ (byteLength s.before)
        (byteLength (s.before ++ openMark ++ s.body)) s.body = some (s.turn c left) := by
  have hclose : byteLength (s.before ++ openMark ++ s.body) + 1 =
      byteLength (s.before ++ openMark ++ s.body ++ closeMark) := by
    rw [byteLength_append _ closeMark]
    rfl
  have hwhole : (byteLength s.before = 0 ∧
      byteLength (s.before ++ openMark ++ s.body ++ closeMark) = byteLength s.text) ↔
        s.isWhole = true := by
    rw [Span.text, byteLength_append _ s.after, Nat.left_eq_add, byteLength_eq_zero_iff,
      byteLength_eq_zero_iff, Span.isWhole, Bool.and_eq_true, List.isEmpty_iff, List.isEmpty_iff]
  have hbefore : sliceTo? (byteLength s.before) s.text = some s.before := by
    rw [Span.text, List.append_assoc, List.append_assoc, List.append_assoc, sliceTo?_append]
  have hafter : sliceFrom? (byteLength (s.before ++ openMark ++ s.body ++ closeMark)) s.text =
      some s.after := by
    rw [Span.text, sliceFrom?_append]
  unfold resolveBetween Span.turn
  simp only [hclose, hwhole]
  split
  · rfl
  · cases left with
    | zero => rfl
    | succ left =>
      simp only [hbefore, hafter]
      rfl

/-- A turn from an offset that has an opening mark behind it, which is closed. -/
theorem turn_of_cut (skipped : List Char) {gap inside after : List Char} (left : Nat)
    (hopen : Text.cutAt? openMark (gap ++ openMark ++ (inside ++ closeMark ++ after)) =
      some (gap, inside ++ closeMark ++ after)) (hunclosed : '\x7d' ∉ inside) :
    turn c ⟨skipped ++ (gap ++ openMark ++ (inside ++ closeMark ++ after)), byteLength skipped,
        left⟩ =
      match cutAtLast? openMark inside with
      | some (outer, _) =>
        some (.moved ⟨skipped ++ (gap ++ openMark ++ (inside ++ closeMark ++ after)),
          byteLength (skipped ++ gap ++ openMark ++ outer), left⟩)
      | none => some (Span.turn c ⟨skipped ++ gap, inside, after⟩ left) := by
  have htext : skipped ++ (gap ++ openMark ++ (inside ++ closeMark ++ after)) =
      (skipped ++ gap) ++ (openMark ++ inside ++ closeMark ++ after) := by simp
  have hclose : Text.cutAt? closeMark (openMark ++ inside ++ closeMark ++ after) =
      some (openMark ++ inside, after) := by
    have hmark : '\x7d' ∉ openMark ++ inside := by simp [openMark, hunclosed]
    rw [List.append_assoc, closeMark, Text.cutAt?_append_of_not_mem hmark, List.singleton_append,
      Text.cutAt?_cons_self]
    simp
  have hopened : sliceFrom? (byteLength skipped + byteLength gap)
      (skipped ++ (gap ++ openMark ++ (inside ++ closeMark ++ after))) =
        some (openMark ++ inside ++ closeMark ++ after) := by
    rw [htext, ← byteLength_append, sliceFrom?_append]
  have hbody : slice? (byteLength skipped + byteLength gap + byteLength openMark)
      (byteLength skipped + byteLength gap + byteLength (openMark ++ inside))
      (skipped ++ (gap ++ openMark ++ (inside ++ closeMark ++ after))) = some inside := by
    have hslice := slice?_append (skipped ++ gap ++ openMark) inside (closeMark ++ after)
    simpa only [byteLength_append, List.append_assoc, Nat.add_assoc] using hslice
  have hspan :=
    resolveBetween_span (c := c) ⟨skipped ++ gap, inside, after⟩ (byteLength skipped) left
  rw [turn, sliceFrom?_append]
  simp only [find?, hopen, hclose, hopened, hbody, findLast?, Option.map_some, Option.bind_eq_bind,
    Option.bind_some]
  cases cutAtLast? openMark inside with
  | some parts => simp [Nat.add_assoc]
  | none => simpa [Span.text, Nat.add_assoc] using hspan

/-- Where nothing is left to be resolved, the loop ends at once. -/
theorem turn_of_innermost?_eq_none {cs : List Char} (h : innermost? cs = none) :
    turn c ⟨cs, 0, left⟩ = some (.ended false (.text (String.ofList cs))) := by
  have hrest : sliceFrom? 0 cs = some cs := sliceFrom?_append [] cs
  simp only [turn, hrest, find?, Option.bind_eq_bind, Option.bind_some]
  cases hopen : Text.cutAt? openMark cs with
  | none => rfl
  | some parts =>
    obtain ⟨before, rest⟩ := parts
    have htext := Text.cutAt?_eq_some hopen
    have hunclosed : '\x7d' ∉ openMark ++ rest := by
      intro hmem
      obtain ⟨inside, after, rfl⟩ := List.append_of_mem
        ((List.mem_append.1 hmem).resolve_left (by decide))
      refine innermost?_eq_none_iff.1 h ⟨before, inside, after⟩ ?_
      rw [htext]
      simp [Span.text, closeMark]
    have hopened : sliceFrom? (0 + byteLength before) cs = some (openMark ++ rest) := by
      rw [htext, List.append_assoc, Nat.zero_add, sliceFrom?_append]
    have hclose : Text.cutAt? closeMark (openMark ++ rest) = none :=
      Text.cutAt?_singleton_eq_none_iff.2 hunclosed
    simp only [Option.map_some, hopened, Option.bind_some, hclose, Option.map_none]
    rfl

/-- The expression that is resolved next is resolved in this turn, or in the next one from its
opening mark. -/
theorem turn_of_innermost? {cs : List Char} {s : Span} (h : innermost? cs = some s) (left : Nat) :
    ∃ start, turn c ⟨cs, start, left⟩ = some (s.turn c left) ∧
      (start = 0 ∨ turn c ⟨cs, 0, left⟩ = some (.moved ⟨cs, start, left⟩)) := by
  simp only [innermost?, Option.bind_eq_bind, Option.bind_eq_some_iff] at h
  obtain ⟨⟨before, rest⟩, hopen, ⟨inside, after⟩, hclose, h⟩ := h
  have hunclosed : '\x7d' ∉ inside := Text.not_mem_of_cutAt? hclose
  obtain rfl : rest = inside ++ closeMark ++ after := Text.cutAt?_eq_some hclose
  obtain rfl := Text.cutAt?_eq_some hopen
  have hfirst := turn_of_cut (c := c) [] left hopen hunclosed
  cases hlast : cutAtLast? openMark inside with
  | none =>
    simp only [hlast, Option.pure_def, Option.some.injEq] at h hfirst
    subst h
    exact ⟨0, hfirst, .inl rfl⟩
  | some parts =>
    obtain ⟨outer, body⟩ := parts
    simp only [hlast, Option.pure_def, Option.some.injEq] at h hfirst
    subst h
    refine ⟨_, ?_, .inr hfirst⟩
    -- The inner mark is the last one in front of the closing mark, so the next turn stays at it.
    obtain rfl := cutAtLast?_eq_some hlast
    have hlast : cutAtLast? openMark body = none :=
      (cutAtLast?_eq_none_iff openMark_ne_nil).2 (not_append_of_cutAtLast? openMark_ne_nil hlast)
    have hopen : Text.cutAt? openMark ([] ++ openMark ++ (body ++ closeMark ++ after)) =
        some ([], body ++ closeMark ++ after) := rfl
    have hsecond := turn_of_cut (c := c) (before ++ openMark ++ outer) left
      hopen (fun hmem => hunclosed (List.mem_append_right _ hmem))
    simpa [hlast] using hsecond

/-- The loop ends from the beginning of a text as it ends from the turn that resolves an
expression, at most one turn later. -/
theorem ends_of_turn {cs : List Char} {s : Span} (hnext : innermost? cs = some s)
    {turns resolutions : Nat} {v : Value}
    (h : ∀ start, turn c ⟨cs, start, left⟩ = some (s.turn c left) →
      Ends c ⟨cs, start, left⟩ turns resolutions v) :
    ∃ more ≤ turns + 1, Ends c ⟨cs, 0, left⟩ more resolutions v := by
  obtain ⟨start, hturn, rfl | hmove⟩ := turn_of_innermost? (c := c) hnext left
  · exact ⟨turns, Nat.le_succ _, h 0 hturn⟩
  · exact ⟨turns + 1, Nat.le_refl _, .moved hmove (h start hturn)⟩

/-- The loop ends with the value of the text, and takes at most two turns for each expression that
the budget allows for. -/
theorem ends_expand (c : Context) (budget : Nat) (cs : List Char) :
    ∃ turns resolutions, Ends c ⟨cs, 0, budget⟩ turns resolutions (expand c budget cs) ∧
      resolutions ≤ budget + 1 ∧ turns ≤ 2 * (budget + 1) := by
  fun_induction expand c budget cs with
  | case1 budget cs hnext =>
    exact ⟨1, 0, .ended (turn_of_innermost?_eq_none hnext), by omega, by omega⟩
  | case2 budget cs s hnext resolved hwhole =>
    have hends : s.turn c budget = .ended true resolved := if_pos hwhole
    obtain ⟨turns, hle, hloop⟩ := ends_of_turn hnext
      fun start hturn => .ended (hturn.trans (congrArg some hends))
    exact ⟨turns, 1, hloop, by omega, by omega⟩
  | case3 cs s hnext hwhole =>
    have hends : s.turn c 0 = .ended true (.text (String.ofList cs)) := by
      rw [← innermost?_eq_some hnext]
      exact if_neg hwhole
    obtain ⟨turns, hle, hloop⟩ := ends_of_turn hnext
      fun start hturn => .ended (hturn.trans (congrArg some hends))
    exact ⟨turns, 1, hloop, by omega, by omega⟩
  | case4 cs s hnext resolved hwhole budget ih =>
    have hreplaces : s.turn c (budget + 1) =
        .replaced ⟨s.splice resolved.stringify.toList, 0, budget⟩ := if_neg hwhole
    obtain ⟨turns, resolutions, hrest, hresolutions, hturns⟩ := ih
    obtain ⟨more, hle, hloop⟩ := ends_of_turn hnext
      fun start hturn => .replaced (hturn.trans (congrArg some hreplaces)) hrest
    exact ⟨more, resolutions + 1, hloop, by omega, by omega⟩

/-- **The evaluation of a template ends**, whatever the values and functions of the context return:
the loop comes to an end from the beginning of every text, without slicing a text where it cannot be
sliced, and what it ends with is the value of the text. It resolves at most two expressions more
than the text has bytes, and takes at most two turns for each. -/
theorem ends_evaluate (c : Context) (s : String) :
    (∃ turns resolutions, (begin s).Ends c turns resolutions (evaluate c s)) ∧
      ∀ turns resolutions v, (begin s).Ends c turns resolutions v →
        v = evaluate c s ∧ resolutions ≤ s.utf8ByteSize + 2 ∧
          turns ≤ 2 * (s.utf8ByteSize + 2) := by
  obtain ⟨turns, resolutions, hends, hresolutions, hturns⟩ := ends_expand c (budgetOf s) s.toList
  refine ⟨⟨turns, resolutions, hends⟩, fun turns' resolutions' v h => ?_⟩
  obtain ⟨rfl, rfl, rfl⟩ := hends.unique h
  exact ⟨rfl, hresolutions, hturns⟩

end Cursor

end Flowgraph.Template
