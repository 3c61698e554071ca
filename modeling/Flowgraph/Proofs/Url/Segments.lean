import Flowgraph.Proofs.Text.Search
import Flowgraph.Proofs.Url.Reading
/-!
# Path, query and fragment of a filled text

The path of a URL is what stands in front of the first question mark or hash sign
(`path_splitTail`); query and fragment depend on the rest alone (`splitTail_congr`).

The segments of a path are added one after another, and a segment with a special meaning takes
others away. When a text is filled in two ways and each of its segments has the same meaning in
both, the two paths stay in step (`Tracks.addSegments`): segment by segment they are the two
fillings of the same text.
-/

namespace Flowgraph.Url

open Text

variable {scheme : String} {cs : List Char}

/-! ## Where the path ends -/

/-- Whether a character ends the path. -/
def isTailMark (c : Char) : Bool :=
  c = '?' || c = '#'

/-- A text without a mark belongs to the path. -/
theorem splitTail_append {as : List Char} (h : ∀ c ∈ as, isTailMark c = false) (bs : List Char) :
    splitTail scheme (as ++ bs) =
      { splitTail scheme bs with path := as ++ (splitTail scheme bs).path } := by
  have hquestion : '?' ∉ as := fun hmem => absurd (h _ hmem) (by decide)
  have hhash : '#' ∉ as := fun hmem => absurd (h _ hmem) (by decide)
  have hfront : ∀ front, cutAt? ['?'] (as ++ front) =
      (cutAt? ['?'] front).map fun parts => (as ++ parts.1, parts.2) :=
    cutAt?_append_of_not_mem hquestion
  unfold splitTail
  rw [cutAt?_append_of_not_mem hhash]
  cases cutAt? ['#'] bs with
  | none =>
    simp only [Option.map_none, hfront]
    cases cutAt? ['?'] bs <;> rfl
  | some parts =>
    simp only [Option.map_some, hfront]
    cases cutAt? ['?'] parts.1 <;> rfl

theorem splitTail_question (cs : List Char) :
    (splitTail scheme ('?' :: cs)).path = [] ∧ (splitTail scheme ('?' :: cs)).query.isSome := by
  have hfree : '#' ∉ ['?'] := by decide
  have hcut : cutAt? ['#'] ('?' :: cs) =
      (cutAt? ['#'] cs).map fun parts => ('?' :: parts.1, parts.2) :=
    cutAt?_append_of_not_mem hfree cs
  unfold splitTail
  rw [hcut]
  cases cutAt? ['#'] cs with
  | none => simp [cutAt?_cons_self]
  | some parts => simp [cutAt?_cons_self]

theorem splitTail_hash (cs : List Char) :
    (splitTail scheme ('#' :: cs)).path = [] ∧ (splitTail scheme ('#' :: cs)).query = none := by
  unfold splitTail
  rw [cutAt?_cons_self]
  exact ⟨rfl, rfl⟩

theorem isSome_fragment_splitTail (scheme : String) (cs : List Char) :
    (splitTail scheme cs).fragment.isSome ↔ '#' ∈ cs := by
  rw [← not_iff_not, ← cutAt?_singleton_eq_none_iff]
  unfold splitTail
  cases cutAt? ['#'] cs with
  | none => cases hquery : cutAt? ['?'] cs <;> simp [hquery]
  | some parts => cases hquery : cutAt? ['?'] parts.1 <;> simp [hquery]

/-- The part of a text that stands in front of the first mark. -/
def pathText (cs : List Char) : List Char :=
  cs.takeWhile fun c => !isTailMark c

/-- The part of a text from the first mark on. -/
def tailText (cs : List Char) : List Char :=
  cs.dropWhile fun c => !isTailMark c

theorem eq_of_tailText_eq_cons {c : Char} {rest : List Char} (h : tailText cs = c :: rest) :
    c = '?' ∨ c = '#' := by
  have hhead := List.head?_dropWhile_not (fun c => !isTailMark c) cs
  rw [← tailText, h] at hhead
  simpa [isTailMark, Decidable.or_iff_not_imp_left] using hhead

theorem splitTail_eq (scheme : String) (cs : List Char) :
    splitTail scheme cs = { splitTail scheme (tailText cs) with path := pathText cs } := by
  have hfree : ∀ c ∈ pathText cs, isTailMark c = false := fun c hc => by
    simpa using List.mem_takeWhile_imp hc
  have hpath : (splitTail scheme (tailText cs)).path = [] := by
    cases htail : tailText cs with
    | nil => rfl
    | cons c rest =>
      rcases eq_of_tailText_eq_cons htail with rfl | rfl
      · exact (splitTail_question rest).1
      · exact (splitTail_hash rest).1
  have happend : splitTail scheme (pathText cs ++ tailText cs) = _ :=
    splitTail_append hfree (tailText cs)
  rw [hpath, List.append_nil] at happend
  rw [← happend, pathText, tailText, List.takeWhile_append_dropWhile]

theorem path_splitTail (scheme : String) (cs : List Char) :
    (splitTail scheme cs).path = pathText cs := by
  rw [splitTail_eq]

/-- What stands in front of the first mark decides about neither query nor fragment. -/
theorem splitTail_congr {cs ds : List Char} (h : tailText cs = tailText ds) :
    (splitTail scheme cs).query = (splitTail scheme ds).query ∧
      (splitTail scheme cs).fragment = (splitTail scheme ds).fragment := by
  rw [splitTail_eq scheme cs, splitTail_eq scheme ds, h]
  exact ⟨rfl, rfl⟩

/-- A query is there where the first mark is a question mark. -/
theorem isSome_query_splitTail (scheme : String) (cs : List Char) :
    (splitTail scheme cs).query.isSome ↔ (tailText cs).head? = some '?' := by
  rw [splitTail_eq]
  cases htail : tailText cs with
  | nil => simp [splitTail, cutAt?]
  | cons c rest =>
    rcases eq_of_tailText_eq_cons htail with rfl | rfl
    · simp [(splitTail_question rest).2]
    · simp [(splitTail_hash rest).2]

theorem pathText_append_slash {as : List Char} (h : ∀ c ∈ as, isTailMark c = false)
    (bs : List Char) : pathText (as ++ '/' :: bs) = as ++ '/' :: pathText bs := by
  have has : ∀ c ∈ as, (!isTailMark c) = true := by simpa using h
  rw [pathText, List.takeWhile_append_of_pos has, List.takeWhile_cons_of_pos (by decide), pathText]

theorem tailText_append_slash {as : List Char} (h : ∀ c ∈ as, isTailMark c = false)
    (bs : List Char) : tailText (as ++ '/' :: bs) = tailText bs := by
  have has : ∀ c ∈ as, (!isTailMark c) = true := by simpa using h
  rw [tailText, List.dropWhile_append_of_pos has, List.dropWhile_cons_of_pos (by decide), tailText]

theorem tailText_ne_nil {as : List Char} {c : Char} (hc : c ∈ as) (hmark : isTailMark c = true) :
    tailText as ≠ [] := fun hnil => by
  have hfree := List.dropWhile_eq_nil_iff.1 hnil c hc
  rw [hmark] at hfree
  cases hfree

/-- What stands behind a mark does not belong to the path. -/
theorem pathText_append_of_mark {as : List Char} {c : Char} (hc : c ∈ as)
    (hmark : isTailMark c = true) (bs : List Char) : pathText (as ++ bs) = pathText as := by
  rw [pathText, List.takeWhile_append, if_neg, pathText]
  intro hlength
  refine tailText_ne_nil hc hmark (List.eq_nil_of_length_eq_zero ?_)
  have hsum := congrArg List.length
    (List.takeWhile_append_dropWhile (p := fun c => !isTailMark c) (l := as))
  rw [List.length_append, hlength] at hsum
  exact Nat.add_left_cancel hsum

theorem tailText_append_of_mark {as : List Char} {c : Char} (hc : c ∈ as)
    (hmark : isTailMark c = true) (bs : List Char) : tailText (as ++ bs) = tailText as ++ bs := by
  rw [tailText, List.dropWhile_append, if_neg, tailText]
  exact fun hempty => tailText_ne_nil hc hmark (List.isEmpty_iff.1 hempty)

/-! ## Segments -/

theorem splitOn_slash_eq (cs : List Char) :
    (cs.map fun c => if c = '\\' then '/' else c).splitOn '/' = cs.splitOnP isSeparator := by
  induction cs with
  | nil => rfl
  | cons c rest ih =>
    rw [List.map_cons, List.splitOn_cons_eq_if_modifyHead, List.splitOnP_cons_eq_if_modifyHead, ih]
    by_cases hback : c = '\\'
    · simp [hback, isSeparator]
    · by_cases hslash : c = '/' <;> simp [hback, hslash, isSeparator]

/-- The texts between the slashes of a path, without the one in front. -/
def segmentTexts (scheme : String) (cs : List Char) : List (List Char) :=
  (if startsWithSlash scheme cs then cs.drop 1 else cs).splitOnP isSeparator

theorem readPath_eq (hspecial : isSpecial scheme = true) (cs : List Char) :
    readPath scheme cs = addSegments [] (segmentTexts scheme cs) := by
  have hsegments : ∀ cs, readSegments scheme cs = addSegments [] (cs.splitOnP isSeparator) := by
    intro cs
    rw [← splitOn_slash_eq, readSegments, if_pos hspecial]
  unfold readPath segmentTexts
  split
  · exact hsegments _
  · rw [if_neg (by simp [hspecial])]
    exact hsegments cs

/-- Behind a slash the segments do not depend on what stands in front of it. -/
theorem exists_segmentTexts_eq (scheme : String) (as : List Char) :
    ∃ front, ∀ bs, segmentTexts scheme (as ++ '/' :: bs) = front ++ bs.splitOnP isSeparator := by
  cases as with
  | nil => exact ⟨[], fun bs => by simp [segmentTexts, startsWithSlash]⟩
  | cons a as =>
    refine ⟨(if startsWithSlash scheme (a :: as) then as else a :: as).splitOnP isSeparator,
      fun bs => ?_⟩
    have hstarts : startsWithSlash scheme (a :: as ++ '/' :: bs) =
        startsWithSlash scheme (a :: as) := rfl
    rw [segmentTexts, hstarts, ← List.splitOnP_append_cons _ _ (by decide : isSeparator '/' = true)]
    split <;> rfl

theorem addSegments_append {back : List (List Char)} (hne : back ≠ [])
    (front names : List (List Char)) :
    addSegments names (front ++ back) =
      addSegments (front.foldl (addSegment false) names) back := by
  induction front generalizing names with
  | nil => rfl
  | cons cs front ih =>
    obtain ⟨next, rest, hrest⟩ := List.exists_cons_of_ne_nil
      (List.append_ne_nil_of_right_ne_nil front hne)
    rw [List.cons_append, hrest, addSegments, ← hrest, ih, List.foldl_cons]
    exact List.cons_ne_nil next rest

/-! ## Two paths in step -/

/-- What a path does with a segment: it goes back to the parent, stays, or does not go back from
there. -/
structure SegmentKind where
  doubleDot : Bool
  singleDot : Bool
  drive : Bool
  deriving DecidableEq

/-- The kind of a segment as it is written. -/
def kindOf (cs : List Char) : SegmentKind where
  doubleDot := isDoubleDot cs
  singleDot := isSingleDot cs
  drive := isDriveSegment (Percent.encode Percent.inPath cs)

/-- Where the name of a segment comes from: it is given, or filled in from a text. -/
inductive SegmentSource
  | given (name : List Char)
  | filled (text : List Char)

namespace SegmentSource

/-- The text that a name is filled in from. -/
def text? : SegmentSource → Option (List Char)
  | given _ => none
  | filled text => some text

/-- The name of a segment. -/
def name (fill : List Char → List Char) : SegmentSource → List Char
  | given name => name
  | filled text => Percent.encode Percent.inPath (fill text)

theorem map_name_given (fill : List Char → List Char) (names : List (List Char)) :
    (names.map given).map (name fill) = names := by
  simp [Function.comp_def, name]

theorem filterMap_text?_given (names : List (List Char)) :
    (names.map given).filterMap text? = [] := by
  simp [text?]

end SegmentSource

open SegmentSource

variable {fill₁ fill₂ : List Char → List Char} {sources : List SegmentSource}
  {names₁ names₂ : List (List Char)}

/-- Two paths whose segments come from the same sources, and that go back alike. -/
structure Tracks (fill₁ fill₂ : List Char → List Char) (sources : List SegmentSource)
    (names₁ names₂ : List (List Char)) : Prop where
  first : names₁ = sources.map (name fill₁)
  second : names₂ = sources.map (name fill₂)
  drives : ∀ source ∈ sources,
    isDriveSegment (source.name fill₁) = isDriveSegment (source.name fill₂)

namespace Tracks

theorem ofGiven (names : List (List Char)) :
    Tracks fill₁ fill₂ (names.map given) names names where
  first := (map_name_given fill₁ names).symm
  second := (map_name_given fill₂ names).symm
  drives source hsource := by
    obtain ⟨name, -, rfl⟩ := List.mem_map.1 hsource
    rfl

theorem append (h : Tracks fill₁ fill₂ sources names₁ names₂) (source : SegmentSource)
    (hdrive : isDriveSegment (source.name fill₁) = isDriveSegment (source.name fill₂)) :
    Tracks fill₁ fill₂ (sources ++ [source]) (names₁ ++ [source.name fill₁])
      (names₂ ++ [source.name fill₂]) where
  first := by rw [h.first, List.map_append, List.map_singleton]
  second := by rw [h.second, List.map_append, List.map_singleton]
  drives s hs := by
    rcases List.mem_append.1 hs with hs | hs
    · exact h.drives s hs
    · rw [List.mem_singleton.1 hs]
      exact hdrive

/-- Both paths go back, or neither. -/
theorem shorten (h : Tracks fill₁ fill₂ sources names₁ names₂) :
    ∃ kept, kept.Sublist sources ∧ Tracks fill₁ fill₂ kept (shorten names₁) (shorten names₂) := by
  have hlast : names₁.getLast?.any isDriveSegment = names₂.getLast?.any isDriveSegment := by
    rw [h.first, h.second, List.getLast?_map, List.getLast?_map]
    cases hget : sources.getLast? with
    | none => rfl
    | some source => exact h.drives source (List.mem_of_getLast? hget)
  unfold Url.shorten
  rw [← hlast]
  split
  · exact ⟨sources, List.Sublist.refl sources, h⟩
  · refine ⟨sources.dropLast, List.dropLast_sublist sources, ?_, ?_, fun source hsource => ?_⟩
    · rw [h.first, List.map_dropLast]
    · rw [h.second, List.map_dropLast]
    · exact h.drives source ((List.dropLast_subset sources) hsource)

/-- **One segment** of the same kind keeps two paths in step. -/
theorem addSegment (h : Tracks fill₁ fill₂ sources names₁ names₂) {text : List Char}
    (hkind : kindOf (fill₁ text) = kindOf (fill₂ text)) (last : Bool) :
    ∃ kept : List SegmentSource,
      (kept.filterMap text?).Sublist (sources.filterMap text? ++ [text]) ∧
      Tracks fill₁ fill₂ kept (addSegment last names₁ (fill₁ text))
        (addSegment last names₂ (fill₂ text)) := by
  obtain ⟨hdouble, hsingle, hdrive⟩ := SegmentKind.mk.inj hkind
  -- An empty segment stands at the end for what the dots leave.
  have hempty : ∀ {kept names₁ names₂}, Tracks fill₁ fill₂ kept names₁ names₂ →
      (kept.filterMap text?).Sublist (sources.filterMap text?) →
      ∃ kept' : List SegmentSource,
        (kept'.filterMap text?).Sublist (sources.filterMap text? ++ [text]) ∧
        Tracks fill₁ fill₂ kept' (if last then names₁ ++ [[]] else names₁)
          (if last then names₂ ++ [[]] else names₂) := by
    intro kept names₁ names₂ hkept hsub
    have hlonger := hsub.trans (List.sublist_append_left _ [text])
    cases last with
    | false => exact ⟨kept, hlonger, hkept⟩
    | true =>
      refine ⟨kept ++ [given []], ?_, hkept.append (given []) rfl⟩
      rw [List.filterMap_append]
      exact (List.append_nil _).symm ▸ hlonger
  unfold Url.addSegment
  rw [← hdouble, ← hsingle]
  split
  · obtain ⟨kept, hsub, hkept⟩ := h.shorten
    exact hempty hkept (hsub.filterMap text?)
  · split
    · exact hempty h (List.Sublist.refl _)
    · refine ⟨sources ++ [filled text], ?_, h.append (filled text) hdrive⟩
      rw [List.filterMap_append]
      exact List.Sublist.refl _

/-- **A whole path** keeps in step with another when each of its segments is of the same kind. -/
theorem addSegments (h : Tracks fill₁ fill₂ sources names₁ names₂) {texts : List (List Char)}
    (hkinds : ∀ text ∈ texts, kindOf (fill₁ text) = kindOf (fill₂ text)) :
    ∃ kept : List SegmentSource,
      (kept.filterMap text?).Sublist (sources.filterMap text? ++ texts) ∧
      Tracks fill₁ fill₂ kept (addSegments names₁ (texts.map fill₁))
        (addSegments names₂ (texts.map fill₂)) := by
  induction texts generalizing sources names₁ names₂ with
  | nil => exact ⟨sources, by rw [List.append_nil], h⟩
  | cons text texts ih =>
    have hkind := hkinds text List.mem_cons_self
    cases texts with
    | nil => exact h.addSegment hkind true
    | cons next rest =>
      obtain ⟨kept, hsub, hkept⟩ := h.addSegment hkind false
      obtain ⟨kept', hsub', hkept'⟩ := ih hkept fun t ht => hkinds t (List.mem_cons_of_mem _ ht)
      refine ⟨kept', hsub'.trans ?_, hkept'⟩
      have happend := hsub.append_right (next :: rest)
      rwa [List.append_assoc, List.singleton_append] at happend

end Tracks

end Flowgraph.Url
