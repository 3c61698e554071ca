import Flowgraph.Proofs.Outbound.PathFilling
/-!
# The shape of an address with a filled path

Whoever chooses the texts of path parameters chooses no more than parts of segments: two ways to
fill the path of a call lead to the same scheme, user, host and port, and to as many segments, which
differ only where their text in the template has a placeholder (`SameShape`). This holds as long as
the segments of the template have the same meaning in both (`SegmentKind`): a text of dots makes a
segment that stands for its parent, and takes away the one in front. A template may have a question
mark or a hash sign in it, and what is filled in behind that stands in the query or the fragment.
-/

namespace Flowgraph

open Text Url SegmentSource

/-! ## What of a template is written -/

/-- The text of a path template that comes to stand behind the slash. -/
def templateText (template : String) : List Char :=
  dropEndWhile isEdge ((trimBoth template.toList).dropWhile (· = '/'))

/-- The text that is written for a text of a template. -/
def writtenText (parameters : List (String × String)) (cs : List Char) : List Char :=
  (fillText parameters cs).filter fun c => !isDropped c

/-- The texts of a path template that segments are filled in from. -/
def templateSegments (template : String) : List (List Char) :=
  (pathText (templateText template)).splitOnP isSeparator

/-- The text of a path template that comes to stand in the query or the fragment. -/
def templateTail (base template : String) : List Char :=
  if base.toList.any isTailMark then templateText template else tailText (templateText template)

theorem cuts_writtenText {parameters : List (String × String)} (h : Fillable parameters) :
    Cuts (writtenText parameters) :=
  (fills_fillText h).toCuts.filter fun c hc => by
    simp only [isMark, isSeparator, isTailMark, Bool.or_eq_true, decide_eq_true_eq] at hc
    rcases hc with (rfl | rfl) | (rfl | rfl) <;> rfl

theorem writtenText_of_isFree {parameters : List (String × String)} {cs : List Char}
    (h : IsFree (Keyed.keys parameters) cs) :
    writtenText parameters cs = cs.filter fun c => !isDropped c := by
  rw [writtenText, fillText_of_isFree h]

/-- Where no placeholder occurs, parameters of the same names write the same. -/
theorem writtenText_congr {parameters₁ parameters₂ : List (String × String)}
    (hnames : Keyed.keys parameters₁ = Keyed.keys parameters₂) {cs : List Char}
    (hfree : IsFree (Keyed.keys parameters₁) cs) :
    writtenText parameters₁ cs = writtenText parameters₂ cs := by
  rw [writtenText_of_isFree hfree, writtenText_of_isFree (hnames ▸ hfree)]

/-! ## The address of a filled path -/

section

variable {parameters : List (String × String)} (h : Fillable parameters) {template : String}

include h

theorem joinPath_of_blank (hblank : trimBoth template.toList = []) (base : String) :
    joinPath base (some (fillPath template (Keyed.mapValues .text parameters))) = base := by
  have hf := fills_fillText h
  rw [fillPath_texts, joinPath, Option.map_some, String.toList_ofList, hf.trimBoth, hblank, hf.nil]

theorem clean_joinPath (hblank : trimBoth template.toList ≠ []) (base : String) :
    clean (joinPath base (some (fillPath template (Keyed.mapValues .text parameters)))) =
      frontOf base ++ '/' :: writtenText parameters (templateText template) := by
  have hf := fills_fillText h
  have hjoin : joinPath base (some (fillPath template (Keyed.mapValues .text parameters))) =
      String.ofList (dropEndWhile (· = '/') base.toList ++
        '/' :: (fillText parameters (trimBoth template.toList)).dropWhile (· = '/')) := by
    obtain ⟨c, rest, hc⟩ := List.exists_cons_of_ne_nil (hf.ne_nil hblank)
    rw [fillPath_texts, joinPath, Option.map_some, String.toList_ofList, hf.trimBoth, hc]
  have hslash : ∀ c, isSolid c = true → decide (c = '/') = false := by
    intro c hc
    rw [decide_eq_false_iff_not]
    rintro rfl
    exact absurd hc (by decide)
  rw [hjoin, clean_append_slash, behindOf, hf.dropWhile hslash,
    hf.dropEndWhile fun _ => isEdge_of_isSolid]
  rfl

end

theorem build_eq_ok_iff {base : String} {path : Option String} {url : Url} :
    Url.build base path [] = .ok url ↔ read (joinPath base path) = .ok url := by
  unfold Url.build
  cases hread : read (joinPath base path) <;> simp [hread]

/-! ## Two addresses of one template -/

/-- Two addresses of one shape, as a template has them that is filled in two ways. -/
structure SameShape (base template : String) (parameters₁ parameters₂ : List (String × String))
    (url₁ url₂ : Url) : Prop where
  scheme : url₂.scheme = url₁.scheme
  /-- User, host and port are the same. -/
  authority : url₂.authority = url₁.authority
  /-- Segment by segment the paths are given, or filled in from texts of the template in order. -/
  path : ∃ sources : List SegmentSource,
    (sources.filterMap text?).Sublist (templateSegments template) ∧
    url₁.path = .segments (sources.map (name (writtenText parameters₁))) ∧
    url₂.path = .segments (sources.map (name (writtenText parameters₂))) ∧
    ∀ source ∈ sources, (∀ text ∈ source.text?, IsFree (Keyed.keys parameters₁) text) →
      source.name (writtenText parameters₁) = source.name (writtenText parameters₂)
  /-- Both have a query or neither. -/
  query : url₂.query.isSome = url₁.query.isSome
  /-- Both have a fragment or neither. -/
  fragment : url₂.fragment.isSome = url₁.fragment.isSome
  /-- Without a placeholder behind a question mark or hash sign they are the same. -/
  tail : IsFree (Keyed.keys parameters₁) (templateTail base template) →
    url₂.query = url₁.query ∧ url₂.fragment = url₁.fragment

/-- A filled template has the same first mark in an address as the template, and a hash sign just
where the template has one. -/
theorem marks_writtenText {parameters : List (String × String)} (h : Fillable parameters)
    (before cs : List Char) :
    (tailText (before ++ '/' :: writtenText parameters cs)).head? =
        (tailText (before ++ '/' :: cs)).head? ∧
      ('#' ∈ before ++ '/' :: writtenText parameters cs ↔ '#' ∈ before ++ '/' :: cs) := by
  have hcuts := cuts_writtenText h
  constructor
  · by_cases hmark : ∃ c ∈ before, isTailMark c = true
    · obtain ⟨c, hc, hmark⟩ := hmark
      obtain ⟨mark, rest, hrest⟩ := List.exists_cons_of_ne_nil (tailText_ne_nil hc hmark)
      rw [tailText_append_of_mark hc hmark, tailText_append_of_mark hc hmark, hrest]
      rfl
    · have hfree : ∀ c ∈ before, isTailMark c = false := by simpa using hmark
      rw [tailText_append_slash hfree, tailText_append_slash hfree, hcuts.head?_tailText]
  · rw [List.mem_append, List.mem_cons, List.mem_append, List.mem_cons, hcuts.mem_iff (by decide)]

section

variable {base template scheme : String} {parameters₁ parameters₂ : List (String × String)}
  (h₁ : Fillable parameters₁) (h₂ : Fillable parameters₂)
  (hkinds : ∀ text ∈ templateSegments template,
    kindOf (writtenText parameters₁ text) = kindOf (writtenText parameters₂ text))

include h₁ h₂ hkinds

theorem exists_sources (hspecial : isSpecial scheme = true) (before : List Char) :
    ∃ sources : List SegmentSource,
      (sources.filterMap text?).Sublist (templateSegments template) ∧
      Tracks (writtenText parameters₁) (writtenText parameters₂) sources
        (readPath scheme
          (pathText (before ++ '/' :: writtenText parameters₁ (templateText template))))
        (readPath scheme
          (pathText (before ++ '/' :: writtenText parameters₂ (templateText template)))) := by
  by_cases hmark : ∃ c ∈ before, isTailMark c = true
  · obtain ⟨c, hc, hmark⟩ := hmark
    rw [pathText_append_of_mark hc hmark, pathText_append_of_mark hc hmark]
    refine ⟨_, ?_, Tracks.ofGiven _⟩
    rw [filterMap_text?_given]
    exact List.nil_sublist _
  · have hfree : ∀ c ∈ before, isTailMark c = false := by simpa using hmark
    obtain ⟨front, hfront⟩ := exists_segmentTexts_eq scheme before
    have hnames : ∀ {parameters}, Fillable parameters →
        readPath scheme
            (pathText (before ++ '/' :: writtenText parameters (templateText template))) =
          addSegments (front.foldl (addSegment false) [])
            ((templateSegments template).map (writtenText parameters)) := by
      intro parameters h
      have hcuts := cuts_writtenText h
      have hne : (templateSegments template).map (writtenText parameters) ≠ [] := by
        simp [templateSegments]
      rw [readPath_eq hspecial, pathText_append_slash hfree, hcuts.pathText, hfront,
        hcuts.splitOnP, ← templateSegments, addSegments_append hne]
    rw [hnames h₁, hnames h₂]
    obtain ⟨sources, hsub, htracks⟩ := (Tracks.ofGiven _).addSegments hkinds
    rw [filterMap_text?_given, List.nil_append] at hsub
    exact ⟨sources, hsub, htracks⟩

/-- Behind the same authority, two fillings of a template lead to addresses of one shape. -/
theorem sameShape_ofTail (hnames : Keyed.keys parameters₁ = Keyed.keys parameters₂)
    (hspecial : isSpecial scheme = true) (authority : Authority) {before : List Char}
    (hbefore : ∀ c ∈ before, c ∈ base.toList) :
    SameShape base template parameters₁ parameters₂
      (ofTail scheme authority (splitTail scheme
        (before ++ '/' :: writtenText parameters₁ (templateText template))))
      (ofTail scheme authority (splitTail scheme
        (before ++ '/' :: writtenText parameters₂ (templateText template)))) where
  scheme := rfl
  authority := rfl
  path := by
    obtain ⟨sources, hsub, htracks⟩ := exists_sources h₁ h₂ hkinds hspecial before
    refine ⟨sources, hsub, ?_, ?_, fun source _ hfree => ?_⟩
    · rw [← htracks.first, ofTail, path_splitTail]
    · rw [← htracks.second, ofTail, path_splitTail]
    · cases source with
      | given name => rfl
      | filled text => rw [name, name, writtenText_congr hnames (hfree text rfl)]
  query := by
    rw [Bool.eq_iff_iff, ofTail, ofTail, isSome_query_splitTail, isSome_query_splitTail,
      (marks_writtenText h₁ _ _).1, (marks_writtenText h₂ _ _).1]
  fragment := by
    rw [Bool.eq_iff_iff, ofTail, ofTail, isSome_fragment_splitTail, isSome_fragment_splitTail,
      (marks_writtenText h₁ _ _).2, (marks_writtenText h₂ _ _).2]
  tail hfree := by
    refine splitTail_congr ?_
    rw [templateTail] at hfree
    split at hfree
    · rw [writtenText_congr hnames hfree]
    · next hbase =>
      have hclear : ∀ c ∈ before, isTailMark c = false := fun c hc => by
        simpa using fun hmark => hbase (List.any_eq_true.2 ⟨c, hbefore c hc, hmark⟩)
      rw [tailText_append_slash hclear, tailText_append_slash hclear,
        (cuts_writtenText h₁).tailText, (cuts_writtenText h₂).tailText,
        writtenText_congr hnames hfree]

end

theorem SameShape.refl {base template : String} {parameters₁ parameters₂ : List (String × String)}
    {url : Url} {names : List (List Char)} (hpath : url.path = .segments names) :
    SameShape base template parameters₁ parameters₂ url url where
  scheme := rfl
  authority := rfl
  path := by
    refine ⟨names.map given, ?_, ?_, ?_, fun source hsource _ => ?_⟩
    · rw [filterMap_text?_given]
      exact List.nil_sublist _
    · rw [map_name_given, hpath]
    · rw [map_name_given, hpath]
    · obtain ⟨name, -, rfl⟩ := List.mem_map.1 hsource
      rfl
  query := rfl
  fragment := rfl
  tail _ := ⟨rfl, rfl⟩

/-- **Parameters keep the shape of an address.** Behind an accepted base address, two ways to fill
the parameters of a path that give its segments the same meaning lead to addresses of one shape, or
to none. -/
theorem parameters_keep_shape {base template : String} {root url₁ : Url}
    {parameters₁ parameters₂ : List (String × String)} (hbase : Url.read base = .ok root)
    (hweb : root.scheme = "http" ∨ root.scheme = "https") (h₁ : Fillable parameters₁)
    (h₂ : Fillable parameters₂) (hnames : Keyed.keys parameters₁ = Keyed.keys parameters₂)
    (hkinds : ∀ text ∈ templateSegments template,
      kindOf (writtenText parameters₁ text) = kindOf (writtenText parameters₂ text))
    (hbuild : Url.build base (some (fillPath template (Keyed.mapValues .text parameters₁))) [] =
      .ok url₁) :
    ∃ url₂, Url.build base (some (fillPath template (Keyed.mapValues .text parameters₂))) [] =
        .ok url₂ ∧
      SameShape base template parameters₁ parameters₂ url₁ url₂ := by
  have hspecial : isSpecial root.scheme = true := by
    rcases hweb with h | h <;> rw [h] <;> rfl
  have hfile : root.scheme ≠ "file" := by
    rcases hweb with h | h <;> rw [h] <;> decide
  rw [build_eq_ok_iff] at hbuild
  simp only [build_eq_ok_iff]
  by_cases hblank : trimBoth template.toList = []
  · rw [joinPath_of_blank h₁ hblank] at hbuild
    rw [joinPath_of_blank h₂ hblank]
    obtain rfl : root = url₁ := Except.ok.inj (hbase.symm.trans hbuild)
    obtain ⟨authority, tail, hroot⟩ := exists_eq_ofTail hspecial hfile hbase rfl
    exact ⟨root, hbuild, SameShape.refl (by rw [hroot]; rfl)⟩
  · obtain ⟨start, hstart, hread⟩ := exists_read_eq hspecial hfile hbase rfl
    rw [hread _ _ (clean_joinPath h₁ hblank base)] at hbuild
    rw [hread _ _ (clean_joinPath h₂ hblank base)]
    cases start with
    | error cause => cases hbuild
    | ok parts =>
      cases hbuild
      exact ⟨_, rfl, sameShape_ofTail h₁ h₂ hkinds hnames hspecial parts.1
        (hstart parts.1 parts.2 rfl)⟩

/-! ### The comments of a post -/

/-- Parameters that name a post. -/
def post (id : String) : List (String × String) :=
  [("id", id)]

theorem fillable_post {id : String} (h : id ≠ "") : Fillable (post id) where
  names parameter hparameter c hc := by
    have hname : "id".toList.all (fun c => !isMark c) = true := by decide +kernel
    rw [List.mem_singleton.1 hparameter] at hc
    simpa using List.all_eq_true.1 hname c hc
  texts parameter hparameter := by
    rw [List.mem_singleton.1 hparameter]
    exact h

/-- The address of a template behind a local server. -/
def localAddress (template : String) (parameters : List (String × String)) : Except CallError Url :=
  Url.build "http://[::1]" (some (fillPath template (Keyed.mapValues .text parameters))) []

theorem exists_read_local : ∃ root, Url.read "http://[::1]" = .ok root ∧ root.scheme = "http" := by
  obtain ⟨root, hroot⟩ := exists_eq_ok (x := Url.read "http://[::1]") (by decide +kernel)
  have hscheme : (Url.read "http://[::1]").toOption.map Url.scheme = some "http" := by
    decide +kernel
  rw [hroot] at hscheme
  exact ⟨root, hroot, Option.some.inj hscheme⟩

/-- A slash in the name of a post does not make a segment of its own. -/
theorem parameters_keep_shape_comments :
    (∃ root, Url.read "http://[::1]" = .ok root ∧ root.scheme = "http") ∧
    ∃ url₁ url₂, localAddress "posts/\x7bid\x7d/comments" (post "1") = .ok url₁ ∧
      localAddress "posts/\x7bid\x7d/comments" (post "a/../b") = .ok url₂ ∧
      SameShape "http://[::1]" "posts/\x7bid\x7d/comments" (post "1") (post "a/../b")
        url₁ url₂ := by
  obtain ⟨root, hroot, hscheme⟩ := exists_read_local
  obtain ⟨url₁, h₁⟩ := exists_eq_ok
    (x := localAddress "posts/\x7bid\x7d/comments" (post "1")) (by decide +kernel)
  have hkinds : ∀ text ∈ templateSegments "posts/\x7bid\x7d/comments",
      kindOf (writtenText (post "1") text) = kindOf (writtenText (post "a/../b") text) := by
    decide +kernel
  have hnames : Keyed.keys (post "1") = Keyed.keys (post "a/../b") := rfl
  obtain ⟨url₂, h₂, hshape⟩ := parameters_keep_shape hroot (.inl hscheme)
    (fillable_post (by decide)) (fillable_post (by decide)) hnames hkinds h₁
  exact ⟨⟨root, hroot, hscheme⟩, url₁, url₂, h₁, h₂, hshape⟩

/-- The number of segments of a path. -/
def segmentCount (url : Url) : Nat :=
  match url.path with
  | .segments names => names.length
  | .plain _ => 0

/-- Whether two addresses of a template agree in something, whatever the parameters. -/
def KeptByParameters {α : Type} (part : Url → α) : Prop :=
  ∀ (base template : String) (root url₁ url₂ : Url)
    (parameters₁ parameters₂ : List (String × String)),
    Url.read base = .ok root → root.scheme = "http" ∨ root.scheme = "https" →
    Fillable parameters₁ → Fillable parameters₂ →
    Keyed.keys parameters₁ = Keyed.keys parameters₂ →
    (∀ name ∈ Keyed.keys parameters₁, '\x7b' ∉ name.toList ∧ '\x7d' ∉ name.toList) →
    Url.build base (some (fillPath template (Keyed.mapValues .text parameters₁))) [] = .ok url₁ →
    Url.build base (some (fillPath template (Keyed.mapValues .text parameters₂))) [] = .ok url₂ →
    part url₁ = part url₂

theorem not_keptByParameters {α : Type} [DecidableEq α] {part : Url → α} (template : String)
    {id₁ id₂ : String} (hid₁ : id₁ ≠ "") (hid₂ : id₂ ≠ "")
    (hsome₁ : (localAddress template (post id₁)).toOption.isSome = true)
    (hsome₂ : (localAddress template (post id₂)).toOption.isSome = true)
    (hne : (localAddress template (post id₁)).toOption.map part ≠
      (localAddress template (post id₂)).toOption.map part) : ¬KeptByParameters part := by
  intro hkept
  obtain ⟨root, hroot, hscheme⟩ := exists_read_local
  obtain ⟨url₁, h₁⟩ := exists_eq_ok hsome₁
  obtain ⟨url₂, h₂⟩ := exists_eq_ok hsome₂
  rw [h₁, h₂] at hne
  refine hne (congrArg some (hkept _ template root url₁ url₂ _ _ hroot (.inl hscheme)
    (fillable_post hid₁) (fillable_post hid₂) rfl ?_ h₁ h₂))
  intro name hname
  have hbraces : '\x7b' ∉ "id".toList ∧ '\x7d' ∉ "id".toList := by decide +kernel
  rw [List.mem_singleton.1 hname]
  exact hbraces

/-- **Parameters can change the shape of an address**: its query where the template has a
placeholder behind a question mark, and the number of its segments where dots are filled in. -/
theorem parameters_change_shape : ¬KeptByParameters Url.query ∧ ¬KeptByParameters segmentCount :=
  ⟨not_keptByParameters "posts?page=\x7bid\x7d" (show "1" ≠ "" by decide)
      (show "2" ≠ "" by decide) (by decide +kernel) (by decide +kernel) (by decide +kernel),
    not_keptByParameters "posts/\x7bid\x7d/comments" (show "1" ≠ "" by decide)
      (show ".." ≠ "" by decide) (by decide +kernel) (by decide +kernel) (by decide +kernel)⟩

end Flowgraph
