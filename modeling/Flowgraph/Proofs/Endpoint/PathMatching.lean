import Flowgraph.Endpoint.PathTemplate
import Flowgraph.Proofs.Keyed
/-!
# Exact matching of paths

A template matches a path exactly when both have the same number of segments and every segment of
the template that is no name in braces stands in the path at its place (`Fits`). What is found then
is settled by the segments alone (`matchSegments?_eq_some_iff`): the number of the segments that
stand for themselves, and the segments of the path behind the names, of which the last one of a name
counts. So where the names differ from each other nothing is lost: with the captured segments in the
places of the names the template is the path again (`map_fillSegment?`, `matchPath?_exact`).
-/

namespace Flowgraph.PathTemplate

/-! ## Written segments -/

/-- Whether a written segment stands for itself: it is no name in braces. -/
def IsLiteral (s : String) : Prop :=
  ∀ name, s ≠ "\x7b" ++ name ++ "\x7d"

/-- The name that a written segment captures under, if it is one in braces. -/
def name? (s : String) : Option String :=
  match Segment.ofText s with
  | .capture name => some name
  | .literal _ => none

/-- A text is in braces if it is made of a brace, the text between them and a brace. -/
theorem braced?_eq_some_iff {cs name : List Char} :
    braced? cs = some name ↔ cs = '\x7b' :: (name ++ ['\x7d']) := by
  constructor
  · intro h
    obtain ⟨rest, hrest, hlast⟩ := Option.bind_eq_some_iff.1 h
    unfold Text.dropMark? at hrest
    split at hrest
    · next hfront =>
      cases hrest
      obtain ⟨rest, rfl⟩ := List.isPrefixOf_iff_prefix.1 hfront
      split at hlast
      · next hend =>
        cases hlast
        obtain ⟨ds, hds⟩ := List.getLast?_eq_some_iff.1 hend
        simp only [List.singleton_append, List.length_singleton, List.drop_succ_cons,
          List.drop_zero] at hds ⊢
        rw [hds, List.dropLast_concat]
      · cases hlast
    · cases hrest
  · rintro rfl
    simp [braced?, Text.dropMark?]

theorem name?_eq_some_iff {s name : String} :
    name? s = some name ↔ s = "\x7b" ++ name ++ "\x7d" := by
  have hchars : s = "\x7b" ++ name ++ "\x7d" ↔ s.toList = '\x7b' :: (name.toList ++ ['\x7d']) := by
    rw [← String.toList_inj, String.toList_append, String.toList_append]
    rfl
  rw [hchars, ← braced?_eq_some_iff, name?, Segment.ofText]
  cases braced? s.toList with
  | none => simp
  | some cs =>
    simp only [Option.some.injEq]
    rw [← String.toList_inj, String.toList_ofList]

theorem name?_eq_none_iff {s : String} : name? s = none ↔ IsLiteral s := by
  simp only [Option.eq_none_iff_forall_ne_some, ne_eq, name?_eq_some_iff, IsLiteral]

instance : DecidablePred IsLiteral := fun _ => decidable_of_iff _ name?_eq_none_iff

/-- The meaning of a written segment, by its name. -/
theorem ofText_eq (s : String) : Segment.ofText s = ((name? s).map .capture).getD (.literal s) := by
  unfold name? Segment.ofText
  cases braced? s.toList <;> rfl

/-! ## Templates and paths -/

/-- Whether the segments of a path are those of a template: there are as many, and what stands for
itself in the template stands at the same place in the path. -/
structure Fits (template path : List String) : Prop where
  length_eq : template.length = path.length
  literal : ∀ (i : Nat) (s : String), template[i]? = some s → IsLiteral s → path[i]? = some s

/-- The names that a template captures under, in order. -/
def names (template : List String) : List String :=
  template.filterMap name?

/-- The segments of a path by the names of a template at their places. -/
def captured (template path : List String) : Value.Fields :=
  (template.zip path).filterMap fun (s, segment) => (name? s).map fun name => (name, .text segment)

/-- A segment of a template with a captured text in its place if it is a name in braces. -/
def fillSegment? (parameters : Value.Fields) (s : String) : Option String :=
  match name? s with
  | some name => (Keyed.get? name parameters).bind Value.text?
  | none => some s

theorem fits_cons_iff {s segment : String} {template path : List String} :
    Fits (s :: template) (segment :: path) ↔
      (IsLiteral s → segment = s) ∧ Fits template path := by
  constructor
  · rintro ⟨hlength, hliteral⟩
    refine ⟨fun hs => ?_, Nat.succ.inj hlength, fun i => hliteral (i + 1)⟩
    exact Option.some.inj (hliteral 0 s rfl hs)
  · rintro ⟨hfirst, hlength, hliteral⟩
    refine ⟨congrArg Nat.succ hlength, fun i => ?_⟩
    cases i with
    | zero =>
      intro t ht hliteral
      cases ht
      exact congrArg some (hfirst hliteral)
    | succ i => exact hliteral i

/-- One segment after those that gave `found`: it is captured, or it stands for itself. -/
theorem step?_eq_some_iff {found next : Match} {s segment : String} :
    step? found (.ofText s) segment = some next ↔
      (IsLiteral s → segment = s) ∧
        next = ⟨found.literals + [s].countP (IsLiteral ·),
          Keyed.insertAll (captured [s] [segment]) found.parameters⟩ := by
  rw [ofText_eq, ← name?_eq_none_iff]
  cases hname : name? s with
  | none =>
    have hliteral : IsLiteral s := name?_eq_none_iff.1 hname
    simp [step?, captured, Keyed.insertAll, hname, hliteral, eq_comm]
  | some name =>
    have hcapture : ¬IsLiteral s := fun h => by simp [name?_eq_none_iff.2 h] at hname
    simp [step?, captured, Keyed.insertAll, hname, hcapture, eq_comm]

theorem captured_cons (s segment : String) (template path : List String) :
    captured (s :: template) (segment :: path) =
      captured [s] [segment] ++ captured template path :=
  @List.filterMap_append _ _ [(s, segment)] _ _

/-- **What a template finds in a path** is settled by the segments: how many stand for themselves,
and which ones were captured, the last one of a name winning. -/
theorem matchSegments?_eq_some_iff {found result : Match} {template path : List String} :
    matchSegments? found (template.map .ofText) path = some result ↔
      Fits template path ∧
        result = ⟨found.literals + template.countP (IsLiteral ·),
          Keyed.insertAll (captured template path) found.parameters⟩ := by
  induction template generalizing found path with
  | nil =>
    cases path with
    | nil =>
      have hfits : Fits [] [] := ⟨rfl, fun i s hs => by cases hs⟩
      rw [List.map_nil, matchSegments?, Option.some.injEq, and_iff_right hfits, eq_comm]
      rfl
    | cons segment path =>
      refine iff_of_false (Option.some_ne_none result).symm fun h => ?_
      exact absurd h.1.length_eq (Nat.zero_ne_add_one _)
  | cons s template ih =>
    cases path with
    | nil =>
      refine iff_of_false (Option.some_ne_none result).symm fun h => ?_
      exact absurd h.1.length_eq (Nat.succ_ne_zero _)
    | cons segment path =>
      have hcount : (s :: template).countP (IsLiteral ·) =
          [s].countP (IsLiteral ·) + template.countP (IsLiteral ·) :=
        @List.countP_append _ _ [s] _
      have hinsert : Keyed.insertAll (captured (s :: template) (segment :: path))
          found.parameters = Keyed.insertAll (captured template path)
            (Keyed.insertAll (captured [s] [segment]) found.parameters) := by
        rw [captured_cons, Keyed.insertAll, List.foldl_append]
        rfl
      rw [List.map_cons, matchSegments?, Option.bind_eq_some_iff, fits_cons_iff, hcount, hinsert,
        ← Nat.add_assoc]
      constructor
      · rintro ⟨next, hnext, hrest⟩
        obtain ⟨hfirst, rfl⟩ := step?_eq_some_iff.1 hnext
        obtain ⟨hfits, rfl⟩ := ih.1 hrest
        exact ⟨⟨hfirst, hfits⟩, rfl⟩
      · rintro ⟨⟨hfirst, hfits⟩, rfl⟩
        exact ⟨_, step?_eq_some_iff.2 ⟨hfirst, rfl⟩, ih.2 ⟨hfits, rfl⟩⟩

/-! ## Filling the template again -/

/-- The names of the captured segments are those of the template. -/
theorem keys_captured {template path : List String} (h : template.length = path.length) :
    Keyed.keys (captured template path) = names template := by
  have htemplate : names template = names ((template.zip path).map Prod.fst) := by
    rw [List.map_fst_zip (Nat.le_of_eq h)]
  rw [htemplate, names, List.filterMap_map, Keyed.keys, captured, List.map_filterMap]
  refine congrArg (List.filterMap · _) (funext fun pair => ?_)
  rw [Option.map_map]
  exact Option.map_id'

/-- **With the captured segments in the places of the names** the template is the path again. -/
theorem map_fillSegment? {template path : List String} (hfits : Fits template path)
    (hnames : (names template).Nodup) :
    template.map (fillSegment? (Keyed.insertAll (captured template path) [])) = path.map some := by
  have hkeys : (Keyed.keys (captured template path)).Nodup := by
    rw [keys_captured hfits.length_eq]
    exact hnames
  have hparameters {name : String} {v : Value} (hmem : (name, v) ∈ captured template path) :
      Keyed.get? name (Keyed.insertAll (captured template path) []) = some v := by
    rw [← Keyed.sorted, Keyed.get?_sorted hkeys, Keyed.get?_of_mem hkeys hmem]
  have hsegment (pair : String × String) (hpair : pair ∈ template.zip path) :
      fillSegment? (Keyed.insertAll (captured template path) []) pair.1 = some pair.2 := by
    obtain ⟨s, segment⟩ := pair
    unfold fillSegment?
    cases hname : name? s with
    | none =>
      obtain ⟨i, hi⟩ := List.getElem?_of_mem hpair
      obtain ⟨hs, hsegment⟩ := List.getElem?_zip_eq_some.1 hi
      exact (hfits.literal i s hs (name?_eq_none_iff.1 hname)).symm.trans hsegment
    | some name =>
      have hcapture : (name? s).map (fun name => (name, Value.text segment)) =
          some (name, .text segment) := congrArg _ hname
      simp only [hparameters (List.mem_filterMap.2 ⟨(s, segment), hpair, hcapture⟩)]
      rfl
  calc
    template.map (fillSegment? (Keyed.insertAll (captured template path) []))
      = ((template.zip path).map Prod.fst).map
          (fillSegment? (Keyed.insertAll (captured template path) [])) := by
        rw [List.map_fst_zip (Nat.le_of_eq hfits.length_eq)]
    _ = (template.zip path).map fun pair =>
          fillSegment? (Keyed.insertAll (captured template path) []) pair.1 := List.map_map
    _ = (template.zip path).map (some ∘ Prod.snd) := List.map_congr_left hsegment
    _ = path.map some := by
        rw [← List.map_map, List.map_snd_zip (Nat.le_of_eq hfits.length_eq.symm)]

/-! ## Requests -/

/-- The segments of the path of a request, whose query does not count. -/
def requested (path : String) : List String :=
  segments (Text.before '?' path.toList)

theorem matchPath?_eq_some_iff {template path : String} {found : Match} :
    matchPath? template path = some found ↔
      Fits (segments template.toList) (requested path) ∧
        found = ⟨(segments template.toList).countP (IsLiteral ·),
          Keyed.insertAll (captured (segments template.toList) (requested path)) []⟩ := by
  rw [matchPath?, patterns, matchSegments?_eq_some_iff, Nat.zero_add]
  rfl

/-- **Matching is exact and loses nothing.** A template matches the path of a request exactly when
the segments of the path are those of the template but for the names in braces. It counts the
segments that stand for themselves, and if no name occurs twice, then the template with the captured
segments in the places of the names is the path again. -/
theorem matchPath?_exact (template path : String) :
    ((matchPath? template path).isSome ↔ Fits (segments template.toList) (requested path)) ∧
      ∀ found, matchPath? template path = some found →
        found.literals = (segments template.toList).countP (IsLiteral ·) ∧
        ((names (segments template.toList)).Nodup →
          (segments template.toList).map (fillSegment? found.parameters) =
            (requested path).map some) := by
  constructor
  · simp only [Option.isSome_iff_exists, matchPath?_eq_some_iff, exists_and_left, exists_eq,
      and_true]
  · intro found hfound
    obtain ⟨hfits, rfl⟩ := matchPath?_eq_some_iff.1 hfound
    dsimp only
    exact ⟨rfl, map_fillSegment? hfits⟩

/-- Slashes and blanks around a path, and its query, do not count, and a lone brace is no name. -/
theorem matchPath?_exact_comment :
    (names (segments "/posts/{id}/\x7bx/{page}".toList)).Nodup ∧
      ∃ found, matchPath? "/posts/{id}/\x7bx/{page}" " /posts/7/\x7bx/9// ?all" =
          some found ∧
        found.literals = 2 ∧
        (segments "/posts/{id}/\x7bx/{page}".toList).map
          (fillSegment? found.parameters) = [some "posts", some "7", some "\x7bx", some "9"] := by
  obtain ⟨hmatches, hexact⟩ :=
    matchPath?_exact "/posts/{id}/\x7bx/{page}" " /posts/7/\x7bx/9// ?all"
  have htemplate : segments "/posts/{id}/\x7bx/{page}".toList =
      ["posts", "{id}", "\x7bx", "{page}"] := by decide +kernel
  have hpath : requested " /posts/7/\x7bx/9// ?all" = ["posts", "7", "\x7bx", "9"] := by
    decide +kernel
  rw [htemplate] at hmatches hexact ⊢
  rw [hpath] at hmatches hexact
  have hnames : (names ["posts", "{id}", "\x7bx", "{page}"]).Nodup := by decide +kernel
  have hsome : (matchPath? "/posts/{id}/\x7bx/{page}" " /posts/7/\x7bx/9// ?all").isSome =
      true := by decide +kernel
  obtain ⟨found, hfound⟩ := Option.isSome_iff_exists.1 hsome
  obtain ⟨hliterals, hfilled⟩ := hexact found hfound
  refine ⟨hnames, found, hfound, ?_, hfilled hnames⟩
  rw [hliterals]
  decide +kernel

end Flowgraph.PathTemplate
