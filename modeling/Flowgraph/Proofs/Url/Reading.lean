import Flowgraph.Proofs.Steps
import Flowgraph.Proofs.Text.Ends
import Flowgraph.Url.Reader
/-!
# Which text decides about which part of a URL

The scheme of a URL is written in front of its first colon (`readScheme?_eq_some_iff`). Under a
special scheme other than that of files there is a host behind it, so that what is written behind an
accepted address and a slash decides about path, query and fragment alone (`exists_read_eq`).
-/

namespace Flowgraph

namespace Url

variable {scheme s : String} {cs rest : List Char} {url : Url}

/-! ## Scheme -/

/-- The name of a scheme begins with a letter. -/
structure IsSchemeName (name : List Char) : Prop where
  head : ∃ c ∈ name.head?, c.isAlpha = true
  all : ∀ c ∈ name, inScheme c = true

/-- The name of a scheme stands in front of the first colon. -/
theorem readScheme?_eq_some_iff :
    readScheme? cs = some (scheme, rest) ↔
      ∃ name, IsSchemeName name ∧ Text.asciiLower (String.ofList name) = scheme ∧
        cs = name ++ ':' :: rest := by
  constructor
  · intro h
    unfold readScheme? at h
    split at h
    · next c name rest' htake hdrop =>
      split at h
      · next halpha =>
        cases h
        refine ⟨c :: name, ⟨⟨c, rfl, halpha⟩, fun d hd => ?_⟩, rfl, ?_⟩
        · rw [← htake] at hd
          exact List.mem_takeWhile_imp hd
        · rw [← htake, ← hdrop, List.takeWhile_append_dropWhile]
      · cases h
    · cases h
  · rintro ⟨name, ⟨⟨c, hc, halpha⟩, hall⟩, rfl, rfl⟩
    obtain ⟨name, rfl⟩ := List.head?_eq_some_iff.1 hc
    have hcolon : inScheme ':' = false := by decide
    rw [readScheme?, List.takeWhile_append_of_pos hall, List.dropWhile_append_of_pos hall,
      List.takeWhile_cons_of_neg (ne_true_of_eq_false hcolon),
      List.dropWhile_cons_of_neg (ne_true_of_eq_false hcolon), List.append_nil]
    exact if_pos halpha

/-- What stands behind a text that has a scheme does not change the scheme. -/
theorem readScheme?_append (h : readScheme? cs = some (scheme, rest)) (ds : List Char) :
    readScheme? (cs ++ ds) = some (scheme, rest ++ ds) := by
  obtain ⟨name, hname, hlower, rfl⟩ := readScheme?_eq_some_iff.1 h
  exact readScheme?_eq_some_iff.2 ⟨name, hname, hlower, List.append_assoc name _ ds⟩

/-- A scheme ends where its colon is. -/
theorem exists_readScheme?_of_append {ds : List Char} (hcolon : ':' ∉ ds)
    (h : readScheme? (cs ++ ds) = some (scheme, rest)) :
    ∃ left, readScheme? cs = some (scheme, left) ∧ rest = left ++ ds := by
  obtain ⟨name, hname, hlower, heq⟩ := readScheme?_eq_some_iff.1 h
  rcases List.append_eq_append_iff.1 heq with ⟨more, rfl, hds⟩ | ⟨more, rfl, hmore⟩
  · rw [hds] at hcolon
    simp at hcolon
  · cases more with
    | nil =>
      rw [List.nil_append] at hmore
      rw [← hmore] at hcolon
      simp at hcolon
    | cons c left =>
      obtain ⟨rfl, rfl⟩ := List.cons.inj hmore
      exact ⟨left, readScheme?_eq_some_iff.2 ⟨name, hname, hlower, rfl⟩, rfl⟩

/-! ## From the scheme to the authority -/

/-- Whether a character separates the segments of a path under a special scheme. -/
def isSeparator (c : Char) : Bool :=
  c = '/' || c = '\\'

/-- The URL of an authority and what stands behind it. -/
def ofTail (scheme : String) (authority : Authority) (tail : Tail) : Url where
  scheme := scheme
  authority := some authority
  path := .segments (readPath scheme tail.path)
  query := tail.query
  fragment := tail.fragment

theorem scheme_readFile (h : readFile cs = .ok url) : url.scheme = "file" := by
  unfold readFile at h
  split at h
  · dsimp only at h
    split at h
    · split at h
      · cases h
        rfl
      · obtain ⟨host, -, h⟩ := bind_eq_ok.1 h
        cases h
        rfl
    · cases h
      rfl
  · cases h
    rfl

theorem readBehindSlashes_eq (scheme : String) (cs : List Char) :
    readBehindSlashes scheme cs =
      (readAuthority scheme (cs.dropWhile fun c => !endsAuthority (isSpecial scheme) c).isEmpty
        (cs.takeWhile fun c => !endsAuthority (isSpecial scheme) c)).map fun (authority, left) =>
          ofTail scheme authority (splitTail scheme
            (left ++ cs.dropWhile fun c => !endsAuthority (isSpecial scheme) c)) := by
  unfold readBehindSlashes
  dsimp only
  cases readAuthority scheme (cs.dropWhile fun c => !endsAuthority (isSpecial scheme) c).isEmpty
    (cs.takeWhile fun c => !endsAuthority (isSpecial scheme) c) <;> rfl

/-- A URL that was read has the scheme that it is written with. -/
theorem exists_readScheme?_of_read (h : read s = .ok url) :
    ∃ rest, readScheme? (clean s) = some (url.scheme, rest) := by
  have hbehind : ∀ {scheme cs}, readBehindSlashes scheme cs = .ok url → scheme = url.scheme := by
    intro scheme cs h
    obtain ⟨parts, -, h⟩ := bind_eq_ok.1 h
    cases h
    rfl
  unfold read at h
  split at h
  · cases h
  · next scheme rest hscheme =>
    have heq : scheme = url.scheme := by
      split at h
      · next hfile => rw [hfile, scheme_readFile h]
      · split at h
        · exact hbehind h
        · split at h
          · exact hbehind h
          · cases h
            rfl
    exact ⟨rest, heq ▸ hscheme⟩

variable (hspecial : isSpecial scheme = true) (hfile : scheme ≠ "file")

include hspecial hfile in
theorem read_of_readScheme? (hscheme : readScheme? (clean s) = some (scheme, rest)) :
    read s = readBehindSlashes scheme (rest.dropWhile isSeparator) := by
  rw [read, hscheme]
  exact (if_neg hfile).trans (if_pos hspecial)

include hspecial hfile in
/-- A special URL has an authority and a path of segments. -/
theorem exists_eq_ofTail (h : read s = .ok url) (hscheme : url.scheme = scheme) :
    ∃ authority tail, url = ofTail scheme authority tail := by
  obtain ⟨rest, hrest⟩ := exists_readScheme?_of_read h
  rw [hscheme] at hrest
  rw [read_of_readScheme? hspecial hfile hrest] at h
  obtain ⟨parts, -, h⟩ := bind_eq_ok.1 h
  cases h
  exact ⟨parts.1, _, rfl⟩

include hspecial in
/-- A special URL has a host. -/
theorem readBehindSlashes_nil : readBehindSlashes scheme [] = .error .emptyHost := by
  have hhost : readHostAndPort scheme none [] = .error .emptyHost := if_pos ⟨rfl, hspecial⟩
  rw [readBehindSlashes_eq]
  exact congrArg (Except.map _) hhost

theorem cutAtSign?_eq_some {before after : List Char}
    (h : cutAtSign? cs = some (before, after)) : cs = before ++ '@' :: after := by
  induction cs generalizing before with
  | nil => cases h
  | cons c more ih =>
    rw [cutAtSign?] at h
    split at h
    · next hcut =>
      cases h
      exact congrArg (c :: ·) (ih hcut)
    · split at h
      · next hsign =>
        cases h
        rw [hsign, List.nil_append]
      · cases h

theorem takeHost_append (inBrackets : Bool) (cs : List Char) :
    (takeHost inBrackets cs).1 ++ (takeHost inBrackets cs).2 = cs := by
  induction cs generalizing inBrackets with
  | nil => rfl
  | cons c rest ih =>
    unfold takeHost
    split
    · rfl
    · exact congrArg (c :: ·) (ih _)

section

variable {c : Char} {left : List Char}

theorem mem_of_readPort {port : Option Nat} (h : readPort scheme cs = .ok (port, left))
    (hc : c ∈ left) : c ∈ cs := by
  have hleft : left = (Number.takeDigits cs).2 := by
    unfold readPort at h
    dsimp only at h
    split at h
    · cases h
    · split at h <;> cases h <;> rfl
  rw [hleft] at hc
  rw [← Number.takeDigits_append cs]
  exact List.mem_append_right _ hc

theorem mem_of_readHostAndPort {userInfo : Option (List Char)} {authority : Authority}
    (h : readHostAndPort scheme userInfo cs = .ok (authority, left)) (hc : c ∈ left) : c ∈ cs := by
  have hport : ∀ {port}, readPort scheme ((takeHost false cs).2.drop 1) = .ok (port, left) →
      c ∈ cs := by
    intro port hport
    rw [← takeHost_append false cs]
    exact List.mem_append_right _ (List.mem_of_mem_drop (mem_of_readPort hport hc))
  unfold readHostAndPort at h
  dsimp only at h
  split at h
  · cases h
  · split at h
    all_goals
      obtain ⟨host, -, h⟩ := bind_eq_ok.1 h
      split at h
      · cases h
      · obtain ⟨parts, hparts, h⟩ := bind_eq_ok.1 h
        cases h
        exact hport hparts

/-- What reading an authority leaves of its text is a part of it. -/
theorem mem_of_readAuthority {atEnd : Bool} {authority : Authority}
    (h : readAuthority scheme atEnd cs = .ok (authority, left)) (hc : c ∈ left) : c ∈ cs := by
  unfold readAuthority at h
  split at h
  · next info rest hcut =>
    split at h
    · cases h
    · rw [cutAtSign?_eq_some hcut]
      exact List.mem_append_right info (List.mem_cons_of_mem _ (mem_of_readHostAndPort h hc))
  · exact mem_of_readHostAndPort h hc

end

/-! ## What is written behind a base address -/

/-- The text of a base address that counts when a slash and more are written behind it. -/
def frontOf (base : String) : List Char :=
  ((Text.dropEndWhile (· = '/') base.toList).dropWhile isEdge).filter fun c => !isDropped c

/-- The text behind a slash that counts. -/
def behindOf (cs : List Char) : List Char :=
  (Text.dropEndWhile isEdge cs).filter fun c => !isDropped c

theorem clean_append_slash (as bs : List Char) :
    clean (String.ofList (as ++ '/' :: bs)) =
      (as.dropWhile isEdge).filter (fun c => !isDropped c) ++ '/' :: behindOf bs := by
  have hedge : isEdge '/' = false := by decide
  rw [clean, String.toList_ofList, Text.dropWhile_append_cons hedge,
    Text.dropEndWhile_append_cons hedge, List.filter_append, List.filter_cons_of_pos (by decide)]
  rfl

/-- Behind a base address a slash is written in place of its own slashes at the end, or, if it has
none, behind the control characters at its end, which count from then on. -/
theorem frontOf_cases (base : String) :
    (∃ edges, frontOf base = clean base ++ edges) ∨
      ∃ slashes, clean base = frontOf base ++ slashes ∧ ∀ c ∈ slashes, c = '/' := by
  obtain ⟨back, hbase, hback⟩ := Text.exists_dropEndWhile_append (· = '/') base.toList
  cases back with
  | nil =>
    obtain ⟨edges, hedges, -⟩ :=
      Text.exists_dropEndWhile_append isEdge (base.toList.dropWhile isEdge)
    refine .inl ⟨edges.filter fun c => !isDropped c, ?_⟩
    rw [List.append_nil] at hbase
    rw [clean, ← List.filter_append, ← hedges, frontOf, ← hbase]
  | cons slash back =>
    obtain rfl : slash = '/' := of_decide_eq_true (hback slash List.mem_cons_self)
    refine .inr ⟨'/' :: behindOf back, ?_, fun c hc => ?_⟩
    · rw [← String.ofList_toList (s := base), hbase, clean_append_slash, ← hbase,
        String.ofList_toList, frontOf]
    · refine of_decide_eq_true (hback c ?_)
      rcases List.mem_cons.1 hc with rfl | hc
      · exact List.mem_cons_self
      · have hbegins : Text.dropEndWhile isEdge back <+: back := List.rdropWhile_prefix isEdge back
        exact List.mem_cons_of_mem _ (hbegins.subset (List.mem_of_mem_filter hc))

include hspecial hfile in
/-- Behind the scheme of an accepted base address there is more than slashes. -/
theorem exists_left {base : String} (h : read base = .ok url) (hscheme : url.scheme = scheme) :
    ∃ left, readScheme? (frontOf base) = some (scheme, left) ∧
      left.dropWhile isSeparator ≠ [] := by
  obtain ⟨rest, hrest⟩ := exists_readScheme?_of_read h
  rw [hscheme] at hrest
  have hne : rest.dropWhile isSeparator ≠ [] := by
    intro hnil
    rw [read_of_readScheme? hspecial hfile hrest, hnil, readBehindSlashes_nil hspecial] at h
    cases h
  rcases frontOf_cases base with ⟨edges, hfront⟩ | ⟨slashes, hclean, hslashes⟩
  · refine ⟨rest ++ edges, hfront ▸ readScheme?_append hrest edges, ?_⟩
    rw [List.dropWhile_append, if_neg (by simpa using hne)]
    exact List.append_ne_nil_of_left_ne_nil hne edges
  · rw [hclean] at hrest
    obtain ⟨left, hleft, rfl⟩ :=
      exists_readScheme?_of_append (fun hmem => absurd (hslashes _ hmem) (by decide)) hrest
    refine ⟨left, hleft, fun hnil => hne ?_⟩
    rw [List.dropWhile_append, hnil, List.isEmpty_nil, if_pos rfl, List.dropWhile_eq_nil_iff]
    intro c hc
    rw [hslashes c hc]
    decide

theorem mem_of_readScheme? {base : String} {left : List Char}
    (h : readScheme? (frontOf base) = some (scheme, left)) {c : Char} (hc : c ∈ left) :
    c ∈ base.toList := by
  obtain ⟨name, -, -, hfront⟩ := readScheme?_eq_some_iff.1 h
  have hmem : c ∈ frontOf base := by
    rw [hfront]
    exact List.mem_append_right name (List.mem_cons_of_mem _ hc)
  have hbegins : Text.dropEndWhile (· = '/') base.toList <+: base.toList :=
    List.rdropWhile_prefix _ _
  exact hbegins.subset ((List.dropWhile_subset isEdge) (List.mem_of_mem_filter hmem))

include hspecial hfile in
/-- **What is written behind a slash behind an accepted base address** decides about path, query
and fragment alone. -/
theorem exists_read_eq {base : String} (h : read base = .ok url) (hscheme : url.scheme = scheme) :
    ∃ start : Except UrlError (Authority × List Char),
      (∀ authority before, start = .ok (authority, before) → ∀ c ∈ before, c ∈ base.toList) ∧
      ∀ s cs, clean s = frontOf base ++ '/' :: cs →
        read s = start.map fun (authority, before) =>
          ofTail scheme authority (splitTail scheme (before ++ '/' :: cs)) := by
  obtain ⟨left, hleft, hne⟩ := exists_left hspecial hfile h hscheme
  let lead := left.dropWhile isSeparator
  let inAuthority (c : Char) : Bool := !endsAuthority (isSpecial scheme) c
  refine ⟨(readAuthority scheme false (lead.takeWhile inAuthority)).map fun (authority, more) =>
    (authority, more ++ lead.dropWhile inAuthority), fun authority before hstart c hc => ?_,
    fun s cs hs => ?_⟩
  · refine mem_of_readScheme? hleft ((List.dropWhile_subset isSeparator) ?_)
    cases hread : readAuthority scheme false (lead.takeWhile inAuthority) with
    | error cause => rw [hread] at hstart; cases hstart
    | ok parts =>
      rw [hread] at hstart
      cases hstart
      rcases List.mem_append.1 hc with hc | hc
      · exact (List.takeWhile_subset inAuthority) (mem_of_readAuthority hread hc)
      · exact (List.dropWhile_subset inAuthority) hc
  have hdrop : (left ++ '/' :: cs).dropWhile isSeparator = lead ++ '/' :: cs := by
    rw [List.dropWhile_append, if_neg (by simpa using hne)]
  have hslash : inAuthority '/' = false := by simp [inAuthority, endsAuthority]
  rw [read_of_readScheme? hspecial hfile (hs ▸ readScheme?_append hleft ('/' :: cs)), hdrop,
    readBehindSlashes_eq, Text.takeWhile_append_cons hslash, Text.dropWhile_append_cons hslash]
  have hend : (lead.dropWhile inAuthority ++ '/' :: cs).isEmpty = false := by simp
  rw [hend]
  cases readAuthority scheme false (lead.takeWhile inAuthority) with
  | error cause => rfl
  | ok parts => simp [Except.map, inAuthority]

end Url

end Flowgraph
