import Flowgraph.Proofs.Outbound.Hiding
import Flowgraph.Proofs.Text.Search
import Mathlib.Data.List.Infix
import Mathlib.Data.List.TakeWhile
/-!
# Hidden headers

The header lines of an outbound call are hidden before they are logged. The value of a secret header
is hidden as a whole exactly if it is made of the characters that the rule for its name takes
(`headers_hidden`): word characters, blanks and the marks `-.=:/+` behind `authorization`, anything
but blanks, quotes, commas and closing braces behind the name of a secret.
The rules also run over bodies and lists, where a blank or a quote ends a secret.
-/

namespace Flowgraph.Redaction

variable {cs kept rest : List Char} {word : String} {q : Char → Bool}

/-! ## Secret headers -/

/-- Whether a character can stand in the name of a header: no blank, no quote and no mark behind a
name. -/
def inName (c : Char) : Bool :=
  !Text.isBlank c && !("\"':=".toList.contains c)

/-- The name of a header whose value is a secret, in any case: `authorization`, or a name that ends
in the name of a secret. -/
structure IsSecretName (name : String) : Prop where
  inName : ∀ c ∈ name.toList, inName c = true
  secret : name.toList.map fold = "authorization".toList ∨
    ∃ word ∈ secretNames, word.toList <:+ name.toList.map fold

/-- Whether a character belongs to the secret behind the name of a header. -/
def inValueOf (name : String) : Char → Bool :=
  if name.toList.map fold = "authorization".toList then inAuthorization else inSecret

/-! ## Names at the front -/

theorem colon_notMem_of_inName {name : List Char} (h : ∀ c ∈ name, inName c = true) :
    ':' ∉ name :=
  fun hmem => absurd (h ':' hmem) (by decide)

/-- No secret's name begins with another. -/
theorem secretNames_prefix_free :
    ∀ word ∈ secretNames, ∀ word' ∈ secretNames, word.toList <+: word'.toList → word = word' := by
  decide

/-- No secret's name ends with another. -/
theorem secretNames_suffix_free :
    ∀ word ∈ secretNames, ∀ word' ∈ secretNames, word.toList <:+ word'.toList → word = word' := by
  decide

theorem secretNames_not_authorization :
    ∀ word ∈ secretNames, ¬ word.toList <:+ "authorization".toList := by
  decide

theorem takeName?_append {name : List Char} (hword : word ∈ secretNames)
    (h : name.map fold = word.toList) : takeName? (name ++ rest) = some (name, rest) := by
  have htake : takeWord? word (name ++ rest) = some (name, rest) :=
    takeWord?_eq_some_iff.2 ⟨rfl, h⟩
  have hsome : (takeName? (name ++ rest)).isSome = true :=
    List.findSome?_isSome_iff.2 ⟨word, hword, by rw [htake]; rfl⟩
  obtain ⟨⟨name', rest'⟩, hfound⟩ := Option.isSome_iff_exists.1 hsome
  obtain ⟨word', hword', htake'⟩ := takeName?_eq_some hfound
  -- The word that was found and `word` begin the same text, so one of them begins the other.
  obtain rfl : word = word' := by
    obtain ⟨heq, hfold⟩ := takeWord?_eq_some_iff.1 htake'
    have hprefix : name <+: name' ++ rest' := heq ▸ List.prefix_append name rest
    rcases List.prefix_or_prefix_of_prefix hprefix (List.prefix_append name' rest') with hle | hle
    · have hle := hle.map fold
      rw [h, hfold] at hle
      exact secretNames_prefix_free word hword word' hword' hle
    · have hle := hle.map fold
      rw [h, hfold] at hle
      exact (secretNames_prefix_free word' hword' word hword hle).symm
  rw [hfound, ← htake', htake]

/-- In front of a colon the rule for authorization finds its own name only. -/
theorem authorization_eq_none {name : List Char} (hname : ∀ c ∈ name, inName c = true)
    (h : name.map fold ≠ "authorization".toList) : authorization (name ++ ':' :: cs) = none := by
  rw [Option.eq_none_iff_forall_ne_some, authorization_eq]
  rintro ⟨kept, rest⟩ hfind
  obtain ⟨behind, hword, -, -⟩ := valueBehind_eq_some_iff.1 hfind
  obtain ⟨heq, hfold⟩ := takeWord?_eq_some_iff.1 hword
  have hsplit : "authorization: ".toList = "authorization".toList ++ [':', ' '] := by decide
  rw [hsplit] at hfold
  obtain ⟨found, marks, rfl, hfound, hmarks⟩ := List.map_eq_append_iff.1 hfold
  obtain ⟨mark, rest', rfl, hmark, -⟩ := List.map_eq_cons_iff.1 hmarks
  obtain rfl := eq_of_fold_eq (by decide) hmark
  have hnotMem : ':' ∉ found := fun hmem => by
    have hmem' : fold ':' ∈ found.map fold := List.mem_map_of_mem hmem
    rw [hfound] at hmem'
    exact absurd hmem' (by decide)
  rw [List.append_assoc, List.cons_append] at heq
  obtain ⟨rfl, -⟩ := Text.append_cons_inj_of_notMem_left (colon_notMem_of_inName hname) hnotMem heq
  exact h hfound

theorem behindName?_of_inName {name : List Char} {c : Char} (hc : inName c = true) :
    behindName? name (c :: cs) = none := by
  simp only [inName, Bool.and_eq_true, Bool.not_eq_true', List.contains_eq_mem,
    decide_eq_false_iff_not] at hc
  obtain ⟨hblank, hmark⟩ := hc
  simp only [List.mem_cons, not_or, String.reduceToList] at hmark
  obtain ⟨hdouble, hsingle, hcolon, hequals, -⟩ := hmark
  simp [behindName?, takeQuote, takeRun, *]

/-- In front of a colon the rule for named secrets finds their names only. -/
theorem namedSecret_eq_none {name : List Char} (hname : ∀ c ∈ name, inName c = true)
    (h : ∀ word ∈ secretNames, name.map fold ≠ word.toList) :
    namedSecret (name ++ ':' :: cs) = none := by
  rw [Option.eq_none_iff_forall_ne_some]
  intro found hfind
  obtain ⟨taken, behind, htake, hbehind⟩ := namedSecret_eq_some_iff.1 hfind
  obtain ⟨word, hword, htake⟩ := takeName?_eq_some htake
  obtain ⟨heq, hfold⟩ := takeWord?_eq_some_iff.1 htake
  rcases List.append_eq_append_iff.1 heq with ⟨zs, rfl, hzs⟩ | ⟨zs, rfl, rfl⟩
  · cases zs with
    | nil => exact h word hword (by simpa using hfold)
    | cons z zs =>
      -- The word would reach over the colon.
      cases hzs
      have hmem : ':' ∈ word.toList := by
        rw [← hfold, List.map_append]
        exact List.mem_append_right _ List.mem_cons_self
      have hnotMem : ∀ word ∈ secretNames, ':' ∉ word.toList := by decide
      exact absurd hmem (hnotMem word hword)
  · cases zs with
    | nil => exact h word hword (by simpa using hfold)
    | cons z zs =>
      rw [List.cons_append, behindName?_of_inName
        (hname z (List.mem_append_right _ List.mem_cons_self))] at hbehind
      cases hbehind

/-! ## Headers -/

/-- The line of a header. -/
def headerLine (name value : List Char) : List Char :=
  name ++ ':' :: ' ' :: value

theorem headerLine_append (name cs ds : List Char) :
    headerLine name cs ++ ds = headerLine name (cs ++ ds) := by
  simp [headerLine]

theorem append_headerLine (front name value : List Char) :
    front ++ headerLine name value = headerLine (front ++ name) value := by
  simp [headerLine]

@[simp] theorem headerLine_inj {name value value' : List Char} :
    headerLine name value = headerLine name value' ↔ value = value' := by
  simp [headerLine]

/-- A rule that finds nothing in front of the colon of a header goes on to the value. -/
theorem hide_headerLine {rule : Rule} {name value : List Char}
    (hname : ∀ part, part <:+ name → part ≠ [] → rule (part ++ ':' :: ' ' :: value) = none)
    (hcolon : rule (':' :: ' ' :: value) = none) (hblank : rule (' ' :: value) = none) :
    hide rule (headerLine name value) = headerLine name (hide rule value) := by
  rw [headerLine, hide_append hname, hide_cons_of_none hcolon, hide_cons_of_none hblank, headerLine]

theorem authorization_cons {c : Char} (h : Clashes [c] "authorization: ") :
    authorization (c :: cs) = none := by
  have hnone : takeWord? "authorization: " ([c] ++ cs) = none := takeWord?_of_clashes h
  rw [List.singleton_append] at hnone
  rw [authorization_eq, valueBehind, hnone]
  rfl

theorem namedSecret_cons {c : Char} (h : ∀ word ∈ secretNames, Clashes [c] word) :
    namedSecret (c :: cs) = none := by
  rw [Option.eq_none_iff_forall_ne_some]
  intro found hfind
  obtain ⟨taken, behind, htake, -⟩ := namedSecret_eq_some_iff.1 hfind
  obtain ⟨word, hword, htake⟩ := takeName?_eq_some htake
  have hnone : takeWord? word ([c] ++ cs) = none := takeWord?_of_clashes (h word hword)
  rw [List.singleton_append, htake] at hnone
  cases hnone

/-- The run at the front is the whole of a text that is not empty. -/
theorem run_is_whole_iff :
    cs.takeWhile q ≠ [] ∧ cs.dropWhile q = [] ↔ cs ≠ [] ∧ ∀ c ∈ cs, q c = true := by
  rw [List.dropWhile_eq_nil_iff]
  refine and_congr_left fun h => ?_
  rw [List.takeWhile_eq_self_iff.2 h]

theorem isWordChar_eq (c : Char) :
    Text.isWordChar c =
      Text.wordRanges.toList.any fun (first, last) => first ≤ c.toNat && c.toNat ≤ last := by
  rw [Text.isWordChar, Array.any_toList]

theorem takeWhile_inAuthorization_mask : mask.takeWhile inAuthorization = [] := by
  refine List.takeWhile_cons_of_neg ?_
  rw [inAuthorization, isWordChar_eq]
  decide +kernel

theorem marks_notMem_mask : ∀ c ∈ mask, c ≠ ' ' ∧ ¬ (c = '=' ∨ c = ':') := by
  have hmarks : ' ' ∉ mask ∧ '=' ∉ mask ∧ ':' ∉ mask := by decide
  obtain ⟨hblank, hequals, hcolon⟩ := hmarks
  refine fun c hc => ⟨?_, ?_⟩
  · rintro rfl
    exact hblank hc
  · rintro (rfl | rfl)
    · exact hequals hc
    · exact hcolon hc

/-- The mask is made of the characters of a named secret itself. -/
theorem mask_inSecret : mask ≠ [] ∧ ∀ c ∈ mask, inSecret c = true :=
  ⟨List.cons_ne_nil _ _, List.all_eq_true.1 (by decide)⟩

/-- What a rule does with a header at whose name it looks for a run of characters with `q` behind
some front of the value: the mask alone is left of the value if the value is such a run itself, or
if it is the mask and no run was found. -/
theorem hide_own {rule : Rule} {p : Char → Prop} {name front back value : List Char}
    (hcut : IsCut rule) (hkeeps : Keeps p rule) (hmask : ∀ c ∈ mask, ¬ p c)
    (hvalue : front ++ back = value)
    (hown : rule (headerLine name value) = behind? (headerLine name front) q back)
    (hshorter : ∀ part, part <:+ name → part ≠ name → rule (headerLine part value) = none)
    (hcolon : rule (':' :: ' ' :: value) = none) (hblank : rule (' ' :: value) = none) :
    ∃ value', hide rule (headerLine name value) = headerLine name value' ∧
      (value' = mask ↔ (front = [] ∧ value ≠ [] ∧ ∀ c ∈ value, q c = true) ∨
        (value = mask ∧ back.takeWhile q = [])) := by
  by_cases hrun : back.takeWhile q = []
  · have hnone : rule (headerLine name value) = none := by
      rw [hown, Option.eq_none_iff_forall_ne_some]
      rintro ⟨kept, rest⟩ hfind
      exact (behind?_eq_some_iff.1 hfind).2.1 hrun
    refine ⟨hide rule value, hide_headerLine (fun part hpart _ => ?_) hcolon hblank, ?_⟩
    · by_cases hpartName : part = name
      · exact hpartName ▸ hnone
      · exact hshorter part hpart hpartName
    · rw [hcut.hide_eq_iff hkeeps hmask, and_iff_left hrun, iff_or_self]
      rintro ⟨rfl, hne, hall⟩
      rw [List.nil_append] at hvalue
      rw [hvalue, List.takeWhile_eq_self_iff.2 hall] at hrun
      exact absurd hrun hne
  · have hsome : rule (headerLine name value) =
        some (headerLine name front, back.dropWhile q) := by
      rw [hown]
      exact behind?_eq_some_iff.2 ⟨rfl, hrun, rfl⟩
    refine ⟨front ++ (mask ++ hide rule (back.dropWhile q)), ?_, ?_⟩
    · rw [hcut.hide_of_some hsome, headerLine_append]
    · rw [or_iff_left fun h => hrun h.2]
      constructor
      · intro heq
        -- The mask alone has the length of the whole.
        have hlength := congrArg List.length heq
        simp only [List.length_append] at hlength
        have hfront : front = [] := List.eq_nil_of_length_eq_zero (by omega)
        have hrest : hide rule (back.dropWhile q) = [] :=
          List.eq_nil_of_length_eq_zero (by omega)
        rw [hfront, List.nil_append] at hvalue
        rw [hcut.hide_eq_nil_iff] at hrest
        exact ⟨hfront, hvalue ▸ run_is_whole_iff.1 ⟨hrun, hrest⟩⟩
      · rintro ⟨rfl, hwhole⟩
        rw [List.nil_append] at hvalue
        obtain ⟨-, hrest⟩ := run_is_whole_iff.2 hwhole
        rw [hvalue, hrest, hide_nil, List.append_nil, List.nil_append]

/-! ## The header of an authorization -/

section Authorization

variable {name : List Char} (hname : ∀ c ∈ name, inName c = true)
  (hfold : name.map fold = "authorization".toList) (value : List Char)

include hname hfold

theorem hide_authorization_own :
    ∃ value', hide authorization (headerLine name value) = headerLine name value' ∧
      (value' = mask ↔
        (value ≠ [] ∧ ∀ c ∈ value, inAuthorization c = true) ∨ value = mask) := by
  have htake : takeWord? "authorization: " (headerLine name value) =
      some (headerLine name [], value) := by
    refine takeWord?_eq_some_iff.2 ⟨(headerLine_append name [] value).symm, ?_⟩
    rw [headerLine, List.map_append, hfold]
    decide
  have hown : authorization (headerLine name value) =
      behind? (headerLine name []) inAuthorization value := by
    rw [authorization_eq, valueBehind, htake]
    rfl
  have hshorter (part : List Char) (hpart : part <:+ name) (hne : part ≠ name) :
      authorization (headerLine part value) = none := by
    refine authorization_eq_none (fun c hc => hname c (hpart.subset hc)) fun heq => hne ?_
    have hlength := congrArg List.length (heq.trans hfold.symm)
    rw [List.length_map, List.length_map] at hlength
    exact hpart.eq_of_length hlength
  obtain ⟨value', hhide, hiff⟩ := hide_own isCut_authorization keeps_authorization
    (fun c hc => (marks_notMem_mask c hc).1) (List.nil_append value) hown hshorter
    (authorization_cons (by decide)) (authorization_cons (by decide))
  refine ⟨value', hhide, hiff.trans (or_congr (and_iff_right rfl) (and_iff_left_of_imp ?_))⟩
  rintro rfl
  exact takeWhile_inAuthorization_mask

theorem hide_namedSecret_of_authorization :
    hide namedSecret (headerLine name value) = headerLine name (hide namedSecret value) := by
  refine hide_headerLine (fun part hpart _ => ?_) (namedSecret_cons (by decide))
    (namedSecret_cons (by decide))
  refine namedSecret_eq_none (fun c hc => hname c (hpart.subset hc)) fun word hword heq => ?_
  have hsuffix : word.toList <:+ "authorization".toList := by
    rw [← heq, ← hfold]
    exact hpart.map fold
  exact secretNames_not_authorization word hword hsuffix

end Authorization

/-! ## The header of a named secret -/

/-- The blanks and the quote in front of a secret. -/
def opening (cs : List Char) : List Char :=
  cs.takeWhile Text.isBlank ++ (takeQuote (cs.dropWhile Text.isBlank)).1

/-- What stands behind the blanks and the quote. -/
def opened (cs : List Char) : List Char :=
  (takeQuote (cs.dropWhile Text.isBlank)).2

theorem opening_append_opened (cs : List Char) : opening cs ++ opened cs = cs := by
  rw [opening, opened, List.append_assoc, takeQuote_append, List.takeWhile_append_dropWhile]

theorem opening_of_inSecret (h : ∀ c ∈ cs, inSecret c = true) : opening cs = [] := by
  cases cs with
  | nil => rfl
  | cons c cs =>
    have hc := h c List.mem_cons_self
    simp only [inSecret, Bool.and_eq_true, Bool.not_eq_true', List.contains_eq_mem,
      decide_eq_false_iff_not, List.mem_cons, not_or, String.reduceToList] at hc
    obtain ⟨hblank, hdouble, hsingle, -⟩ := hc
    simp [opening, takeQuote, hblank, hdouble, hsingle]

theorem behindName?_header (name value : List Char) :
    behindName? name (':' :: ' ' :: value) =
      behind? (headerLine name (opening value)) inSecret (opened value) := by
  have hcolon : Text.isBlank ':' = false := by decide
  have hblank : Text.isBlank ' ' = true := by decide
  simp [behindName?, takeQuote, takeRun, hcolon, hblank, headerLine, opening, opened]

theorem opened_of_inSecret (h : ∀ c ∈ cs, inSecret c = true) : opened cs = cs := by
  simpa [opening_of_inSecret h] using opening_append_opened cs

/-- The rule for named secrets at the name of a secret. -/
theorem namedSecret_own {own value : List Char} (hword : word ∈ secretNames)
    (hown : own.map fold = word.toList) :
    namedSecret (headerLine own value) =
      behind? (headerLine own (opening value)) inSecret (opened value) := by
  rw [namedSecret_eq, headerLine, takeName?_append hword hown, Option.bind_some]
  exact behindName?_header own value

/-- A longer end of the name is no name of a secret, as none of them ends with another. -/
theorem namedSecret_longer {front own value : List Char} (hword : word ∈ secretNames)
    (hname : ∀ c ∈ front ++ own, inName c = true) (hown : own.map fold = word.toList)
    (hne : front ≠ []) : namedSecret (headerLine (front ++ own) value) = none := by
  refine namedSecret_eq_none hname fun word' hword' hfold' => ?_
  rw [List.map_append, hown] at hfold'
  obtain rfl := secretNames_suffix_free word hword word' hword' ⟨_, hfold'⟩
  exact hne (List.map_eq_nil_iff.1 (List.append_left_eq_self.1 hfold'))

/-- A shorter end of the name is no name of a secret either. -/
theorem namedSecret_shorter {part own value : List Char} (hword : word ∈ secretNames)
    (hname : ∀ c ∈ own, inName c = true) (hown : own.map fold = word.toList)
    (hpart : part <:+ own) (hne : part ≠ own) : namedSecret (headerLine part value) = none := by
  refine namedSecret_eq_none (fun c hc => hname c (hpart.subset hc)) fun word' hword' hfold' => ?_
  have hsuffix : word'.toList <:+ word.toList := by
    rw [← hfold', ← hown]
    exact hpart.map fold
  obtain rfl := secretNames_suffix_free word' hword' word hword hsuffix
  have hlength := congrArg List.length (hfold'.trans hown.symm)
  rw [List.length_map, List.length_map] at hlength
  exact hne (hpart.eq_of_length hlength)

theorem hide_namedSecret_own {own value : List Char} (hword : word ∈ secretNames)
    (hname : ∀ c ∈ own, inName c = true) (hown : own.map fold = word.toList) :
    hide namedSecret (headerLine own value) = headerLine own mask ↔
      value ≠ [] ∧ ∀ c ∈ value, inSecret c = true := by
  obtain ⟨value', hhide, hiff⟩ := hide_own isCut_namedSecret keeps_namedSecret
    (fun c hc => (marks_notMem_mask c hc).2) (opening_append_opened value)
    (namedSecret_own hword hown) (fun part => namedSecret_shorter hword hname hown)
    (namedSecret_cons (by decide)) (namedSecret_cons (by decide))
  rw [hhide, headerLine_inj, hiff, or_iff_left ?_, and_iff_right_of_imp]
  · exact fun hwhole => opening_of_inSecret hwhole.2
  · rintro ⟨rfl, hrun⟩
    rw [opened_of_inSecret mask_inSecret.2, List.takeWhile_eq_self_iff.2 mask_inSecret.2] at hrun
    exact mask_inSecret.1 hrun

section Named

variable {name value : List Char} (hname : ∀ c ∈ name, inName c = true)
  (hword : word ∈ secretNames) (hfold : word.toList <:+ name.map fold)

include hname hword hfold

theorem hide_authorization_of_named :
    hide authorization (headerLine name value) = headerLine name (hide authorization value) := by
  refine hide_headerLine (fun part hpart _ => ?_) (authorization_cons (by decide))
    (authorization_cons (by decide))
  refine authorization_eq_none (fun c hc => hname c (hpart.subset hc)) fun heq => ?_
  have hpart' : "authorization".toList <:+ name.map fold := heq ▸ hpart.map fold
  have hnot : ∀ word ∈ secretNames, ¬ "authorization".toList <:+ word.toList := by decide
  rcases List.suffix_or_suffix_of_suffix hfold hpart' with h | h
  · exact secretNames_not_authorization word hword h
  · exact hnot word hword h

theorem hide_namedSecret_of_named :
    hide namedSecret (headerLine name value) = headerLine name mask ↔
      value ≠ [] ∧ ∀ c ∈ value, inSecret c = true := by
  obtain ⟨frontFold, heq⟩ := hfold
  obtain ⟨front, own, rfl, -, hown⟩ := List.map_eq_append_iff.1 heq.symm
  have hnone (part : List Char) (hpart : part <:+ front) (hne : part ≠ []) :
      namedSecret (part ++ headerLine own value) = none := by
    rw [append_headerLine]
    refine namedSecret_longer hword (fun c hc => hname c ?_) hown hne
    exact List.mem_append.2 ((List.mem_append.1 hc).imp_left (hpart.subset ·))
  rw [← append_headerLine, ← append_headerLine, hide_append hnone, List.append_cancel_left_eq]
  exact hide_namedSecret_own hword (fun c hc => hname c (List.mem_append_right _ hc)) hown

/-- A value that is made of a secret's characters is not touched before, as it has no blank. -/
theorem hide_named_iff :
    hide namedSecret (hide authorization (headerLine name value)) = headerLine name mask ↔
      value ≠ [] ∧ ∀ c ∈ value, inSecret c = true := by
  have hblank (c : Char) (hc : inSecret c = true) : c ≠ ' ' := by
    rintro rfl
    exact absurd hc (by decide)
  rw [hide_authorization_of_named hname hword hfold, hide_namedSecret_of_named hname hword hfold]
  constructor
  · rintro ⟨hne, hall⟩
    have hself := isCut_authorization.eq_of_hide keeps_authorization
      fun c hc => hblank c (hall c hc)
    rw [hself] at hne hall
    exact ⟨hne, hall⟩
  · rintro ⟨hne, hall⟩
    rw [isCut_authorization.hide_eq_self keeps_authorization fun c hc => hblank c (hall c hc)]
    exact ⟨hne, hall⟩

end Named

/-! ## Every secret header -/

/-- The rule for databases adds nothing to a header: the name has no equals sign. -/
theorem hide_databaseUrl_iff {name : List Char} (hname : ∀ c ∈ name, inName c = true) :
    hide databaseUrl cs = headerLine name mask ↔ cs = headerLine name mask := by
  refine isCut_databaseUrl.hide_eq_iff keeps_databaseUrl fun c hc => ?_
  rintro rfl
  rcases List.mem_append.1 hc with hc | hc
  · exact absurd (hname _ hc) (by decide)
  · exact absurd hc (by decide)

theorem hide_authorization_iff {name value : List Char} (hname : ∀ c ∈ name, inName c = true)
    (hfold : name.map fold = "authorization".toList) :
    hide namedSecret (hide authorization (headerLine name value)) = headerLine name mask ↔
      (value ≠ [] ∧ ∀ c ∈ value, inAuthorization c = true) ∨ value = mask := by
  obtain ⟨value', hhide, hiff⟩ := hide_authorization_own hname hfold value
  rw [hhide, hide_namedSecret_of_authorization hname hfold, headerLine_inj,
    isCut_namedSecret.hide_eq_iff keeps_namedSecret fun c hc => (marks_notMem_mask c hc).2, hiff]

/-- A value that is made of the characters of a secret behind the name. -/
def IsCovered (name value : String) : Prop :=
  value ≠ "" ∧ ∀ c ∈ value.toList, inValueOf name c = true

theorem apply_header (name value : String) :
    apply (name ++ ": " ++ value) = String.ofList (hide databaseUrl (hide namedSecret
      (hide authorization (headerLine name.toList value.toList)))) := by
  simp [apply, rules, headerLine]

theorem apply_header_iff {name value : String} (hname : IsSecretName name) :
    apply (name ++ ": " ++ value) = name ++ ": <redacted>" ↔
      IsCovered name value ∨ value = "<redacted>" := by
  have hmarks : ": <redacted>".toList = ':' :: ' ' :: mask := by decide
  have hline : name ++ ": <redacted>" = String.ofList (headerLine name.toList mask) := by
    rw [← String.toList_inj, String.toList_append, hmarks, String.toList_ofList, headerLine]
  have hmask : value = "<redacted>" ↔ value.toList = mask := String.toList_inj.symm
  have hne : value ≠ "" ↔ value.toList ≠ [] := not_congr String.toList_eq_nil_iff.symm
  rw [apply_header, hline, String.ofList_inj, hide_databaseUrl_iff hname.inName, hmask,
    IsCovered, hne, inValueOf]
  rcases hname.secret with hfold | ⟨word, hword, hfold⟩
  · rw [hide_authorization_iff hname.inName hfold, if_pos hfold]
  · have hother : name.toList.map fold ≠ "authorization".toList := fun heq =>
      secretNames_not_authorization word hword (heq ▸ hfold)
    rw [hide_named_iff hname.inName hword hfold, if_neg hother,
      or_iff_left_of_imp fun heq => heq ▸ mask_inSecret]

/-- The value of a secret header is hidden as a whole, whatever it is, if it is made of the
characters of such a secret, and only then: the rest of another value stays. -/
theorem headers_hidden {name : String} (hname : IsSecretName name) :
    (∀ value value', IsCovered name value → IsCovered name value' →
      apply (name ++ ": " ++ value) = apply (name ++ ": " ++ value')) ∧
    ∀ value, apply (name ++ ": " ++ value) = name ++ ": <redacted>" ↔
      IsCovered name value ∨ value = "<redacted>" := by
  refine ⟨fun value value' h h' => ?_, fun value => apply_header_iff hname⟩
  rw [(apply_header_iff hname).2 (.inl h), (apply_header_iff hname).2 (.inl h')]

theorem headers_hidden_apiKey :
    IsSecretName "X-Api-Key" ∧ IsCovered "X-Api-Key" "s3cr3t" ∧ IsCovered "X-Api-Key" "other" ∧
      apply ("X-Api-Key" ++ ": " ++ "s3cr3t") = apply ("X-Api-Key" ++ ": " ++ "other") ∧
      apply ("X-Api-Key" ++ ": " ++ "s3cr3t") = "X-Api-Key" ++ ": <redacted>" := by
  have hname : IsSecretName "X-Api-Key" :=
    ⟨List.all_eq_true.1 (by decide), .inr ⟨"key", by decide, by decide⟩⟩
  have hsecret : IsCovered "X-Api-Key" "s3cr3t" := ⟨by decide, List.all_eq_true.1 (by decide)⟩
  have hother : IsCovered "X-Api-Key" "other" := ⟨by decide, List.all_eq_true.1 (by decide)⟩
  obtain ⟨halike, hiff⟩ := headers_hidden hname
  exact ⟨hname, hsecret, hother, halike _ _ hsecret hother, (hiff _).2 (.inl hsecret)⟩

/-- A blank ends the secret of a named header: what stands behind it tells two values apart. -/
theorem words_behind_blank_stay :
    IsSecretName "x-api-key" ∧
      apply ("x-api-key" ++ ": " ++ "two words") = "x-api-key: <redacted> words" ∧
      apply ("x-api-key" ++ ": " ++ "two words") ≠ apply ("x-api-key" ++ ": " ++ "other") :=
  ⟨⟨List.all_eq_true.1 (by decide), .inr ⟨"key", by decide, by decide⟩⟩,
    by decide +kernel, by decide +kernel⟩

end Flowgraph.Redaction
