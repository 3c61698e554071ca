import Flowgraph.Outbound.Call
import Flowgraph.Proofs.Keyed
import Flowgraph.Proofs.Text.Ends
import Flowgraph.Proofs.Text.Replacing
import Flowgraph.Proofs.Url.Segments
/-!
# Filling the path of a call

The texts of path parameters are encoded before they are written, so that only letters, digits and
percent signs come into a path. Filling a path therefore commutes with everything that takes the
path apart (`fills_fillText`): with trimming its ends, with cutting it at a mark, and so with
splitting it into segments (`Cuts.splitOnP`), however the placeholders stand in it, inside each
other or not.
-/

namespace Flowgraph

open Text Url

/-- The text that a parameter takes the place of. -/
def placeholder (name : String) : List Char :=
  '\x7b' :: (name.toList ++ ['\x7d'])

/-- A text with the placeholders of named texts filled, one name after another. -/
def fillText (parameters : List (String × String)) (cs : List Char) : List Char :=
  parameters.foldl
    (fun cs (name, s) => replaceAll (placeholder name) (Percent.encodeAll s).toList cs) cs

/-- A path whose parameters are texts. -/
theorem fillPath_texts (template : String) (parameters : List (String × String)) :
    fillPath template (Keyed.mapValues Value.text parameters) =
      String.ofList (fillText parameters template.toList) := by
  rw [fillPath, Keyed.mapValues, List.foldl_map]
  rfl

/-! ## Characters -/

/-- Whether a character ends a segment of a path or the path. -/
def isMark (c : Char) : Bool :=
  isSeparator c || isTailMark c

/-- Whether a character may stand at the ends of what is written for a placeholder, or of the
placeholder. -/
def isSolid (c : Char) : Bool :=
  Percent.isAlphanumeric c || c = '%' || c = '\x7b' || c = '\x7d'

theorem toNat_of_isSolid {c : Char} (h : isSolid c = true) : 37 ≤ c.toNat ∧ c.toNat ≤ 125 := by
  simp only [isSolid, Bool.or_eq_true, decide_eq_true_eq] at h
  rcases h with ((h | rfl) | rfl) | rfl
  · have hranges : ((decide ('A'.val ≤ c.val ∧ c.val ≤ 'Z'.val) ||
        ('a'.val ≤ c.val && c.val ≤ 'z'.val)) || ('0'.val ≤ c.val && c.val ≤ '9'.val)) = true := h
    have hcodes : ((65 ≤ c.toNat ∧ c.toNat ≤ 90) ∨ (97 ≤ c.toNat ∧ c.toNat ≤ 122)) ∨
        (48 ≤ c.toNat ∧ c.toNat ≤ 57) := by
      simpa [UInt32.le_iff_toNat_le] using hranges
    omega
  all_goals decide

theorem isBlank_of_isSolid {c : Char} (h : isSolid c = true) : isBlank c = false := by
  have hrange := toNat_of_isSolid h
  simp only [isBlank, blankRanges, List.any_cons, List.any_nil, Bool.or_false,
    Bool.or_eq_false_iff, Bool.and_eq_false_iff, decide_eq_false_iff_not]
  omega

theorem isEdge_of_isSolid {c : Char} (h : isSolid c = true) : isEdge c = false := by
  have hrange := toNat_of_isSolid h
  rw [isEdge, decide_eq_false_iff_not]
  omega

theorem isMark_of_isSolid {c : Char} (h : isSolid c = true) : isMark c = false := by
  refine Bool.eq_false_iff.2 fun hmark => ?_
  simp only [isMark, isSeparator, isTailMark, Bool.or_eq_true, decide_eq_true_eq] at hmark
  rcases hmark with (rfl | rfl) | (rfl | rfl) <;> exact absurd h (by decide)

theorem isSolid_of_mem_encodeAll {s : String} {c : Char} (h : c ∈ (Percent.encodeAll s).toList) :
    isSolid c = true := by
  have hdigit : ∀ n < 16, isSolid (Percent.upperHexDigit n) = true := by decide
  rw [Percent.encodeAll, String.toList_ofList, Percent.encode, List.mem_flatMap] at h
  obtain ⟨d, -, h⟩ := h
  rw [Percent.encodeChar] at h
  split at h
  · next hsafe =>
    rw [List.mem_singleton.1 h, isSolid, hsafe]
    rfl
  · obtain ⟨b, -, h⟩ := List.mem_flatMap.1 h
    have hb := b.toNat_lt
    simp only [Percent.encodeOctet, List.mem_cons, List.not_mem_nil, or_false] at h
    rcases h with rfl | rfl | rfl
    · rfl
    · exact hdigit _ (by omega)
    · exact hdigit _ (by omega)

theorem encodeAll_ne_nil {s : String} (h : s ≠ "") : (Percent.encodeAll s).toList ≠ [] := by
  have hlist : s.toList ≠ [] := fun hnil => h (String.toList_eq_nil_iff.1 hnil)
  obtain ⟨c, rest, hc⟩ := List.exists_cons_of_ne_nil hlist
  have hchar : Percent.encodeChar Percent.isAlphanumeric c ≠ [] := by
    rw [Percent.encodeChar]
    split
    · exact List.cons_ne_nil _ _
    · obtain ⟨b, more, hb⟩ := List.exists_cons_of_ne_nil (String.utf8EncodeChar_ne_nil (c := c))
      rw [hb]
      exact List.cons_ne_nil _ _
  rw [Percent.encodeAll, String.toList_ofList, hc]
  exact List.append_ne_nil_of_left_ne_nil hchar _

/-! ## What filling commutes with -/

/-- A change of texts that works on the two sides of a mark apart, and adds none. -/
structure Cuts (change : List Char → List Char) : Prop where
  nil : change [] = []
  cut : ∀ {c}, isMark c = true → ∀ as bs, change (as ++ c :: bs) = change as ++ c :: change bs
  clear : ∀ {c}, isMark c = true → ∀ {cs}, c ∈ change cs → c ∈ cs

/-- A filling of texts: it works on the two sides of a mark apart, and at both ends of a text it
leaves alone what cannot belong to a placeholder. -/
structure Fills (fill : List Char → List Char) : Prop extends Cuts fill where
  ne_nil : ∀ {cs}, cs ≠ [] → fill cs ≠ []
  cons : ∀ {c}, isSolid c = false → ∀ cs, fill (c :: cs) = c :: fill cs
  concat : ∀ {c}, isSolid c = false → ∀ cs, fill (cs ++ [c]) = fill cs ++ [c]
  head : ∀ {c}, isSolid c = false → ∀ {cs}, (fill cs).head? = some c → cs.head? = some c
  last : ∀ {c}, isSolid c = false → ∀ {cs}, (fill cs).getLast? = some c → cs.getLast? = some c

namespace Cuts

variable {change : List Char → List Char}

theorem isMark_of_isTailMark {c : Char} (h : isTailMark c = true) : isMark c = true := by
  rw [isMark, h, Bool.or_true]

theorem isMark_of_isSeparator {c : Char} (h : isSeparator c = true) : isMark c = true := by
  rw [isMark, h, Bool.true_or]

theorem cons (h : Cuts change) {c : Char} (hc : isMark c = true) (cs : List Char) :
    change (c :: cs) = c :: change cs := by
  have hcut := h.cut hc [] cs
  rwa [h.nil] at hcut

/-- The marks of a text are those that it has afterwards. -/
theorem mem_iff (h : Cuts change) {c : Char} (hc : isMark c = true) {cs : List Char} :
    c ∈ change cs ↔ c ∈ cs := by
  refine ⟨h.clear hc, fun hmem => ?_⟩
  obtain ⟨as, bs, rfl⟩ := List.append_of_mem hmem
  rw [h.cut hc]
  exact List.mem_append_right _ List.mem_cons_self

section

variable {p : Char → Bool} (hp : ∀ c, p c = false → isMark c = true)

include hp

/-- A text without some of the marks has none of them afterwards. -/
theorem forall_mem (h : Cuts change) {cs : List Char} (hcs : ∀ c ∈ cs, p c = true) :
    ∀ c ∈ change cs, p c = true := by
  intro c hc
  cases hpc : p c with
  | true => rfl
  | false =>
    have hfree := hcs c (h.clear (hp c hpc) hc)
    rw [hpc] at hfree
    cases hfree

/-- Up to the first of some marks a text is changed apart from the rest. -/
theorem takeWhile_dropWhile (h : Cuts change) (cs : List Char) :
    (change cs).takeWhile p = change (cs.takeWhile p) ∧
      (change cs).dropWhile p = change (cs.dropWhile p) := by
  cases hfind : cs.find? fun c => !p c with
  | none =>
    have hcs : ∀ c ∈ cs, p c = true := fun c hc => by simpa using List.find?_eq_none.1 hfind c hc
    have hchange := h.forall_mem hp hcs
    rw [List.takeWhile_eq_self_iff.2 hcs, List.takeWhile_eq_self_iff.2 hchange,
      List.dropWhile_eq_nil_iff.2 hcs, List.dropWhile_eq_nil_iff.2 hchange, h.nil]
    exact ⟨rfl, rfl⟩
  | some c =>
    obtain ⟨hc, as, bs, rfl, has⟩ := List.find?_eq_some_iff_append.1 hfind
    have hpc : p c = false := by simpa using hc
    have has : ∀ a ∈ as, p a = true := by simpa using has
    have hchange := h.forall_mem hp has
    rw [h.cut (hp c hpc), takeWhile_append_cons hpc, takeWhile_append_cons hpc,
      dropWhile_append_cons hpc, dropWhile_append_cons hpc, List.takeWhile_eq_self_iff.2 has,
      List.takeWhile_eq_self_iff.2 hchange, List.dropWhile_eq_nil_iff.2 has,
      List.dropWhile_eq_nil_iff.2 hchange, List.nil_append, List.nil_append,
      h.cons (hp c hpc)]
    exact ⟨rfl, rfl⟩

end

theorem pathText (h : Cuts change) (cs : List Char) :
    pathText (change cs) = change (pathText cs) :=
  (h.takeWhile_dropWhile (fun _ hc => isMark_of_isTailMark (by simpa using hc)) cs).1

theorem tailText (h : Cuts change) (cs : List Char) :
    tailText (change cs) = change (tailText cs) :=
  (h.takeWhile_dropWhile (fun _ hc => isMark_of_isTailMark (by simpa using hc)) cs).2

/-- A text has the same first mark afterwards. -/
theorem head?_tailText (h : Cuts change) (cs : List Char) :
    (Url.tailText (change cs)).head? = (Url.tailText cs).head? := by
  rw [h.tailText]
  cases htail : Url.tailText cs with
  | nil => rw [h.nil]
  | cons c rest =>
    have hmark : isMark c = true := by
      rcases eq_of_tailText_eq_cons htail with rfl | rfl <;> rfl
    rw [h.cons hmark]
    rfl

/-- Each segment is changed apart from the others. -/
theorem splitOnP (h : Cuts change) (cs : List Char) :
    (change cs).splitOnP isSeparator = (cs.splitOnP isSeparator).map change := by
  cases hfind : cs.find? isSeparator with
  | none =>
    have hcs : ∀ c ∈ cs, (!isSeparator c) = true := fun c hc => by
      simpa using List.find?_eq_none.1 hfind c hc
    have hchange : ∀ c ∈ change cs, (!isSeparator c) = true :=
      h.forall_mem (fun c hc => isMark_of_isSeparator (by simpa using hc)) hcs
    rw [List.splitOnP_eq_singleton (by simpa using hchange),
      List.splitOnP_eq_singleton (by simpa using hcs), List.map_singleton]
  | some c =>
    obtain ⟨hc, as, bs, hcs, -⟩ := List.find?_eq_some_iff_append.1 hfind
    rw [hcs, h.cut (isMark_of_isSeparator hc), List.splitOnP_append_cons _ _ hc,
      List.splitOnP_append_cons _ _ hc, List.map_append, h.splitOnP as, h.splitOnP bs]
termination_by cs.length
decreasing_by all_goals rw [hcs, List.length_append, List.length_cons]; omega

/-- Dropping characters that are not marks leaves a change what it is. -/
theorem filter (h : Cuts change) {p : Char → Bool} (hp : ∀ c, isMark c = true → p c = true) :
    Cuts fun cs => (change cs).filter p where
  nil := by rw [h.nil, List.filter_nil]
  cut hc as bs := by
    rw [h.cut hc, List.filter_append, List.filter_cons_of_pos (hp _ hc)]
  clear hc _ hmem := h.clear hc (List.mem_of_mem_filter hmem)

end Cuts

namespace Fills

variable {fill : List Char → List Char} {p : Char → Bool}

section

variable (hp : ∀ c, isSolid c = true → p c = false)

include hp

theorem isSolid_eq_false {c : Char} (hc : p c = true) : isSolid c = false :=
  Bool.eq_false_iff.2 fun hsolid => Bool.false_ne_true ((hp c hsolid).symm.trans hc)

theorem dropWhile (h : Fills fill) (cs : List Char) :
    (fill cs).dropWhile p = fill (cs.dropWhile p) := by
  induction cs with
  | nil => rw [List.dropWhile_nil, h.nil, List.dropWhile_nil]
  | cons c rest ih =>
    cases hc : p c with
    | true =>
      rw [h.cons (isSolid_eq_false hp hc), List.dropWhile_cons_of_pos hc,
        List.dropWhile_cons_of_pos hc, ih]
    | false =>
      rw [List.dropWhile_cons_of_neg (ne_true_of_eq_false hc)]
      obtain ⟨d, more, hd⟩ := List.exists_cons_of_ne_nil (h.ne_nil (List.cons_ne_nil c rest))
      have hpd : p d = false := Bool.eq_false_iff.2 fun hpd => by
        have hhead := h.head (isSolid_eq_false hp hpd) (by rw [hd]; rfl)
        cases hhead
        exact Bool.false_ne_true (hc.symm.trans hpd)
      rw [hd, List.dropWhile_cons_of_neg (ne_true_of_eq_false hpd)]

theorem dropEndWhile (h : Fills fill) (cs : List Char) :
    dropEndWhile p (fill cs) = fill (dropEndWhile p cs) := by
  induction cs using List.reverseRecOn with
  | nil => rw [h.nil]; exact h.nil.symm
  | append_singleton rest c ih =>
    rw [dropEndWhile_concat]
    cases hc : p c with
    | true =>
      rw [h.concat (isSolid_eq_false hp hc), dropEndWhile_concat, if_pos hc, if_pos rfl, ih]
    | false =>
      rw [if_neg Bool.false_ne_true]
      have hne := h.ne_nil (List.append_ne_nil_of_right_ne_nil rest (List.cons_ne_nil c []))
      obtain ⟨more, d, hd⟩ := List.eq_nil_or_concat' (fill (rest ++ [c])) |>.resolve_left hne
      have hpd : p d = false := Bool.eq_false_iff.2 fun hpd => by
        have hlast := h.last (isSolid_eq_false hp hpd)
          (by rw [hd, List.getLast?_concat])
        rw [List.getLast?_concat] at hlast
        cases hlast
        exact Bool.false_ne_true (hc.symm.trans hpd)
      rw [hd, dropEndWhile_concat, if_neg (ne_true_of_eq_false hpd)]

end

theorem trimBoth (h : Fills fill) (cs : List Char) : trimBoth (fill cs) = fill (trimBoth cs) := by
  rw [Text.trimBoth, trimStart, h.dropWhile (fun _ => isBlank_of_isSolid),
    h.dropEndWhile (fun _ => isBlank_of_isSolid), Text.trimBoth, trimStart]

/-! ## Filling the placeholders of named texts -/

theorem id : Fills fun cs => cs where
  nil := rfl
  cut _ _ _ := rfl
  clear _ _ h := h
  ne_nil h := h
  cons _ _ := rfl
  concat _ _ := rfl
  head _ _ h := h
  last _ _ h := h

theorem comp {next : List Char → List Char} (hnext : Fills next) (h : Fills fill) :
    Fills fun cs => next (fill cs) where
  nil := by rw [h.nil, hnext.nil]
  cut hc as bs := by rw [h.cut hc, hnext.cut hc]
  clear hc _ hmem := h.clear hc (hnext.clear hc hmem)
  ne_nil hne := hnext.ne_nil (h.ne_nil hne)
  cons hc cs := by rw [h.cons hc, hnext.cons hc]
  concat hc cs := by rw [h.concat hc, hnext.concat hc]
  head hc _ hhead := h.head hc (hnext.head hc hhead)
  last hc _ hlast := h.last hc (hnext.last hc hlast)

end Fills

/-- Named texts that may be filled in: no name has a mark in it, and no text is empty. -/
structure Fillable (parameters : List (String × String)) : Prop where
  names : ∀ parameter ∈ parameters, ∀ c ∈ parameter.1.toList, isMark c = false
  texts : ∀ parameter ∈ parameters, parameter.2 ≠ ""

theorem fills_replaceAll {name s : String} (hname : ∀ c ∈ name.toList, isMark c = false)
    (hs : s ≠ "") :
    Fills (replaceAll (placeholder name) (Percent.encodeAll s).toList) := by
  have hne : placeholder name ≠ [] := List.cons_ne_nil _ _
  have hreplacement := encodeAll_ne_nil hs
  have hwritten : ∀ {c}, isSolid c = false → c ∉ (Percent.encodeAll s).toList := fun hc hmem =>
    Bool.false_ne_true (hc.symm.trans (isSolid_of_mem_encodeAll hmem))
  have hmark : ∀ {c}, isMark c = true → isSolid c = false := fun hc =>
    Bool.eq_false_iff.2 fun hsolid => Bool.false_ne_true ((isMark_of_isSolid hsolid).symm.trans hc)
  have hfree : ∀ {c}, isMark c = true → c ∉ placeholder name := by
    intro c hc hmem
    rw [placeholder, List.mem_cons, List.mem_append, List.mem_singleton] at hmem
    rcases hmem with rfl | hmem | rfl
    · exact absurd hc (by decide)
    · exact Bool.false_ne_true ((hname c hmem).symm.trans hc)
    · exact absurd hc (by decide)
  have hfirst : ∀ {c}, isSolid c = false → (placeholder name).head? ≠ some c := by
    intro c hc hhead
    cases hhead
    exact absurd hc (by decide)
  have hlast : ∀ {c}, isSolid c = false → (placeholder name).getLast? ≠ some c := by
    intro c hc hlast
    rw [placeholder, ← List.cons_append, List.getLast?_concat] at hlast
    cases hlast
    exact absurd hc (by decide)
  exact {
    nil := rfl
    cut hc as bs := replaceAll_append_cons hne (hfree hc) as bs
    clear hc _ hmem := (mem_replaceFrom hmem).resolve_left (hwritten (hmark hc))
    ne_nil := replaceAll_ne_nil hreplacement
    cons hc cs := replaceAll_cons hne (hfirst hc)
    concat hc cs := replaceAll_concat hne (hlast hc)
    head hc _ h := (head?_replaceAll hreplacement h).resolve_left (hwritten hc)
    last hc _ h := (getLast?_replaceFrom hreplacement h).resolve_left (hwritten hc) }

/-- **Filling the placeholders of named texts** is a filling. -/
theorem fills_fillText {parameters : List (String × String)} (h : Fillable parameters) :
    Fills (fillText parameters) := by
  induction parameters with
  | nil => exact Fills.id
  | cons parameter rest ih =>
    have hrest : Fillable rest :=
      ⟨fun p hp => h.names p (List.mem_cons_of_mem _ hp),
        fun p hp => h.texts p (List.mem_cons_of_mem _ hp)⟩
    exact (ih hrest).comp (fills_replaceAll (h.names parameter List.mem_cons_self)
      (h.texts parameter List.mem_cons_self))

/-- A text in which no placeholder of the names occurs. -/
def IsFree (names : List String) (cs : List Char) : Prop :=
  ∀ name ∈ names, ¬placeholder name <:+: cs

/-- Nothing is filled in where no placeholder occurs. -/
theorem fillText_of_isFree {parameters : List (String × String)} {cs : List Char}
    (h : IsFree (Keyed.keys parameters) cs) : fillText parameters cs = cs := by
  induction parameters with
  | nil => rfl
  | cons parameter rest ih =>
    change fillText rest (replaceAll _ _ cs) = cs
    rw [replaceAll_eq_self (h parameter.1 List.mem_cons_self)]
    exact ih fun name hname => h name (List.mem_cons_of_mem _ hname)

end Flowgraph
