import Flowgraph.Outbound.Redaction
import Mathlib.Data.List.TakeWhile
/-!
# Scanning for secrets

A rule cuts a secret out of the text: what it keeps, the secret and what it leaves are the text
itself (`IsCut`). So scanning a text with a rule can be followed from its front: a part in which the
rule finds nothing stays (`hide_append`), and where it finds a secret the scan goes on behind it
(`IsCut.hide_of_some`). A rule that keeps a mark in front of every secret (`Keeps`) leaves a
text without the mark alone, and a scanned text without the mark has not been changed
(`IsCut.hide_eq_iff`). The three rules cut, and each keeps a mark (`isCut_authorization`,
`isCut_namedSecret`, `isCut_databaseUrl`).
-/

namespace Flowgraph.Redaction

variable {rule : Rule} {p : Char → Prop} {cs ds front kept rest : List Char} {c : Char}
  {word : String} {q : Char → Bool}

/-! ## Rules that cut -/

/-- A rule whose finds are parts of the text: the kept part, the secret, the rest. -/
def IsCut (rule : Rule) : Prop :=
  ∀ ⦃cs kept rest⦄, rule cs = some (kept, rest) →
    ∃ secret, secret ≠ [] ∧ cs = kept ++ (secret ++ rest)

/-- A rule that keeps a character with `p` in front of every secret. -/
def Keeps (p : Char → Prop) (rule : Rule) : Prop :=
  ∀ ⦃cs kept rest⦄, rule cs = some (kept, rest) → ∃ c ∈ kept, p c

theorem IsCut.length_le (hrule : IsCut rule) (h : rule (c :: cs) = some (kept, rest)) :
    rest.length ≤ cs.length := by
  obtain ⟨secret, hne, heq⟩ := hrule h
  have hlength := congrArg List.length heq
  have hpos := List.length_pos_iff.2 hne
  rw [List.length_cons, List.length_append, List.length_append] at hlength
  omega

/-- Scanning over more places than there are changes nothing. -/
theorem IsCut.hideWithin_congr (hrule : IsCut rule) {budget budget' : Nat} {cs : List Char}
    (h : cs.length ≤ budget) (h' : cs.length ≤ budget') :
    hideWithin rule budget cs = hideWithin rule budget' cs := by
  induction budget generalizing budget' cs with
  | zero =>
    obtain rfl := List.eq_nil_of_length_eq_zero (Nat.le_zero.1 h)
    cases budget' <;> rfl
  | succ budget ih =>
    cases cs with
    | nil => cases budget' <;> rfl
    | cons c cs =>
      cases budget' with
      | zero => cases h'
      | succ budget' =>
        rw [List.length_cons, Nat.add_le_add_iff_right] at h h'
        rw [hideWithin, hideWithin]
        cases hfind : rule (c :: cs) with
        | none =>
          dsimp only
          rw [ih h h']
        | some found =>
          have hle := hrule.length_le hfind
          dsimp only
          rw [ih (Nat.le_trans hle h) (Nat.le_trans hle h')]

@[simp] theorem hide_nil : hide rule [] = [] :=
  rfl

theorem hide_cons_of_none (h : rule (c :: cs) = none) :
    hide rule (c :: cs) = c :: hide rule cs := by
  rw [hide, List.length_cons, hideWithin, h]
  rfl

theorem IsCut.hide_of_some (hrule : IsCut rule) (h : rule cs = some (kept, rest)) :
    hide rule cs = kept ++ (mask ++ hide rule rest) := by
  cases cs with
  | nil =>
    obtain ⟨secret, hne, heq⟩ := hrule h
    exact absurd (List.append_eq_nil_iff.1 (List.append_eq_nil_iff.1 heq.symm).2).1 hne
  | cons c cs =>
    rw [hide, List.length_cons, hideWithin, h]
    dsimp only
    rw [hrule.hideWithin_congr (hrule.length_le h) (Nat.le_refl _), hide, List.append_assoc]

/-- A front part in which the rule finds nothing stays as it is. -/
theorem hide_append (h : ∀ part, part <:+ front → part ≠ [] → rule (part ++ rest) = none) :
    hide rule (front ++ rest) = front ++ hide rule rest := by
  induction front with
  | nil => rfl
  | cons c front ih =>
    have hfirst : rule (c :: (front ++ rest)) = none :=
      h (c :: front) List.suffix_rfl (List.cons_ne_nil c front)
    rw [List.cons_append, hide_cons_of_none hfirst,
      ih fun part hpart => h part (hpart.trans (List.suffix_cons c front)), List.cons_append]

theorem IsCut.hide_eq_nil_iff (hrule : IsCut rule) : hide rule cs = [] ↔ cs = [] := by
  refine ⟨fun h => ?_, fun h => by rw [h, hide_nil]⟩
  cases cs with
  | nil => rfl
  | cons c cs =>
    cases hfind : rule (c :: cs) with
    | none =>
      rw [hide_cons_of_none hfind] at h
      cases h
    | some found =>
      rw [hrule.hide_of_some hfind] at h
      cases (List.append_eq_nil_iff.1 (List.append_eq_nil_iff.1 h).2).1

/-- A text without the mark has no secret in it. -/
theorem IsCut.hide_eq_self (hrule : IsCut rule) (hkeeps : Keeps p rule) (h : ∀ c ∈ cs, ¬ p c) :
    hide rule cs = cs := by
  have hnone (part : List Char) (hpart : part <:+ cs) (_ : part ≠ []) :
      rule (part ++ []) = none := by
    rw [List.append_nil, Option.eq_none_iff_forall_ne_some]
    rintro ⟨kept, rest⟩ hfind
    obtain ⟨mark, hmark, hp⟩ := hkeeps hfind
    obtain ⟨secret, -, rfl⟩ := hrule hfind
    exact h mark (hpart.subset (List.mem_append_left _ hmark)) hp
  simpa using hide_append hnone

/-- A scanned text without the mark is the text itself. -/
theorem IsCut.eq_of_hide (hrule : IsCut rule) (hkeeps : Keeps p rule)
    (h : ∀ c ∈ hide rule cs, ¬ p c) : hide rule cs = cs := by
  induction cs with
  | nil => rfl
  | cons c cs ih =>
    cases hfind : rule (c :: cs) with
    | none =>
      rw [hide_cons_of_none hfind] at h ⊢
      rw [ih fun d hd => h d (List.mem_cons_of_mem c hd)]
    | some found =>
      obtain ⟨mark, hmark, hp⟩ := hkeeps hfind
      rw [hrule.hide_of_some hfind] at h
      exact absurd hp (h mark (List.mem_append_left _ hmark))

theorem IsCut.hide_eq_iff (hrule : IsCut rule) (hkeeps : Keeps p rule) (h : ∀ c ∈ ds, ¬ p c) :
    hide rule cs = ds ↔ cs = ds := by
  constructor
  · rintro rfl
    exact (hrule.eq_of_hide hkeeps h).symm
  · rintro rfl
    exact hrule.hide_eq_self hkeeps h

/-! ## Letters in any case -/

/-- What turns into no small letter is none of the capitals. -/
theorem toLower_eq_self (h : c.toLower.isLower = false) : c.toLower = c := by
  unfold Char.toLower at h ⊢
  split
  · next hupper =>
    rw [dif_pos hupper] at h
    have hsmall : (decide (97 ≤ c.val + 32) && decide (c.val + 32 ≤ 122)) = false := h
    have hfirst : 65 ≤ c.val.toNat := UInt32.le_iff_toNat_le.1 hupper.1
    have hlast : c.val.toNat ≤ 90 := UInt32.le_iff_toNat_le.1 hupper.2
    rw [Bool.and_eq_false_iff, decide_eq_false_iff_not, decide_eq_false_iff_not,
      UInt32.le_iff_toNat_le, UInt32.le_iff_toNat_le, UInt32.toNat_add] at hsmall
    have hshifted : (c.val.toNat + 32) % 2 ^ 32 = c.val.toNat + 32 := Nat.mod_eq_of_lt (by omega)
    have hbounds : ¬97 ≤ c.val.toNat + 32 ∨ ¬c.val.toNat + 32 ≤ 122 := by
      rwa [← hshifted]
    omega
  · rfl

/-- What folds to anything but a small letter is that itself. -/
theorem eq_of_fold_eq {d : Char} (hd : d.isLower = false) (h : fold c = d) : c = d := by
  unfold fold at h
  split at h
  · subst h
    cases hd
  · split at h
    · subst h
      cases hd
    · subst h
      exact (toLower_eq_self hd).symm

theorem mem_of_mem_map_fold {d : Char} (hd : d.isLower = false) (h : d ∈ cs.map fold) : d ∈ cs := by
  obtain ⟨c, hc, heq⟩ := List.mem_map.1 h
  exact eq_of_fold_eq hd heq ▸ hc

/-! ## Words at the front -/

theorem takeWord?_eq_some_iff :
    takeWord? word cs = some (kept, rest) ↔
      cs = kept ++ rest ∧ kept.map fold = word.toList := by
  rw [takeWord?]
  constructor
  · intro h
    split at h
    · next hword =>
      cases h
      exact ⟨(List.take_append_drop _ cs).symm, hword⟩
    · cases h
  · rintro ⟨rfl, hword⟩
    have hlength : word.length = kept.length := by
      rw [← String.length_toList, ← hword, List.length_map]
    rw [hlength, List.take_left, List.drop_left, if_pos hword]

/-- Whether a text in front of another cannot take part in the word: neither begins the other. -/
def Clashes (front : List Char) (word : String) : Prop :=
  ¬ front.map fold <+: word.toList ∧ ¬ word.toList <+: front.map fold

instance (front : List Char) (word : String) : Decidable (Clashes front word) :=
  inferInstanceAs (Decidable (_ ∧ _))

theorem takeWord?_of_clashes (h : Clashes front word) :
    takeWord? word (front ++ rest) = none := by
  rw [Option.eq_none_iff_forall_ne_some]
  rintro ⟨taken, behind⟩ hword
  obtain ⟨heq, hfold⟩ := takeWord?_eq_some_iff.1 hword
  have hprefix : word.toList <+: front.map fold ++ rest.map fold := by
    rw [← hfold, ← List.map_append, heq]
    exact (List.prefix_append taken behind).map fold
  rcases List.prefix_or_prefix_of_prefix (List.prefix_append _ _) hprefix with hle | hle
  · exact h.1 hle
  · exact h.2 hle

/-! ## Runs and quotes -/

theorem behind?_eq_some_iff {kept' : List Char} :
    behind? kept q cs = some (kept', rest) ↔
      kept' = kept ∧ cs.takeWhile q ≠ [] ∧ rest = cs.dropWhile q := by
  rw [behind?, takeRun]
  dsimp only
  split
  · next h => exact iff_of_false (by simp) fun hfound => hfound.2.1 (List.isEmpty_iff.1 h)
  · next h =>
    have hne := mt List.isEmpty_iff.2 h
    constructor
    · intro heq
      cases heq
      exact ⟨rfl, hne, rfl⟩
    · rintro ⟨rfl, -, rfl⟩
      rfl

theorem takeQuote_append (cs : List Char) : (takeQuote cs).1 ++ (takeQuote cs).2 = cs := by
  unfold takeQuote
  split
  · split <;> rfl
  · rfl

theorem takeRun_append (q : Char → Bool) (cs : List Char) :
    (takeRun q cs).1 ++ (takeRun q cs).2 = cs :=
  List.takeWhile_append_dropWhile

/-! ## The rules cut -/

/-- The rule for a run of characters with `q` behind a word. -/
def valueBehind (word : String) (q : Char → Bool) : Rule := fun cs => do
  let (kept, rest) ← takeWord? word cs
  behind? kept q rest

theorem authorization_eq : authorization = valueBehind "authorization: " inAuthorization :=
  rfl

theorem valueBehind_eq_some_iff :
    valueBehind word q cs = some (kept, rest) ↔
      ∃ behind, takeWord? word cs = some (kept, behind) ∧
        behind.takeWhile q ≠ [] ∧ rest = behind.dropWhile q := by
  rw [valueBehind, Option.bind_eq_bind, Option.bind_eq_some_iff]
  constructor
  · rintro ⟨⟨taken, behind⟩, hword, hfind⟩
    obtain ⟨rfl, hne, hrest⟩ := behind?_eq_some_iff.1 hfind
    exact ⟨behind, hword, hne, hrest⟩
  · rintro ⟨behind, hword, hne, hrest⟩
    exact ⟨(kept, behind), hword, behind?_eq_some_iff.2 ⟨rfl, hne, hrest⟩⟩

theorem isCut_valueBehind : IsCut (valueBehind word q) := by
  intro cs kept rest h
  obtain ⟨behind, hword, hne, rfl⟩ := valueBehind_eq_some_iff.1 h
  refine ⟨behind.takeWhile q, hne, ?_⟩
  rw [List.takeWhile_append_dropWhile]
  exact (takeWord?_eq_some_iff.1 hword).1

theorem isCut_authorization : IsCut authorization :=
  isCut_valueBehind

theorem isCut_databaseUrl : IsCut databaseUrl :=
  isCut_valueBehind

theorem keeps_valueBehind {d : Char} (hd : d.isLower = false) (h : d ∈ word.toList) :
    Keeps (· = d) (valueBehind word q) := by
  intro cs kept rest hfind
  obtain ⟨behind, hword, -, -⟩ := valueBehind_eq_some_iff.1 hfind
  rw [← (takeWord?_eq_some_iff.1 hword).2] at h
  exact ⟨d, mem_of_mem_map_fold hd h, rfl⟩

/-- What the rule for named secrets does behind a name. -/
def behindName? (name cs : List Char) : Option (List Char × List Char) :=
  let (quoteBefore, rest) := takeQuote cs
  let (blanksBefore, rest) := takeRun Text.isBlank rest
  match rest with
  | mark :: rest =>
    if mark = '=' ∨ mark = ':' then
      let (blanksBehind, rest) := takeRun Text.isBlank rest
      let (quoteBehind, rest) := takeQuote rest
      behind? (name ++ quoteBefore ++ blanksBefore ++ mark :: (blanksBehind ++ quoteBehind))
        inSecret rest
    else none
  | [] => none

/-- The name of a secret at the front. -/
def takeName? (cs : List Char) : Option (List Char × List Char) :=
  secretNames.findSome? fun name => takeWord? name cs

theorem namedSecret_eq (cs : List Char) :
    namedSecret cs = (takeName? cs).bind fun (name, behind) => behindName? name behind :=
  rfl

theorem namedSecret_eq_some_iff {found : List Char × List Char} :
    namedSecret cs = some found ↔
      ∃ name behind, takeName? cs = some (name, behind) ∧ behindName? name behind = some found := by
  rw [namedSecret_eq, Option.bind_eq_some_iff, Prod.exists]

/-- Between a name and its secret stand an equals sign or a colon, blanks and quotes. -/
theorem behindName?_parts {name : List Char} (h : behindName? name cs = some (kept, rest)) :
    ∃ between secret, (∃ c ∈ between, c = '=' ∨ c = ':') ∧ secret ≠ [] ∧
      kept = name ++ between ∧ cs = between ++ (secret ++ rest) := by
  unfold behindName? at h
  dsimp only at h
  split at h
  · next mark behind hmark =>
    split at h
    · next hsep =>
      obtain ⟨rfl, hne, rfl⟩ := behind?_eq_some_iff.1 h
      have hbefore := takeRun_append Text.isBlank (takeQuote cs).2
      have hbehind := takeRun_append Text.isBlank behind
      rw [hmark] at hbefore
      refine ⟨(takeQuote cs).1 ++ ((takeRun Text.isBlank (takeQuote cs).2).1 ++
        mark :: ((takeRun Text.isBlank behind).1 ++
          (takeQuote (takeRun Text.isBlank behind).2).1)), _, ⟨mark, by simp, hsep⟩, hne, ?_, ?_⟩
      · simp only [List.append_assoc]
      · rw [List.takeWhile_append_dropWhile, List.append_assoc, List.append_assoc,
          List.cons_append, List.append_assoc, takeQuote_append, hbehind, hbefore,
          takeQuote_append]
    · cases h
  · cases h

theorem takeName?_eq_some (h : takeName? cs = some (kept, rest)) :
    ∃ word ∈ secretNames, takeWord? word cs = some (kept, rest) :=
  List.exists_of_findSome?_eq_some h

theorem isCut_namedSecret : IsCut namedSecret := by
  intro cs kept rest h
  obtain ⟨name, behind, hname, hbehind⟩ := namedSecret_eq_some_iff.1 h
  obtain ⟨word, -, hword⟩ := takeName?_eq_some hname
  obtain ⟨between, secret, -, hne, rfl, rfl⟩ := behindName?_parts hbehind
  refine ⟨secret, hne, ?_⟩
  rw [(takeWord?_eq_some_iff.1 hword).1, List.append_assoc]

theorem keeps_authorization : Keeps (· = ' ') authorization :=
  keeps_valueBehind (by decide) (by decide)

theorem keeps_databaseUrl : Keeps (· = '=') databaseUrl :=
  keeps_valueBehind (by decide) (by decide)

theorem keeps_namedSecret : Keeps (fun c => c = '=' ∨ c = ':') namedSecret := by
  intro cs kept rest h
  obtain ⟨name, behind, -, hbehind⟩ := namedSecret_eq_some_iff.1 h
  obtain ⟨between, secret, ⟨mark, hmark, hsep⟩, -, rfl, -⟩ := behindName?_parts hbehind
  exact ⟨mark, List.mem_append_right _ hmark, hsep⟩

end Flowgraph.Redaction
