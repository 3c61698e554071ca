import Flowgraph.Registry.Catalog
import Mathlib.Data.List.Induction
import Mathlib.Data.List.Nodup
/-!
# Registering one name more than once

A name that is registered again goes to the newcomer only if the newcomer refines the incumbent,
that is, if its lineage has the qualified name of the incumbent (`holder`). Where lineages are
closed (`Closed`), as those of derived types are (`closed_of_isDerived`), refinement is transitive.
Then the order in which the members of a chain are registered does not matter: the most derived of
them has the name in the end. And whatever is registered in whatever order, the final holder of a
name descends from every incumbent that lost it on the way (`override_resolution`).

The first half rests on the invariant that the incumbent is the most derived registration so far
(`IsMostDerived.register`), the second on the invariant that descent from an ancestor is never lost
(`descends_foldl`).
-/

namespace Flowgraph.Catalog

variable {α : Type}

/-! ## One registration -/

/-- Who has a name when a newcomer was registered under it. -/
def holder (incumbent : Option (Registration α)) (newcomer : Registration α) : Registration α :=
  match incumbent with
  | some incumbent => if refines newcomer incumbent then newcomer else incumbent
  | none => newcomer

@[simp] theorem holder_none (newcomer : Registration α) : holder none newcomer = newcomer := rfl

theorem holder_some (incumbent newcomer : Registration α) :
    holder (some incumbent) newcomer =
      if refines newcomer incumbent then newcomer else incumbent := rfl

/-- A registration settles its own name alone. -/
theorem get?_insert (catalog : Catalog α) (newcomer : Registration α) (name : String) :
    (catalog.insert newcomer).get? name =
      if newcomer.info.name = name then some (holder (catalog.get? name) newcomer)
      else catalog.get? name := by
  by_cases hname : newcomer.info.name = name
  · subst hname
    rw [if_pos rfl]
    cases hget : catalog.get? newcomer.info.name with
    | none => simp [insert, hget, get?_replace]
    | some incumbent =>
      rw [holder_some]
      cases hrefines : refines newcomer incumbent with
      | true => exact get?_insert_of_refines hget hrefines
      | false => rw [get?_insert_of_not_refines hget hrefines, hget]; rfl
  · rw [if_neg hname]
    have hreplace : (catalog.replace newcomer).get? name = catalog.get? name :=
      (get?_replace ..).trans (if_neg hname)
    unfold insert
    split
    · split
      · exact hreplace
      · rfl
    · exact hreplace

theorem refines_iff {newcomer incumbent : Registration α} :
    refines newcomer incumbent = true ↔
      incumbent.info.qualifiedName ∈ newcomer.info.lineage := by
  rw [refines, List.contains_iff_mem]

/-! ## Closed lineages -/

/-- Whether a registration that refines another one has all ancestors of that one. -/
def Closed (registrations : List (Registration α)) : Prop :=
  ∀ a ∈ registrations, ∀ b ∈ registrations, refines a b = true → b.info.lineage ⊆ a.info.lineage

/-- Whether types are told apart by their qualified names, and each of them is derived from another
one or has no ancestors. -/
structure IsDerived (types : List TypeInfo) : Prop where
  identified : ∀ a ∈ types, ∀ b ∈ types, a.qualifiedName = b.qualifiedName → a = b
  derived : ∀ type ∈ types, type.lineage = [] ∨
    ∃ info : TypeInfo, ∃ parent ∈ types, type = info.derive parent

theorem IsDerived.lineage_subset {types : List TypeInfo} (h : IsDerived types) {a b : TypeInfo}
    (ha : a ∈ types) (hb : b ∈ types) (hmem : b.qualifiedName ∈ a.lineage) :
    b.lineage ⊆ a.lineage := by
  -- The induction goes up from `a` to `b`, by the number of ancestors that are left.
  induction hlength : a.lineage.length generalizing a with
  | zero =>
    rw [List.length_eq_zero_iff] at hlength
    rw [hlength] at hmem
    exact absurd hmem List.not_mem_nil
  | succ length ih =>
    obtain hnone | ⟨info, parent, hparent, rfl⟩ := h.derived a ha
    · rw [hnone] at hmem
      exact absurd hmem List.not_mem_nil
    · rw [TypeInfo.derive, List.length_cons, Nat.add_right_cancel_iff] at hlength
      have htail : parent.lineage ⊆ (info.derive parent).lineage := List.subset_cons_self _ _
      obtain hself | hmem := List.mem_cons.1 hmem
      · rw [h.identified b hb parent hparent hself]
        exact htail
      · exact List.Subset.trans (ih hparent hmem hlength) htail

/-- The lineages of derived types are closed. -/
theorem closed_of_isDerived {types : List TypeInfo} (h : IsDerived types)
    {registrations : List (Registration α)}
    (hmem : ∀ registration ∈ registrations, registration.info ∈ types) : Closed registrations :=
  fun a ha b hb hrefines => h.lineage_subset (hmem a ha) (hmem b hb) (refines_iff.1 hrefines)

/-! ## Chains -/

/-- Whether registrations of different qualified names are totally ordered by refinement. -/
structure IsChain (registrations : List (Registration α)) : Prop where
  closed : Closed registrations
  distinct : (registrations.map fun registration => registration.info.qualifiedName).Nodup
  total : ∀ a ∈ registrations, ∀ b ∈ registrations,
    a.info.qualifiedName ≠ b.info.qualifiedName → refines a b = true ∨ refines b a = true
  asymm : ∀ a ∈ registrations, ∀ b ∈ registrations,
    a.info.qualifiedName ≠ b.info.qualifiedName → refines a b = true → refines b a = false

/-- Whether a registration is one of several and refines all others. -/
def IsMostDerived (registrations : List (Registration α)) (top : Registration α) : Prop :=
  top ∈ registrations ∧ ∀ other ∈ registrations, other = top ∨ refines top other = true

section Chain

variable {chain done : List (Registration α)} {top newcomer : Registration α}

/-- **The incumbent is the most derived registration so far**, one registration after another. -/
theorem IsMostDerived.register (hchain : IsChain chain) (hdone : done ⊆ chain)
    (hnew : newcomer ∈ chain) (htop : IsMostDerived done top) :
    IsMostDerived (done ++ [newcomer]) (holder (some top) newcomer) := by
  have htopmem : top ∈ chain := hdone htop.1
  rw [holder_some]
  split
  · next hrefines =>
    refine ⟨by simp, fun other hother => ?_⟩
    rw [List.mem_append, List.mem_singleton] at hother
    obtain hother | rfl := hother
    · obtain rfl | hbelow := htop.2 other hother
      · exact .inr hrefines
      · have hsubset := hchain.closed newcomer hnew top htopmem hrefines
        exact .inr (refines_iff.2 (hsubset (refines_iff.1 hbelow)))
    · exact .inl rfl
  · next hrefines =>
    refine ⟨List.mem_append_left _ htop.1, fun other hother => ?_⟩
    rw [List.mem_append, List.mem_singleton] at hother
    obtain hother | rfl := hother
    · exact htop.2 other hother
    · by_cases hsame : other.info.qualifiedName = top.info.qualifiedName
      · exact .inl (List.inj_on_of_nodup_map hchain.distinct hnew htopmem hsame)
      · exact .inr ((hchain.total other hnew top htopmem hsame).resolve_left hrefines)

/-- The most derived member of a chain has the name after any order of registrations. -/
theorem exists_isMostDerived_foldl {name : String} {catalog : Catalog α}
    (hfree : catalog.get? name = none) (hchain : IsChain chain)
    (hname : ∀ registration ∈ chain, registration.info.name = name) (hdone : done ⊆ chain)
    (hne : done ≠ []) :
    ∃ top, IsMostDerived done top ∧ (done.foldl insert catalog).get? name = some top := by
  induction done using List.reverseRecOn with
  | nil => exact absurd rfl hne
  | append_singleton earlier newcomer ih =>
    have hnew : newcomer ∈ chain := hdone (by simp)
    have hearlier : earlier ⊆ chain := fun _ hmem => hdone (List.mem_append_left _ hmem)
    rw [List.foldl_append, List.foldl_cons, List.foldl_nil, get?_insert,
      if_pos (hname newcomer hnew)]
    cases earlier with
    | nil => exact ⟨newcomer, ⟨by simp, by simp⟩, by rw [List.foldl_nil, hfree]; rfl⟩
    | cons first rest =>
      obtain ⟨top, htop, hget⟩ := ih hearlier (List.cons_ne_nil _ _)
      rw [hget]
      exact ⟨_, htop.register hchain hearlier hnew, rfl⟩

/-- A chain has one most derived member. -/
theorem IsMostDerived.eq (hchain : IsChain chain) {other : Registration α}
    (htop : IsMostDerived chain top) (hother : IsMostDerived chain other) : other = top := by
  by_cases hname : top.info.qualifiedName = other.info.qualifiedName
  · exact List.inj_on_of_nodup_map hchain.distinct hother.1 htop.1 hname.symm
  · have hbelow : refines top other = true :=
      (htop.2 other hother.1).resolve_left fun hsame => hname (by rw [hsame])
    have habove : refines other top = true :=
      (hother.2 top htop.1).resolve_left fun hsame => hname (by rw [hsame])
    rw [hchain.asymm top htop.1 other hother.1 hname hbelow] at habove
    cases habove

end Chain

/-! ## Replaced incumbents -/

/-- Whether a registration takes the name of an incumbent. -/
def Replaces (catalog : Catalog α) (newcomer incumbent : Registration α) : Prop :=
  catalog.get? newcomer.info.name = some incumbent ∧ refines newcomer incumbent = true

/-- **Descent is never lost**: if the holder of a name descends from a type, then so do all later
ones. -/
theorem descends_foldl {registrations later : List (Registration α)} {catalog : Catalog α}
    {name ancestor : String} {entry : Registration α} (hclosed : Closed registrations)
    (hlater : later ⊆ registrations) (hget : catalog.get? name = some entry)
    (hentry : entry ∈ registrations) (hmem : ancestor ∈ entry.info.lineage) :
    ∃ final, (later.foldl insert catalog).get? name = some final ∧
      ancestor ∈ final.info.lineage := by
  induction later generalizing catalog entry with
  | nil => exact ⟨entry, hget, hmem⟩
  | cons newcomer later ih =>
    have hnew : newcomer ∈ registrations := hlater List.mem_cons_self
    have hrest : later ⊆ registrations := fun _ h => hlater (List.mem_cons_of_mem _ h)
    have hinsert := get?_insert catalog newcomer name
    rw [hget] at hinsert
    rw [List.foldl_cons]
    by_cases hname : newcomer.info.name = name
    · rw [if_pos hname, holder_some] at hinsert
      split at hinsert
      · next hrefines =>
        exact ih hrest hinsert hnew (hclosed newcomer hnew entry hentry hrefines hmem)
      · exact ih hrest hinsert hentry hmem
    · rw [if_neg hname] at hinsert
      exact ih hrest hinsert hentry hmem

/-- **Who has a name in the end.** Of the members of a chain it is the most derived one, in whatever
order they are registered. In any sequence of registrations, it is one that descends from every
incumbent that was replaced. -/
theorem override_resolution :
    (∀ (name : String) (catalog : Catalog α) (chain : List (Registration α)),
      catalog.get? name = none → chain ≠ [] →
      (∀ registration ∈ chain, registration.info.name = name) → IsChain chain →
      ∃ top, IsMostDerived chain top ∧
        ∀ order : List (Registration α), order.Perm chain →
          (order.foldl insert catalog).get? name = some top) ∧
    ∀ (catalog : Catalog α) (before after : List (Registration α))
      (newcomer incumbent : Registration α),
      Closed (before ++ newcomer :: after) →
      Replaces (before.foldl insert catalog) newcomer incumbent →
      ∃ final,
        ((before ++ newcomer :: after).foldl insert catalog).get? newcomer.info.name =
            some final ∧
          incumbent.info.qualifiedName ∈ final.info.lineage := by
  constructor
  · intro name catalog chain hfree hne hname hchain
    obtain ⟨top, htop, -⟩ :=
      exists_isMostDerived_foldl hfree hchain hname (List.Subset.refl chain) hne
    refine ⟨top, htop, fun order horder => ?_⟩
    obtain ⟨last, hlast, hget⟩ := exists_isMostDerived_foldl hfree hchain hname horder.subset
      (fun hnil => hne (by rw [hnil] at horder; exact horder.nil_eq.symm))
    have hall : IsMostDerived chain last :=
      ⟨horder.subset hlast.1, fun other hother => hlast.2 other (horder.mem_iff.2 hother)⟩
    rw [hget, htop.eq hchain hall]
  · intro catalog before after newcomer incumbent hclosed ⟨hget, hrefines⟩
    rw [List.foldl_append, List.foldl_cons]
    exact descends_foldl hclosed (by simp) (get?_insert_of_refines hget hrefines) (by simp)
      (refines_iff.1 hrefines)

/-! ### Three shapes of one name -/

/-- The type of shapes. -/
def plainShape : TypeInfo := { name := "Shape", qualifiedName := "base::Shape" }

/-- A type of shapes that refines it. -/
def drawnShape : TypeInfo :=
  TypeInfo.derive { name := "Shape", qualifiedName := "host::DrawnShape" } plainShape

/-- A type of shapes that refines that one. -/
def filledShape : TypeInfo :=
  TypeInfo.derive { name := "Shape", qualifiedName := "host::FilledShape" } drawnShape

/-- The three types, registered from the plain one on. -/
def shapes : List (Registration Unit) :=
  [⟨plainShape, none⟩, ⟨drawnShape, some ()⟩, ⟨filledShape, some ()⟩]

theorem isDerived_shapes : IsDerived (shapes.map Registration.info) where
  identified := by
    simp only [shapes, List.map_cons, List.map_nil, List.forall_mem_cons]
    simp [plainShape, drawnShape, filledShape, TypeInfo.derive]
  derived := by
    intro type htype
    simp only [shapes, List.map_cons, List.map_nil, List.mem_cons, List.not_mem_nil,
      or_false] at htype
    obtain rfl | rfl | rfl := htype
    · exact .inl rfl
    · exact .inr ⟨_, plainShape, by simp [shapes], rfl⟩
    · exact .inr ⟨_, drawnShape, by simp [shapes], rfl⟩

theorem closed_shapes : Closed shapes :=
  closed_of_isDerived isDerived_shapes fun _ hmem => List.mem_map_of_mem hmem

theorem isChain_shapes : IsChain shapes where
  closed := closed_shapes
  distinct := by decide
  total := by decide
  asymm := by decide

/-- One of the shapes has the name after any order of registrations, and it descends from the plain
one, which was replaced. -/
theorem shapes_resolution :
    IsChain shapes ∧
      (∃ top, IsMostDerived shapes top ∧
        ∀ order : List (Registration Unit), order.Perm shapes →
          (order.foldl insert ⟨"property", []⟩).get? "Shape" = some top) ∧
      Replaces ⟨"property", [("Shape", ⟨plainShape, none⟩)]⟩ ⟨drawnShape, some ()⟩
        (⟨plainShape, none⟩ : Registration Unit) ∧
      ∃ final, (shapes.foldl insert ⟨"property", []⟩).get? "Shape" = some final ∧
        "base::Shape" ∈ final.info.lineage := by
  have hname : ∀ registration ∈ shapes, registration.info.name = "Shape" := by decide
  have hreplaces : Replaces ⟨"property", [("Shape", ⟨plainShape, none⟩)]⟩ ⟨drawnShape, some ()⟩
      (⟨plainShape, none⟩ : Registration Unit) := ⟨rfl, by decide⟩
  exact ⟨isChain_shapes,
    override_resolution.1 "Shape" ⟨"property", []⟩ shapes rfl (List.cons_ne_nil _ _) hname
      isChain_shapes,
    hreplaces,
    override_resolution.2 ⟨"property", []⟩ [⟨plainShape, none⟩] [⟨filledShape, some ()⟩]
      ⟨drawnShape, some ()⟩ ⟨plainShape, none⟩ closed_shapes hreplaces⟩

end Flowgraph.Catalog
