import Flowgraph.Proofs.Value.Places
/-!
# What a merge holds

A map merged over another holds a value that is no map at a path of names (`Value.at?`) exactly
where the overlay holds it, and where the base holds it and the overlay leaves the path open
(`Value.LeavesOpen`): it has no entry there, and nothing but maps on the way
(`Value.at?_mergeValue_iff`). So an empty map in the overlay takes the place of what is no map, but
drops nothing from a map.

Merging the same overlay once more finds every entry of it settled, and writes what is there
(`Value.mergeValue_again`). Nothing moves by that where the names of maps are in ascending order at
any depth, which merging keeps (`Value.inOrder_mergeValue`).

Main definitions: `Value.inOrder`, `Value.LeavesOpen`.
Main statement: `Value.merge_law`.
-/

namespace Flowgraph.Value

/-! ## Maps in order -/

mutual

/-- Whether every map in a value has its names in ascending order. -/
def inOrder : Value → Bool
  | .list items => inOrderItems items
  | .map fields => decide ((Keyed.keys fields).Pairwise (· < ·)) && inOrderFields fields
  | _ => true

/-- Whether every map in the items of a list has its names in ascending order. -/
def inOrderItems : List Value → Bool
  | [] => true
  | v :: rest => inOrder v && inOrderItems rest

/-- Whether every map below a map has its names in ascending order. -/
def inOrderFields : List (String × Value) → Bool
  | [] => true
  | (_, v) :: rest => inOrder v && inOrderFields rest

end

theorem inOrderFields_iff (fields : Fields) :
    inOrderFields fields = true ↔ ∀ field ∈ fields, field.2.inOrder = true := by
  induction fields with
  | nil => simp [inOrderFields]
  | cons field rest ih => rw [inOrderFields, Bool.and_eq_true, ih, List.forall_mem_cons]

@[simp] theorem inOrder_map_iff (fields : Fields) :
    (map fields).inOrder = true ↔
      (Keyed.keys fields).Pairwise (· < ·) ∧ ∀ field ∈ fields, field.2.inOrder = true := by
  rw [inOrder, Bool.and_eq_true, decide_eq_true_eq, inOrderFields_iff]

theorem inOrder_of_get? {fields : Fields} {k : String} {v : Value}
    (h : (map fields).inOrder = true) (hget : Keyed.get? k fields = some v) : v.inOrder = true :=
  ((inOrder_map_iff fields).1 h).2 _ (Keyed.mem_of_get? hget)

/-! ## Holding a value at a path -/

/-- Whether an overlay leaves a path open: it has no entry there, and what it has on the way is
maps. -/
def LeavesOpen (overlay : Value) (path : List String) : Prop :=
  at? path overlay = none ∧
    ∀ front v, front <+: path → front ≠ path → at? front overlay = some v → v.fields?.isSome

@[simp] theorem at?_nil (v : Value) : at? [] v = some v := rfl

@[simp] theorem at?_cons_map (k : String) (path : List String) (fields : Fields) :
    at? (k :: path) (map fields) = (Keyed.get? k fields).bind (at? path) := rfl

theorem at?_cons_of_fields?_eq_none {v : Value} (h : v.fields? = none) (k : String)
    (path : List String) : at? (k :: path) v = none := by
  cases v with
  | map fields => cases h
  | _ => rfl

/-- What is no map leaves nothing open. -/
theorem not_leavesOpen {v : Value} (h : v.fields? = none) (path : List String) :
    ¬v.LeavesOpen path := by
  rintro ⟨hnone, hmaps⟩
  have hne : [] ≠ path := by
    rintro rfl
    cases hnone
  have hmap := hmaps [] v List.nil_prefix hne rfl
  rw [h] at hmap
  cases hmap

/-- A map leaves a path open that begins with a name it does not have, and one that the entry of the
name leaves open. -/
theorem leavesOpen_map_cons_iff (fields : Fields) (k : String) (path : List String) :
    (map fields).LeavesOpen (k :: path) ↔
      ∀ v, Keyed.get? k fields = some v → v.LeavesOpen path := by
  constructor
  · rintro ⟨hnone, hmaps⟩ v hget
    rw [at?_cons_map, hget, Option.bind_some] at hnone
    refine ⟨hnone, fun front u hfront hne hu => ?_⟩
    refine hmaps (k :: front) u (List.cons_prefix_cons.2 ⟨rfl, hfront⟩) ?_ ?_
    · exact fun heq => hne (List.cons.inj heq).2
    · rw [at?_cons_map, hget]
      exact hu
  · intro h
    refine ⟨?_, fun front u hfront hne hu => ?_⟩
    · cases hget : Keyed.get? k fields with
      | none => rw [at?_cons_map, hget, Option.bind_none]
      | some v =>
        rw [at?_cons_map, hget]
        exact (h v hget).1
    · cases front with
      | nil =>
        cases hu
        rfl
      | cons k' front =>
        obtain ⟨rfl, hrest⟩ := List.cons_prefix_cons.1 hfront
        obtain ⟨v, hget, hu⟩ := Option.bind_eq_some_iff.1 hu
        exact (h v hget).2 front u hrest (fun heq => hne (congrArg _ heq)) hu

/-- A merged map holds under a name what the overlay's entry makes of the base's, or the base's
where the overlay has none. -/
theorem get?_mergeFields_eq {overlay : Fields} (hnames : (Keyed.keys overlay).Nodup)
    (base : Fields) (k : String) :
    Keyed.get? k (mergeFields base overlay) =
      match Keyed.get? k overlay with
      | none => Keyed.get? k base
      | some v => some (mergeValue (Keyed.get? k base) v) := by
  cases h : Keyed.get? k overlay with
  | none =>
    refine get?_mergeFields_of_not_mem (fun hmem => ?_) base
    rw [← Keyed.has_iff_mem_keys, Keyed.has, h] at hmem
    cases hmem
  | some v => exact get?_mergeFields hnames h base

theorem fields?_eq_some_iff {v : Value} {fields : Fields} :
    v.fields? = some fields ↔ v = map fields := by
  cases v <;> simp [fields?]

theorem eq_some_map_of_bind_fields? {old : Option Value} {base : Fields}
    (h : old.bind fields? = some base) : old = some (map base) := by
  obtain ⟨v, rfl, hv⟩ := Option.bind_eq_some_iff.1 h
  rw [fields?_eq_some_iff.1 hv]

theorem mergeValue_map (base overlay : Fields) :
    mergeValue (some (map base)) (map overlay) = map (mergeFields base overlay) := by
  rw [mergeValue]

/-- Where there was no map, a map is written as it is. -/
theorem mergeValue_of_bind_fields?_eq_none {old : Option Value} (h : old.bind fields? = none)
    (v : Value) : mergeValue old v = v := by
  unfold mergeValue
  split
  · cases h
  · rfl

/-- **A value that is no map** stands in a merged value where it stands in the overlay, and where it
stands in the base at a path that the overlay leaves open. -/
theorem at?_mergeValue_iff {w : Value} (hleaf : w.fields? = none) {v : Value}
    (horder : v.inOrder = true) (old : Option Value) (path : List String) :
    at? path (mergeValue old v) = some w ↔
      at? path v = some w ∨ old.bind (at? path) = some w ∧ v.LeavesOpen path := by
  -- By induction on the path: a step into a merged map is a step into both sides.
  induction path generalizing v old with
  | nil =>
    rw [or_iff_left fun h => absurd h.2.1 (Option.some_ne_none v)]
    cases hv : v.fields? with
    | none => rw [mergeValue_of_fields?_eq_none hv]
    | some overlay =>
      obtain rfl := fields?_eq_some_iff.1 hv
      cases hold : old.bind fields? with
      | none => rw [mergeValue_of_bind_fields?_eq_none hold]
      | some base =>
        obtain rfl := eq_some_map_of_bind_fields? hold
        rw [mergeValue_map]
        constructor <;> rintro ⟨⟩ <;> cases hleaf
  | cons k path ih =>
    cases hv : v.fields? with
    | none => rw [mergeValue_of_fields?_eq_none hv, or_iff_left fun h => not_leavesOpen hv _ h.2]
    | some overlay =>
      obtain rfl := fields?_eq_some_iff.1 hv
      cases hold : old.bind fields? with
      | none =>
        have hnone : old.bind (at? (k :: path)) = none := by
          cases old with
          | none => rfl
          | some old => exact at?_cons_of_fields?_eq_none hold k path
        rw [mergeValue_of_bind_fields?_eq_none hold, hnone,
          or_iff_left fun h => Option.some_ne_none w h.1.symm]
      | some base =>
        obtain rfl := eq_some_map_of_bind_fields? hold
        have hnames := Keyed.nodup_of_ascending ((inOrder_map_iff overlay).1 horder).1
        rw [mergeValue_map, leavesOpen_map_cons_iff, Option.bind_some, at?_cons_map, at?_cons_map,
          at?_cons_map, get?_mergeFields_eq hnames]
        cases hget : Keyed.get? k overlay with
        | none => simp
        | some u => simpa using ih (inOrder_of_get? horder hget) (Keyed.get? k base)

/-! ## Merging again -/

mutual

/-- Merging keeps maps in order. -/
theorem inOrder_mergeValue (v : Value) {old : Option Value} (hv : v.inOrder = true)
    (hold : ∀ u ∈ old, u.inOrder = true) : (mergeValue old v).inOrder = true := by
  cases v with
  | map overlay =>
    cases hbase : old.bind fields? with
    | none =>
      rw [mergeValue_of_bind_fields?_eq_none hbase]
      exact hv
    | some base =>
      obtain rfl := eq_some_map_of_bind_fields? hbase
      rw [mergeValue_map]
      exact inOrder_mergeFields overlay ((inOrder_map_iff overlay).1 hv).2 (hold _ rfl)
  | _ =>
    rw [mergeValue_of_fields?_eq_none rfl]
    exact hv

theorem inOrder_mergeFields (overlay : Fields) {base : Fields}
    (hoverlay : ∀ field ∈ overlay, field.2.inOrder = true) (hbase : (map base).inOrder = true) :
    (map (mergeFields base overlay)).inOrder = true := by
  cases overlay with
  | nil =>
    rw [mergeFields]
    exact hbase
  | cons field rest =>
    obtain ⟨hv, hrest⟩ := List.forall_mem_cons.1 hoverlay
    have hmerged : (mergeValue (Keyed.get? field.1 base) field.2).inOrder = true :=
      inOrder_mergeValue field.2 hv fun u hu => inOrder_of_get? hbase hu
    obtain ⟨hnames, hfields⟩ := (inOrder_map_iff base).1 hbase
    rw [mergeFields]
    refine inOrder_mergeFields rest hrest ((inOrder_map_iff _).2
      ⟨Keyed.ascending_insert _ _ hnames, fun written hwritten => ?_⟩)
    rcases Keyed.mem_insert hwritten with rfl | hwritten
    · exact hmerged
    · exact hfields written hwritten

end

/-- Entries that are settled already change nothing. -/
theorem mergeFields_eq_self {overlay merged : Fields} (horder : (map merged).inOrder = true)
    (hsettled : ∀ field ∈ overlay, ∃ v, Keyed.get? field.1 merged = some v ∧
      mergeValue (some v) field.2 = v) : mergeFields merged overlay = merged := by
  induction overlay with
  | nil => rw [mergeFields]
  | cons field rest ih =>
    obtain ⟨⟨v, hget, hv⟩, hrest⟩ := List.forall_mem_cons.1 hsettled
    obtain ⟨hnames, -⟩ := (inOrder_map_iff merged).1 horder
    rw [mergeFields, hget, hv, Keyed.insert_eq_self hnames hget, ih hrest]

mutual

/-- **Merging the same overlay again** changes nothing. -/
theorem mergeValue_again (v : Value) (hv : v.inOrder = true) {old : Option Value}
    (hold : ∀ u ∈ old, u.inOrder = true) :
    mergeValue (some (mergeValue old v)) v = mergeValue old v := by
  have hmerged := inOrder_mergeValue v hv hold
  cases v with
  | map overlay =>
    obtain ⟨hnames, hfields⟩ := (inOrder_map_iff overlay).1 hv
    have hnodup := Keyed.nodup_of_ascending hnames
    have hagain := mergeValue_again_of_mem overlay hfields
    cases hbase : old.bind fields? with
    | none =>
      rw [mergeValue_of_bind_fields?_eq_none hbase, mergeValue_map]
      refine congrArg map (mergeFields_eq_self hv fun field hfield =>
        ⟨field.2, Keyed.get?_of_mem hnodup hfield, ?_⟩)
      have h := hagain field hfield none fun u hu => absurd hu (Option.not_mem_none u)
      rwa [mergeValue_none] at h
    | some base =>
      obtain rfl := eq_some_map_of_bind_fields? hbase
      rw [mergeValue_map] at hmerged ⊢
      rw [mergeValue_map]
      refine congrArg map (mergeFields_eq_self hmerged fun field hfield =>
        ⟨_, get?_mergeFields hnodup (Keyed.get?_of_mem hnodup hfield) base, ?_⟩)
      exact hagain field hfield _ fun u hu => inOrder_of_get? (hold _ rfl) hu
  | _ => rw [mergeValue_of_fields?_eq_none rfl, mergeValue_of_fields?_eq_none rfl]

theorem mergeValue_again_of_mem (overlay : Fields)
    (hoverlay : ∀ field ∈ overlay, field.2.inOrder = true) :
    ∀ field ∈ overlay, ∀ old : Option Value, (∀ u ∈ old, u.inOrder = true) →
      mergeValue (some (mergeValue old field.2)) field.2 = mergeValue old field.2 := by
  cases overlay with
  | nil => exact fun field hfield => absurd hfield List.not_mem_nil
  | cons field rest =>
    obtain ⟨hfield, hrest⟩ := List.forall_mem_cons.1 hoverlay
    exact List.forall_mem_cons.2 ⟨fun old hold => mergeValue_again field.2 hfield hold,
      mergeValue_again_of_mem rest hrest⟩

end

/-! ## Merging maps -/

/-- **What a merge holds.** A value that is no map stands in a merged map at a path of names if and
only if it stands there in the overlay, or it stands there in the base and the overlay has no entry
at the path and nothing but maps in front of it. The merged map is in order, and merging the overlay
into it again changes nothing. -/
theorem merge_law {base overlay : Fields} (hbase : (map base).inOrder = true)
    (hoverlay : (map overlay).inOrder = true) :
    (∀ (path : List String) (w : Value), w.fields? = none →
      (at? path (map (merge base overlay)) = some w ↔
        at? path (map overlay) = some w ∨
          at? path (map base) = some w ∧ at? path (map overlay) = none ∧
            ∀ front v, front <+: path → front ≠ path → at? front (map overlay) = some v →
              v.fields?.isSome)) ∧
      (map (merge base overlay)).inOrder = true ∧
      merge (merge base overlay) overlay = merge base overlay := by
  have hold : ∀ u ∈ some (map base), u.inOrder = true := fun u hu => by
    cases hu
    exact hbase
  have hmap : map (merge base overlay) = mergeValue (some (map base)) (map overlay) :=
    (mergeValue_map base overlay).symm
  refine ⟨fun path w hleaf => ?_, ?_, ?_⟩
  · rw [hmap]
    exact at?_mergeValue_iff hleaf hoverlay (some (map base)) path
  · rw [hmap]
    exact inOrder_mergeValue (map overlay) hoverlay hold
  · have hagain := mergeValue_again (map overlay) hoverlay hold
    rw [mergeValue_map, mergeValue_map] at hagain
    exact map.inj hagain

/-- The properties of a request. -/
def inherited : Fields :=
  [("queryArgs", .map [("page", .int 1), ("size", .int 10)]), ("tags", .list [.text "a"])]

/-- Another page of it, and a map in the place of the tags. -/
def nextPage : Fields :=
  [("queryArgs", .map [("page", .int 2)]), ("tags", .map [])]

/-- The size of the page is kept beside its new number. -/
theorem merge_law_nextPage :
    (map inherited).inOrder = true ∧ (map nextPage).inOrder = true ∧
      at? ["queryArgs", "size"] (map (merge inherited nextPage)) = some (.int 10) ∧
      at? ["queryArgs", "page"] (map (merge inherited nextPage)) = some (.int 2) ∧
      merge (merge inherited nextPage) nextPage = merge inherited nextPage := by
  have hinherited : (map inherited).inOrder = true := by decide
  have hnext : (map nextPage).inOrder = true := by decide
  obtain ⟨hholds, -, hagain⟩ := merge_law hinherited hnext
  have hopen : (map nextPage).LeavesOpen ["queryArgs", "size"] := by
    refine (leavesOpen_map_cons_iff _ _ _).2 fun v hv => ?_
    cases hv
    refine (leavesOpen_map_cons_iff _ _ _).2 fun v hv => ?_
    cases hv
  exact ⟨hinherited, hnext, (hholds _ (.int 10) rfl).2 (.inr ⟨rfl, hopen⟩),
    (hholds _ (.int 2) rfl).2 (.inl rfl), hagain⟩

end Flowgraph.Value
