import Flowgraph.Keyed
/-!
# Entries under a change of their values

Changing the values of entries leaves their names alone (`keys_mapValues`) and commutes with
looking up (`get?_mapValues`). Writing an entry in its place keeps the names distinct
(`nodup_keys_put`), and of two writings under one name the second counts (`put_put`), so that
writing entries in order keeps all of them just when their names are distinct
(`putAll_nil_eq_self_iff`). What is found after writing was there before or was written (`mem_put`,
`mem_insert`). Sorted entries have distinct names in ascending order (`nodup_keys_sorted`), where
writing one of them again moves nothing (`insert_eq_self`). Of the entries under one name the last
is found among them (`get?_insertAll`), so that sorting entries of distinct names leaves all of them
to be found (`get?_sorted`) and moves them only (`perm_sorted`).
-/

namespace Flowgraph.Keyed

variable {α β : Type}

/-- The entries with their values changed. -/
def mapValues (f : α → β) (entries : List (String × α)) : List (String × β) :=
  entries.map fun entry => (entry.1, f entry.2)

theorem keys_mapValues (f : α → β) (entries : List (String × α)) :
    keys (mapValues f entries) = keys entries := by
  simp [keys, mapValues, Function.comp_def]

theorem get?_mapValues (f : α → β) (k : String) (entries : List (String × α)) :
    get? k (mapValues f entries) = (get? k entries).map f := by
  induction entries with
  | nil => rfl
  | cons entry rest ih =>
    obtain ⟨k', v⟩ := entry
    change (if k' = k then some (f v) else get? k (mapValues f rest)) = _
    rw [get?_cons]
    split
    · rfl
    · exact ih

theorem get?_eq_none_of_not_mem_keys {k : String} {entries : List (String × α)}
    (h : k ∉ keys entries) : get? k entries = none := by
  rw [← has_iff_mem_keys, has, Bool.not_eq_true, Option.isSome_eq_false_iff] at h
  exact Option.isNone_iff_eq_none.1 h

/-- Dropping entries commutes with changing their values. -/
theorem erase_mapValues (f : α → β) (k : String) (entries : List (String × α)) :
    erase k (mapValues f entries) = mapValues f (erase k entries) := by
  unfold erase mapValues
  rw [List.filter_map]
  rfl

/-- Writing what is there already changes nothing. -/
theorem put_eq_self {k : String} {v : α} {entries : List (String × α)}
    (h : get? k entries = some v) : put k v entries = entries := by
  induction entries with
  | nil => simp at h
  | cons entry rest ih =>
    obtain ⟨k', v'⟩ := entry
    rw [get?_cons] at h
    rw [put]
    split at h
    · next hk => rw [if_pos hk, hk, Option.some.inj h]
    · next hk => rw [if_neg hk, ih h]

/-- Of two writings under one name the second counts. -/
theorem put_put (k : String) (v w : α) (entries : List (String × α)) :
    put k w (put k v entries) = put k w entries := by
  induction entries with
  | nil => simp [put]
  | cons entry rest ih =>
    rw [put, put]
    split
    · rw [put, if_pos rfl]
    · next hk => rw [put, if_neg hk, ih]

/-- Writing an entry in its place keeps the names distinct. -/
theorem nodup_keys_put {entries : List (String × α)} (h : (keys entries).Nodup) (k : String)
    (v : α) : (keys (put k v entries)).Nodup := by
  rw [keys_put]
  split
  · exact h
  · next hk =>
    refine List.nodup_append.2 ⟨h, by simp, fun a ha b hb => ?_⟩
    rw [List.mem_singleton.1 hb]
    exact fun e => hk (e ▸ ha)

/-- A new name goes to the end. -/
theorem put_of_not_mem_keys {k : String} {entries : List (String × α)} (h : k ∉ keys entries)
    (v : α) : put k v entries = entries ++ [(k, v)] := by
  induction entries with
  | nil => rfl
  | cons entry rest ih =>
    rw [keys, List.map_cons, List.mem_cons, not_or] at h
    rw [put, if_neg (Ne.symm h.1), ih h.2, List.cons_append]

theorem nodup_keys_putAll (entries : List (String × α)) {into : List (String × α)}
    (h : (keys into).Nodup) : (keys (putAll entries into)).Nodup := by
  induction entries generalizing into with
  | nil => exact h
  | cons entry rest ih => exact ih (nodup_keys_put h entry.1 entry.2)

theorem mem_keys_putAll {k : String} {entries into : List (String × α)} :
    k ∈ keys (putAll entries into) ↔ k ∈ keys entries ∨ k ∈ keys into := by
  induction entries generalizing into with
  | nil => simp [putAll, keys]
  | cons entry rest ih =>
    have hput : k ∈ keys (put entry.1 entry.2 into) ↔ k = entry.1 ∨ k ∈ keys into := by
      rw [keys_put]
      split
      · next hknown =>
        exact (or_iff_right_of_imp fun h => h ▸ hknown).symm
      · rw [List.mem_append, List.mem_singleton, or_comm]
    have hkeys : k ∈ keys (entry :: rest) ↔ k = entry.1 ∨ k ∈ keys rest := List.mem_cons
    rw [putAll, List.foldl_cons, ← putAll, ih, hput, hkeys, or_assoc]
    exact or_left_comm

/-- Entries under new and distinct names go to the end in order. -/
theorem putAll_eq_append {entries into : List (String × α)} (h : (keys (into ++ entries)).Nodup) :
    putAll entries into = into ++ entries := by
  induction entries generalizing into with
  | nil => exact (List.append_nil into).symm
  | cons entry rest ih =>
    have hsplit : into ++ entry :: rest = (into ++ [entry]) ++ rest := by simp
    have hnew : entry.1 ∉ keys into := by
      rw [keys, List.map_append, List.nodup_append] at h
      exact fun hmem => h.2.2 _ hmem _ List.mem_cons_self rfl
    rw [hsplit] at h ⊢
    rw [← ih h, ← put_of_not_mem_keys hnew]
    rfl

/-- Writing entries one after another keeps them as they are if and only if their names are
distinct. -/
theorem putAll_nil_eq_self_iff (entries : List (String × α)) :
    putAll entries [] = entries ↔ (keys entries).Nodup := by
  constructor
  · intro h
    rw [← h]
    exact nodup_keys_putAll entries List.nodup_nil
  · exact @putAll_eq_append _ entries []

/-! ## Where entries come from -/

theorem mem_of_get? {k : String} {v : α} {entries : List (String × α)}
    (h : get? k entries = some v) : (k, v) ∈ entries := by
  induction entries with
  | nil => cases h
  | cons entry rest ih =>
    rw [get?_cons] at h
    split at h
    · next hk =>
      rw [← hk, ← Option.some.inj h]
      exact List.mem_cons_self
    · exact List.mem_cons_of_mem _ (ih h)

/-- Where names are distinct, every entry is found. -/
theorem get?_of_mem {k : String} {v : α} {entries : List (String × α)}
    (h : (keys entries).Nodup) (hmem : (k, v) ∈ entries) : get? k entries = some v := by
  induction entries with
  | nil => cases hmem
  | cons entry rest ih =>
    obtain ⟨hfirst, hrest⟩ := List.nodup_cons.1 h
    rcases List.mem_cons.1 hmem with rfl | hmem
    · rw [get?_cons, if_pos rfl]
    · have hne : entry.1 ≠ k := fun heq => hfirst (heq ▸ List.mem_map_of_mem hmem)
      rw [get?_cons, if_neg hne, ih hrest hmem]

/-- An entry is there after a writing only if it was there before or was written. -/
theorem mem_put {k : String} {v : α} {entry : String × α} {entries : List (String × α)}
    (h : entry ∈ put k v entries) : entry = (k, v) ∨ entry ∈ entries := by
  induction entries with
  | nil => exact .inl (List.mem_singleton.1 h)
  | cons first rest ih =>
    rw [put] at h
    split at h
    · rcases List.mem_cons.1 h with h | h
      · exact .inl h
      · exact .inr (List.mem_cons_of_mem _ h)
    · rcases List.mem_cons.1 h with rfl | h
      · exact .inr List.mem_cons_self
      · exact (ih h).imp_right (List.mem_cons_of_mem _)

theorem mem_putAll {entry : String × α} {entries into : List (String × α)}
    (h : entry ∈ putAll entries into) : entry ∈ entries ∨ entry ∈ into := by
  induction entries generalizing into with
  | nil => exact .inr h
  | cons first rest ih =>
    rcases ih h with h | h
    · exact .inl (List.mem_cons_of_mem _ h)
    · rcases mem_put h with rfl | h
      · exact .inl List.mem_cons_self
      · exact .inr h

/-- An entry is there after a writing in order only if it was there before or was written. -/
theorem mem_insert {k : String} {v : α} {entry : String × α} {entries : List (String × α)}
    (h : entry ∈ insert k v entries) : entry = (k, v) ∨ entry ∈ entries := by
  induction entries with
  | nil => exact .inl (List.mem_singleton.1 h)
  | cons first rest ih =>
    rw [insert] at h
    split at h
    · exact (List.mem_cons.1 h).imp_right (List.mem_cons_of_mem _)
    · split at h
      · exact List.mem_cons.1 h
      · rcases List.mem_cons.1 h with rfl | h
        · exact .inr List.mem_cons_self
        · exact (ih h).imp_right (List.mem_cons_of_mem _)

theorem mem_insertAll {entry : String × α} {entries into : List (String × α)}
    (h : entry ∈ insertAll entries into) : entry ∈ entries ∨ entry ∈ into := by
  induction entries generalizing into with
  | nil => exact .inr h
  | cons first rest ih =>
    rcases ih h with h | h
    · exact .inl (List.mem_cons_of_mem _ h)
    · rcases mem_insert h with rfl | h
      · exact .inl List.mem_cons_self
      · exact .inr h

/-- What is found among sorted entries is one of them. -/
theorem mem_of_get?_sorted {k : String} {v : α} {entries : List (String × α)}
    (h : get? k (sorted entries) = some v) : (k, v) ∈ entries :=
  (mem_insertAll (mem_of_get? h)).resolve_right List.not_mem_nil

/-! ## Sorted entries -/

theorem get?_append (k : String) (as bs : List (String × α)) :
    get? k (as ++ bs) = (get? k as).or (get? k bs) := by
  induction as with
  | nil => rfl
  | cons entry rest ih =>
    obtain ⟨k', v⟩ := entry
    rw [List.cons_append, get?_cons, get?_cons, ih]
    split <;> rfl

/-- Of the entries that are written in order the last one of a name counts. -/
theorem get?_insertAll (k : String) (entries into : List (String × α)) :
    get? k (insertAll entries into) = (get? k entries.reverse).or (get? k into) := by
  induction entries generalizing into with
  | nil => rfl
  | cons entry rest ih =>
    have hfirst : get? k (insert entry.1 entry.2 into) = (get? k [entry]).or (get? k into) := by
      rw [get?_insert, get?_cons, get?_nil]
      split <;> rfl
    rw [insertAll, List.foldl_cons, ← insertAll, ih, hfirst, List.reverse_cons, get?_append,
      Option.or_assoc]

/-- Where names are distinct, the order of the entries does not matter. -/
theorem get?_reverse {entries : List (String × α)} (h : (keys entries).Nodup) (k : String) :
    get? k entries.reverse = get? k entries := by
  induction entries with
  | nil => rfl
  | cons entry rest ih =>
    obtain ⟨k', v⟩ := entry
    obtain ⟨hfirst, hrest⟩ := List.nodup_cons.1 h
    rw [List.reverse_cons, get?_append, ih hrest, get?_cons, get?_cons, get?_nil]
    split
    · next hk => rw [get?_eq_none_of_not_mem_keys (hk ▸ hfirst), Option.none_or]
    · rw [Option.or_none]

/-- Sorting entries of distinct names changes nothing but their order. -/
theorem get?_sorted {entries : List (String × α)} (h : (keys entries).Nodup) (k : String) :
    get? k (sorted entries) = get? k entries := by
  rw [sorted, get?_insertAll, get?_reverse h, get?_nil, Option.or_none]

/-! ## Ascending names -/

/-- Writing an entry where it belongs keeps the names in ascending order. -/
theorem ascending_insert (k : String) (v : α) {entries : List (String × α)}
    (h : (keys entries).Pairwise (· < ·)) : (keys (insert k v entries)).Pairwise (· < ·) := by
  induction entries with
  | nil => exact List.pairwise_singleton _ _
  | cons first rest ih =>
    obtain ⟨k', v'⟩ := first
    obtain ⟨hfirst, hrest⟩ := List.pairwise_cons.1 h
    rw [insert]
    split
    · next heq => exact heq ▸ h
    · next hne =>
      split
      · next hlt =>
        refine List.pairwise_cons.2 ⟨fun name hname => ?_, h⟩
        rcases List.mem_cons.1 hname with rfl | hname
        · exact hlt
        · exact String.lt_trans hlt (hfirst name hname)
      · next hle =>
        refine List.pairwise_cons.2 ⟨fun name hname => ?_, ih hrest⟩
        obtain ⟨entry, hentry, rfl⟩ := List.mem_map.1 hname
        rcases mem_insert hentry with rfl | hentry
        · exact Std.lt_of_le_of_ne (String.not_lt.1 hle) hne
        · exact hfirst entry.1 (List.mem_map_of_mem hentry)

theorem ascending_insertAll (entries : List (String × α)) {into : List (String × α)}
    (h : (keys into).Pairwise (· < ·)) : (keys (insertAll entries into)).Pairwise (· < ·) := by
  induction entries generalizing into with
  | nil => exact h
  | cons entry rest ih => exact ih (ascending_insert entry.1 entry.2 h)

theorem nodup_of_ascending {entries : List (String × α)}
    (h : (keys entries).Pairwise (· < ·)) : (keys entries).Nodup := by
  refine h.imp fun {name name'} hlt heq => ?_
  exact String.lt_irrefl name (heq ▸ hlt)

/-- The names of sorted entries are distinct. -/
theorem nodup_keys_sorted (entries : List (String × α)) : (keys (sorted entries)).Nodup :=
  nodup_of_ascending (ascending_insertAll entries List.Pairwise.nil)

theorem perm_insert {k : String} {entries : List (String × α)} (h : k ∉ keys entries) (v : α) :
    (insert k v entries).Perm ((k, v) :: entries) := by
  induction entries with
  | nil => exact List.Perm.refl _
  | cons entry rest ih =>
    obtain ⟨k', v'⟩ := entry
    obtain ⟨hne, hrest⟩ := not_or.1 (mt List.mem_cons.2 h)
    rw [insert, if_neg (Ne.symm hne)]
    split
    · exact List.Perm.refl _
    · exact ((ih hrest).cons _).trans (List.Perm.swap ..)

theorem perm_insertAll {entries into : List (String × α)} (h : (keys (entries ++ into)).Nodup) :
    (insertAll entries into).Perm (entries ++ into) := by
  induction entries generalizing into with
  | nil => exact List.Perm.refl _
  | cons entry rest ih =>
    obtain ⟨k, v⟩ := entry
    have hfirst : k ∉ keys (rest ++ into) := (List.nodup_cons.1 h).1
    have hnew : k ∉ keys into := fun hmem => hfirst (by
      rw [keys, List.map_append]
      exact List.mem_append_right _ hmem)
    have hmoved : (rest ++ insert k v into).Perm ((k, v) :: (rest ++ into)) :=
      ((perm_insert hnew v).append_left rest).trans List.perm_middle
    have hdistinct : (keys (rest ++ insert k v into)).Nodup := (hmoved.map Prod.fst).nodup_iff.2 h
    exact (ih hdistinct).trans hmoved

/-- Sorting moves entries with different names and drops none. -/
theorem perm_sorted {entries : List (String × α)} (h : (keys entries).Nodup) :
    (sorted entries).Perm entries := by
  have hall : (insertAll entries []).Perm (entries ++ []) :=
    perm_insertAll (by rwa [List.append_nil])
  rwa [List.append_nil] at hall

theorem insert_mapValues (f : α → β) (k : String) (v : α) (entries : List (String × α)) :
    insert k (f v) (mapValues f entries) = mapValues f (insert k v entries) := by
  induction entries with
  | nil => rfl
  | cons entry rest ih =>
    obtain ⟨k', v'⟩ := entry
    rw [mapValues, List.map_cons, insert, insert]
    split
    · rfl
    · split
      · rfl
      · exact congrArg _ ih

theorem sorted_mapValues (f : α → β) (entries : List (String × α)) :
    sorted (mapValues f entries) = mapValues f (sorted entries) := by
  have hinsertAll (into : List (String × α)) :
      insertAll (mapValues f entries) (mapValues f into) =
        mapValues f (insertAll entries into) := by
    induction entries generalizing into with
    | nil => rfl
    | cons entry rest ih =>
      have hfirst := ih (insert entry.1 entry.2 into)
      rwa [← insert_mapValues] at hfirst
  exact hinsertAll []

/-- Writing what is there already moves nothing where names are in ascending order. -/
theorem insert_eq_self {k : String} {v : α} {entries : List (String × α)}
    (horder : (keys entries).Pairwise (· < ·)) (h : get? k entries = some v) :
    insert k v entries = entries := by
  induction entries with
  | nil => cases h
  | cons entry rest ih =>
    obtain ⟨k', v'⟩ := entry
    obtain ⟨hfirst, hrest⟩ := List.pairwise_cons.1 horder
    rw [get?_cons] at h
    rw [insert]
    split at h
    · next hk => rw [if_pos hk, hk, Option.some.inj h]
    · next hk =>
      have hlt : k' < k := hfirst k (List.mem_map_of_mem (mem_of_get? h))
      rw [if_neg hk, if_neg (String.lt_asymm hlt), ih hrest h]

end Flowgraph.Keyed
