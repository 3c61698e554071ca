import Flowgraph.Proofs.Action.Tables
import Flowgraph.Proofs.Query.Places
/-!
# Which record a task writes back

Updating and deleting look a record up by a query, and then write it back by its key: the store
searches the collection once more, for the first record whose key has the same text. The record that
was selected (`Selects`) is the one that is rewritten or removed exactly when its key leads back to
it (`Collection.LeadsBack`), that is, when it has a key and no earlier record has a key of the same
text (`write_back`).

Adding keeps keys apart, but the records that a store was seeded with are not checked. Where two of
them share a key, the later one cannot be written; where one has no key, an update of it overwrites
the record whose key its new fields bring along (`write_back_astray`).
-/

namespace Flowgraph

/-- Whether the record at a place has a key, and is the first with a key of that text. -/
def Collection.LeadsBack (collection : Collection) (i : Nat) : Prop :=
  ∃ record text, collection.records[i]? = some record ∧
    collection.schema.keyText? record = some text ∧
    ∀ j < i, ∀ earlier, collection.records[j]? = some earlier →
      collection.schema.keyText? earlier ≠ some text

/-- The place of a key is the place of a record with that key if the key leads back to it. -/
theorem Collection.place_eq_iff_leadsBack {collection : Collection} {i j : Nat} {key : Value}
    (hj : collection.position? key = some j) {record : Record}
    (hr : collection.records[i]? = some record)
    (htext : collection.schema.keyText? record = some key.stringify) :
    j = i ↔ collection.LeadsBack i := by
  constructor
  · rintro rfl
    exact ⟨record, key.stringify, hr, htext, (position?_eq_some_iff.1 hj).2⟩
  · rintro ⟨record', text, hr', htext', hbefore⟩
    rw [hr, Option.some.injEq] at hr'
    rw [← hr', htext, Option.some.injEq] at htext'
    rw [← htext'] at hbefore
    have hi := position?_eq_some_iff.2 ⟨⟨record, hr, htext⟩, hbefore⟩
    rw [hj, Option.some.injEq] at hi
    exact hi

namespace Data

/-! ## Selecting a record -/

/-- Whether the record at a place is the first that the query of a lookup selects, in the order of
the query. -/
def Selects (lookup : RecordLookup) (collection : Collection) (i : Nat) (record : Record) : Prop :=
  ∃ query, lookupQuery lookup collection.schema = .ok (some query) ∧
    (query.applyIdx collection.records).head? = some (record, i)

section Selects

variable {lookup : RecordLookup} {collection : Collection} {i : Nat} {record : Record}

theorem getElem?_of_selects (h : Selects lookup collection i record) :
    collection.records[i]? = some record := by
  obtain ⟨query, -, hhead⟩ := h
  exact CompiledQuery.getElem?_of_mem_applyIdx (List.mem_of_head? hhead)

/-- A lookup finds the record that it selects. -/
theorem find_of_selects (h : Selects lookup collection i record) :
    find lookup collection = .ok (some record) := by
  obtain ⟨query, hquery, hhead⟩ := h
  have hfirst : (query.apply collection.records).head? = some record := by
    rw [← CompiledQuery.map_fst_applyIdx, List.head?_map, hhead]
    rfl
  unfold find Collection.query
  simp only [hquery, bind, Except.bind, Option.bind_some, hfirst]
  rfl

/-- A record that a lookup finds is one of the collection. -/
theorem mem_of_find (h : find lookup collection = .ok (some record)) :
    record ∈ collection.records := by
  unfold find Collection.query at h
  obtain ⟨query, -, h⟩ := bind_eq_ok.1 h
  obtain ⟨query, -, hhead⟩ := Option.bind_eq_some_iff.1 (Except.ok.inj h)
  rw [← CompiledQuery.map_fst_applyIdx] at hhead
  obtain ⟨⟨found, i⟩, hmem, rfl⟩ := List.mem_map.1 (List.mem_of_head? hhead)
  exact List.mem_of_getElem? (CompiledQuery.getElem?_of_mem_applyIdx hmem)

end Selects

/-! ## Writing it back -/

/-- A key leads back to the place of a record only if the record has one. -/
theorem not_leadsBack {collection : Collection} {i : Nat} {record : Record}
    (hr : collection.records[i]? = some record) (hkey : collection.schema.keyOf? record = none) :
    ¬collection.LeadsBack i := by
  rintro ⟨record', text, hr', htext, -⟩
  rw [hr, Option.some.injEq] at hr'
  rw [← hr', RecordSchema.keyText?, hkey] at htext
  cases htext

/-- The place at which an update writes is that of the record to be updated exactly when the key of
the record leads back to it. -/
theorem update_place {collection after : Collection} {i : Nat} {record entry stored : Record}
    (hr : collection.records[i]? = some record)
    (h : collection.update (overwrite collection.schema record entry) = (.ok stored, after)) :
    ∃ j, j < collection.records.length ∧
      after.records = collection.records.set j (overwrite collection.schema record entry) ∧
      (j = i ↔ collection.LeadsBack i) := by
  obtain ⟨-, key, j, hkey, hj, rfl⟩ := Collection.records_update h
  obtain ⟨⟨found, hfound, hfoundText⟩, -⟩ := Collection.position?_eq_some_iff.1 hj
  refine ⟨j, (List.getElem?_eq_some_iff.1 hfound).1, rfl, ?_⟩
  cases hown : collection.schema.keyOf? record with
  | some own =>
    rw [keyOf?_overwrite hown, Option.some.injEq] at hkey
    rw [← hkey] at hj
    exact Collection.place_eq_iff_leadsBack hj hr (RecordSchema.keyText?_of_keyOf? hown)
  | none =>
    -- The record has no key, so the key that is looked for is one of the fields written over it.
    refine iff_of_false ?_ (not_leadsBack hr hown)
    rintro rfl
    rw [hr, Option.some.injEq] at hfound
    rw [← hfound, RecordSchema.keyText?, hown] at hfoundText
    cases hfoundText

/-- The place at which a deletion removes is that of the record to be deleted exactly when the key
of the record leads back to it. -/
theorem remove_place {collection after : Collection} {i : Nat} {record removed : Record}
    {key : Value} (hr : collection.records[i]? = some record)
    (hkey : collection.schema.keyOf? record = some key)
    (h : collection.remove key = (.ok removed, after)) :
    ∃ j, collection.records[j]? = some removed ∧
      after.records = collection.records.eraseIdx j ∧ (j = i ↔ collection.LeadsBack i) := by
  obtain ⟨j, hj, rfl, rfl⟩ := Collection.records_remove h
  obtain ⟨⟨found, hfound, -⟩, -⟩ := Collection.position?_eq_some_iff.1 hj
  refine ⟨j, by rw [hfound]; rfl, rfl, ?_⟩
  exact Collection.place_eq_iff_leadsBack hj hr (RecordSchema.keyText?_of_keyOf? hkey)

section WriteBack

variable {spec : EntitySpec} {stores after : List Provider} {lookup : RecordLookup} {i : Nat}
  {record : Record} {result : ActionResult}

theorem update_write_back (hdescribes : Describes spec stores)
    (hselects : Selects lookup (view spec stores) i record) {binding : EntityBinding}
    (hspec : binding.spec = spec) (hfilled : binding.properties ≠ [])
    (h : (update (some binding) lookup).run stores = .ok result after)
    (hsuccess : result.success = true) :
    ∃ j, j < (view spec stores).records.length ∧
      result = .returning (.map (overwrite spec.schema record binding.entry)) ∧
      after = rewrite spec ((view spec stores).records.set j
        (overwrite spec.schema record binding.entry)) stores ∧
      (j = i ↔ (view spec stores).LeadsBack i) := by
  subst hspec
  obtain ⟨message, hrun⟩ | ⟨made, hrun, hfailed⟩ |
    ⟨_, work, found, heq, hopen, hfound, hwrites⟩ := update_cases stores (some binding) lookup
  · rw [hrun] at h
    cases h
  · rw [hrun] at h
    cases h
    rw [hsuccess] at hfailed
    cases hfailed
  · cases heq
    rw [collection_eq_view hopen hdescribes] at hfound hwrites
    rw [find_of_selects hselects, Except.ok.injEq, Option.some.injEq] at hfound
    subst hfound
    obtain ⟨hempty, -⟩ | ⟨-, stored, collection, hupdate, hrun⟩ := hwrites
    · exact absurd hempty hfilled
    · rw [hrun] at h
      cases h
      obtain ⟨j, hlt, hrecords, hplace⟩ := update_place (getElem?_of_selects hselects) hupdate
      obtain ⟨rfl, -⟩ := Collection.records_update hupdate
      rw [hrecords]
      exact ⟨j, hlt, rfl, rfl, hplace⟩

theorem delete_write_back (hdescribes : Describes spec stores)
    (hselects : Selects lookup (view spec stores) i record)
    (h : (delete (some spec) lookup).run stores = .ok result after)
    (hsuccess : result.success = true) :
    ∃ j removed, (view spec stores).records[j]? = some removed ∧
      result = .returning (.map removed) ∧
      after = rewrite spec ((view spec stores).records.eraseIdx j) stores ∧
      (j = i ↔ (view spec stores).LeadsBack i) := by
  obtain ⟨message, hrun⟩ | ⟨made, hrun, hfailed⟩ | ⟨_, work, found, key, removed, collection, heq,
    hopen, hfound, hkey, hremove, hrun⟩ := delete_cases stores (some spec) lookup
  · rw [hrun] at h
    cases h
  · rw [hrun] at h
    cases h
    rw [hsuccess] at hfailed
    cases hfailed
  · rw [hrun] at h
    cases h
    cases heq
    rw [collection_eq_view hopen hdescribes] at hfound hremove
    rw [find_of_selects hselects, Except.ok.injEq, Option.some.injEq] at hfound
    subst hfound
    obtain ⟨j, hj, hrecords, hplace⟩ := remove_place (getElem?_of_selects hselects) hkey hremove
    rw [hrecords]
    exact ⟨j, removed, hj, rfl, rfl, hplace⟩

/-- **Tasks write back by key.** A successful update with properties, or a successful deletion,
rewrites or removes the record at one place and leaves all else as it was. That place is the one of
the record that the lookup selects exactly when the key of this record leads back to it; an update
then keeps the key. -/
theorem write_back (hdescribes : Describes spec stores)
    (hselects : Selects lookup (view spec stores) i record) :
    (∀ (binding : EntityBinding) result after, binding.spec = spec → binding.properties ≠ [] →
      (update (some binding) lookup).run stores = .ok result after → result.success = true →
      ∃ j, j < (view spec stores).records.length ∧
        result = .returning (.map (overwrite spec.schema record binding.entry)) ∧
        after = rewrite spec ((view spec stores).records.set j
          (overwrite spec.schema record binding.entry)) stores ∧
        (j = i ↔ (view spec stores).LeadsBack i) ∧
        ((view spec stores).LeadsBack i →
          spec.schema.keyOf? (overwrite spec.schema record binding.entry) =
            spec.schema.keyOf? record)) ∧
    ∀ result after, (delete (some spec) lookup).run stores = .ok result after →
      result.success = true →
      ∃ j removed, (view spec stores).records[j]? = some removed ∧
        result = .returning (.map removed) ∧
        after = rewrite spec ((view spec stores).records.eraseIdx j) stores ∧
        (j = i ↔ (view spec stores).LeadsBack i) := by
  refine ⟨fun binding result after hspec hfilled h hsuccess => ?_,
    fun result after h hsuccess => ?_⟩
  · obtain ⟨j, hlt, hresult, hafter, hplace⟩ :=
      update_write_back hdescribes hselects hspec hfilled h hsuccess
    refine ⟨j, hlt, hresult, hafter, hplace, fun hleads => ?_⟩
    cases hkey : spec.schema.keyOf? record with
    | none => exact absurd hleads (not_leadsBack (getElem?_of_selects hselects) hkey)
    | some key => exact keyOf?_overwrite hkey binding.entry
  · exact delete_write_back hdescribes hselects h hsuccess

end WriteBack

/-! ### Posts that share a slug, or have none -/

/-- The entity of posts, which are told apart by their slugs. -/
def posts : EntitySpec where
  name := "Blog.Posts"
  collection := "Posts"
  schema :=
    { name := "Post", primaryKey := "slug", fields := [.plain "slug" .text, .plain "title" .text] }
  provider := ⟨0, "Blog"⟩

/-- A store that was seeded with some posts. -/
def seeded (records : List Record) : List Provider :=
  [{ store := { name := "Blog", schemas := [("Posts", posts.schema)],
                tables := [("Posts", records)] } }]

/-- A post with a slug. -/
def slugged (slug title : String) : Record := [("slug", .text slug), ("title", .text title)]

/-- A post without a slug. -/
def untagged (title : String) : Record := [("title", .text title)]

/-- The lookup of a post by its title. -/
def titled (title : String) : RecordLookup where
  rules := some { filters := [{ attr := some "title", type := some .equal, value := .text title }] }

/-- The fields of a post that are to be written over another one. -/
def renamed (slug title : String) : EntityBinding where
  spec := posts
  properties := slugged slug title
  entry := slugged slug title

theorem describes_posts (records : List Record) : Describes posts (seeded records) := by
  intro provider schema hprovider hschema
  cases hprovider
  cases hschema
  rfl

/-- Of two posts with one slug the first is removed, whichever is selected. -/
theorem write_back_twins :
    Selects (titled "two") (view posts (seeded [slugged "a" "one", slugged "a" "two"])) 1
        (slugged "a" "two") ∧
      ∃ result after j removed,
        (delete (some posts) (titled "two")).run (seeded [slugged "a" "one", slugged "a" "two"]) =
            .ok result after ∧
          result.success = true ∧ result = .returning (.map removed) ∧
          (j = 1 ↔ (view posts (seeded [slugged "a" "one", slugged "a" "two"])).LeadsBack 1) := by
  have hselects : Selects (titled "two")
      (view posts (seeded [slugged "a" "one", slugged "a" "two"])) 1 (slugged "a" "two") :=
    ⟨_, rfl, rfl⟩
  obtain ⟨-, hdelete⟩ := write_back (describes_posts _) hselects
  obtain ⟨j, removed, -, hresult, -, hplace⟩ :=
    hdelete (.returning (.map (slugged "a" "one"))) (seeded [slugged "a" "two"]) rfl rfl
  exact ⟨hselects, _, _, j, removed, rfl, rfl, hresult, hplace⟩

/-- **A task can write back another record than the one that it selects.** Of two posts with one
slug a deletion of the second removes the first, and an update of a post without a slug overwrites
the post whose slug is among the new fields. -/
theorem write_back_astray :
    (∃ result after,
      (delete (some posts) (titled "two")).run (seeded [slugged "a" "one", slugged "a" "two"]) =
          .ok result after ∧
        result.success = true ∧
        Selects (titled "two") (view posts (seeded [slugged "a" "one", slugged "a" "two"])) 1
          (slugged "a" "two") ∧
        table after 0 "Posts" = [slugged "a" "two"] ∧
        [slugged "a" "one", slugged "a" "two"].eraseIdx 1 ≠ [slugged "a" "two"]) ∧
    ∃ result after,
      (update (some (renamed "a" "three")) (titled "two")).run
          (seeded [slugged "a" "one", untagged "two"]) = .ok result after ∧
        result.success = true ∧
        Selects (titled "two") (view posts (seeded [slugged "a" "one", untagged "two"])) 1
          (untagged "two") ∧
        table after 0 "Posts" = [slugged "a" "three", untagged "two"] ∧
        ∀ written, [slugged "a" "one", untagged "two"].set 1 written ≠
          [slugged "a" "three", untagged "two"] := by
  refine ⟨⟨_, _, rfl, rfl, ⟨_, rfl, rfl⟩, rfl, ?_⟩, _, _, rfl, rfl, ⟨_, rfl, rfl⟩, rfl, ?_⟩
  · simp [slugged]
  · intro written
    simp [slugged]

end Data

end Flowgraph
