import Mathlib.Data.List.Basic
import Flowgraph.Outbound.Call
/-!
# Query values that say nothing

A query value that is null, or a list of nulls alone (`Value.isVoid`), has no parameters
(`parametersOf_eq_nil_iff`), and a list has those of its items one after another
(`flatMap_parametersOf_itemsOf`). So the address of a call is the same without the values that say
nothing, and with the items of a list in its place, as long as the query is shown in the address
(`QueryShown`): there is none, or some value of it says something, or the address has a query of its
own. Any other query is written all the same, and leaves a question mark behind
(`build_of_not_queryShown`).
-/

namespace Flowgraph

namespace Value

/-- Whether a query value says nothing: it is null, or a list of nulls alone. -/
def isVoid : Value → Bool
  | .null => true
  | .list items => items.all isNull
  | _ => false

/-- An item of a list as a query value of its own. An item that is a list itself is one value all
the same, its written form. -/
def single : Value → Value
  | .list items => .text (stringify (.list items))
  | v => v

end Value

/-- The items of a list that are not null, one after another under the name of the list. -/
def itemsOf (k : String) (items : List Value) : List (String × Value) :=
  (items.filter fun v => !v.isNull).map fun v => (k, v.single)

/-! ## Parameters -/

theorem parametersOf_eq_nil_iff (entry : String × Value) :
    parametersOf entry = [] ↔ entry.2.isVoid = true := by
  obtain ⟨k, v⟩ := entry
  cases v with
  | null => exact iff_of_true rfl rfl
  | list items => simp [parametersOf, Value.isVoid, List.filter_eq_nil_iff]
  | _ => exact iff_of_false (List.cons_ne_nil _ _) Bool.false_ne_true

theorem parametersOf_single (k : String) {v : Value} (h : v.isNull = false) :
    parametersOf (k, v.single) = [(k, v.stringify)] := by
  cases v with
  | null => cases h
  | _ => rfl

/-- A list has the parameters of its items. -/
theorem flatMap_parametersOf_itemsOf (k : String) (items : List Value) :
    (itemsOf k items).flatMap parametersOf = parametersOf (k, .list items) := by
  have hitem : ∀ v ∈ items.filter fun v => !v.isNull,
      parametersOf (k, v.single) = [(k, v.stringify)] := by
    intro v hv
    exact parametersOf_single k (by simpa using (List.mem_filter.1 hv).2)
  rw [itemsOf, List.flatMap_map, List.flatMap_congr hitem]
  exact List.flatMap_pure_eq_map (fun v : Value => (k, v.stringify)) _

/-- Values that say nothing have no parameters. -/
theorem flatMap_parametersOf_filter (query : Value.Fields) :
    (query.filter fun entry => !entry.2.isVoid).flatMap parametersOf =
      query.flatMap parametersOf := by
  induction query with
  | nil => rfl
  | cons entry rest ih =>
    rw [List.filter_cons, List.flatMap_cons]
    split
    · rw [List.flatMap_cons, ih]
    · next h =>
      have hvoid : entry.2.isVoid = true := by simpa using h
      rw [(parametersOf_eq_nil_iff entry).2 hvoid, ih, List.nil_append]

/-- Some value says something where there are parameters. -/
theorem exists_isVoid_eq_false_iff (query : Value.Fields) :
    (∃ entry ∈ query, entry.2.isVoid = false) ↔ query.flatMap parametersOf ≠ [] := by
  simp only [Ne, List.flatMap_eq_nil_iff, parametersOf_eq_nil_iff, not_forall, exists_prop,
    Bool.not_eq_true]

/-! ## Addresses -/

variable {base : String} {path : Option String} {query : Value.Fields} {url : Url}

/-- An address with a query written into it, if there is one. -/
def Url.withQuery (url : Url) (query : Value.Fields) : Url :=
  if query.isEmpty then url else url.withParameters (query.flatMap parametersOf)

theorem build_of_ok (h : Url.build base path [] = .ok url) (query : Value.Fields) :
    Url.build base path query = .ok (url.withQuery query) := by
  unfold Url.build at h ⊢
  dsimp only at h ⊢
  cases hread : Url.read (joinPath base path) with
  | error cause => rw [hread] at h; cases h
  | ok root =>
    rw [hread] at h
    cases h
    dsimp only
    rw [Url.withQuery]
    split <;> rfl

theorem build_of_error {error : CallError} (h : Url.build base path [] = .error error)
    (query : Value.Fields) : Url.build base path query = .error error := by
  unfold Url.build at h ⊢
  dsimp only at h ⊢
  cases hread : Url.read (joinPath base path) with
  | error cause => rwa [hread] at h
  | ok root => rw [hread] at h; cases h

/-- Whether the query of a call is shown in its address, so that writing it leaves no mark of its
own: there is none, or some value in it says something, or the address has a query already. -/
def QueryShown (base : String) (path : Option String) (query : Value.Fields) : Prop :=
  query = [] ∨ (∃ entry ∈ query, entry.2.isVoid = false) ∨
    ∀ url, Url.build base path [] = .ok url → url.query.isSome

/-- Writing no parameters changes an address just where it has no query. -/
theorem withParameters_nil_eq_self_iff (url : Url) :
    url.withParameters [] = url ↔ url.query.isSome := by
  obtain ⟨scheme, authority, path, query, fragment⟩ := url
  cases query <;> simp [Url.withParameters]

/-- A query that is shown counts by its parameters alone. -/
theorem withQuery_of_queryShown (hurl : Url.build base path [] = .ok url)
    (h : QueryShown base path query) :
    url.withQuery query =
      if query.flatMap parametersOf = [] then url
      else url.withParameters (query.flatMap parametersOf) := by
  rw [Url.withQuery]
  split
  · next hempty =>
    rw [List.isEmpty_iff.1 hempty]
    rfl
  · next hquery =>
    split
    · next hnil =>
      rcases h with rfl | hsays | h
      · exact absurd rfl hquery
      · exact absurd hnil ((exists_isVoid_eq_false_iff query).1 hsays)
      · rw [hnil, (withParameters_nil_eq_self_iff url).2 (h url hurl)]
    · rfl

/-- Queries that are shown and have the same parameters make the same address. -/
theorem build_congr {query' : Value.Fields} (h : QueryShown base path query)
    (h' : QueryShown base path query')
    (hparameters : query'.flatMap parametersOf = query.flatMap parametersOf) :
    Url.build base path query' = Url.build base path query := by
  cases hurl : Url.build base path [] with
  | error error => rw [build_of_error hurl, build_of_error hurl]
  | ok url =>
    rw [build_of_ok hurl, build_of_ok hurl, withQuery_of_queryShown hurl h,
      withQuery_of_queryShown hurl h', hparameters]

/-- The values that say something are shown, if there are any. -/
theorem queryShown_filter (base : String) (path : Option String) (query : Value.Fields) :
    QueryShown base path (query.filter fun entry => !entry.2.isVoid) := by
  by_cases hempty : query.filter (fun entry => !entry.2.isVoid) = []
  · exact .inl hempty
  · obtain ⟨entry, hentry⟩ := List.exists_mem_of_ne_nil _ hempty
    exact .inr (.inl ⟨entry, hentry, by simpa using (List.mem_filter.1 hentry).2⟩)

/-- A list counts by its items. -/
theorem flatMap_parametersOf_spread (before after : Value.Fields) (k : String)
    (items : List Value) :
    (before ++ itemsOf k items ++ after).flatMap parametersOf =
      (before ++ (k, .list items) :: after).flatMap parametersOf := by
  rw [List.flatMap_append, List.flatMap_append, List.flatMap_append, List.flatMap_cons,
    flatMap_parametersOf_itemsOf, List.append_assoc]

/-- With the items of a list in its place a query is shown as before. -/
theorem queryShown_spread {before after : Value.Fields} {k : String} {items : List Value}
    (h : QueryShown base path (before ++ (k, .list items) :: after)) :
    QueryShown base path (before ++ itemsOf k items ++ after) := by
  refine .inr (h.elim (fun hnil => ?_) fun h => h.imp_left fun hsays => ?_)
  · exact absurd hnil (List.append_ne_nil_of_right_ne_nil _ (List.cons_ne_nil _ _))
  · rw [exists_isVoid_eq_false_iff, flatMap_parametersOf_spread]
    exact (exists_isVoid_eq_false_iff _).1 hsays

/-- A query that is not shown leaves a question mark behind. -/
theorem build_of_not_queryShown (h : ¬QueryShown base path query) :
    ∃ url, Url.build base path [] = .ok url ∧ url.query = none ∧
      Url.build base path query = .ok { url with query := some [] } := by
  rw [QueryShown, not_or, not_or, exists_isVoid_eq_false_iff, not_not, not_forall] at h
  obtain ⟨hquery, hparameters, url, h⟩ := h
  obtain ⟨hurl, hnone⟩ := Classical.not_imp.1 h
  have hnone : url.query = none := Option.not_isSome_iff_eq_none.1 hnone
  refine ⟨url, hurl, hnone, ?_⟩
  rw [build_of_ok hurl, Url.withQuery, hparameters, if_neg (List.isEmpty_iff.not.2 hquery),
    Url.withParameters, hnone]
  rfl

/-- **Values that say nothing add nothing** to an address that the query is shown in, and only to
such an address: any other query leaves a question mark behind. Where it is shown, a list adds what
its items add that are not null, one after another under the name of the list. -/
theorem build_without_void (base : String) (path : Option String) (query : Value.Fields) :
    (Url.build base path (query.filter fun entry => !entry.2.isVoid) =
        Url.build base path query ↔ QueryShown base path query) ∧
      (QueryShown base path query → ∀ before k items after,
        query = before ++ (k, .list items) :: after →
          Url.build base path (before ++ itemsOf k items ++ after) =
            Url.build base path query) ∧
      (¬QueryShown base path query → ∃ url, Url.build base path [] = .ok url ∧ url.query = none ∧
        Url.build base path query = .ok { url with query := some [] }) := by
  refine ⟨⟨fun heq => ?_, fun h => ?_⟩, ?_, build_of_not_queryShown⟩
  · by_contra h
    obtain ⟨url, hurl, hnone, hmarked⟩ := build_of_not_queryShown h
    rw [QueryShown, not_or, not_or] at h
    have hempty : query.filter (fun entry => !entry.2.isVoid) = [] :=
      List.filter_eq_nil_iff.2 fun entry hentry hsays =>
        h.2.1 ⟨entry, hentry, by simpa using hsays⟩
    rw [hempty, hurl, hmarked, Except.ok.injEq] at heq
    have hquery := congrArg Url.query heq
    rw [hnone] at hquery
    cases hquery
  · exact build_congr h (queryShown_filter base path query) (flatMap_parametersOf_filter query)
  · rintro h before k items after rfl
    exact build_congr h (queryShown_spread h) (flatMap_parametersOf_spread before after k items)

/-- A query for the second page of two tags. -/
def tagged : Value.Fields :=
  [("page", .int 2), ("skip", .null), ("tag", .list [.text "a", .null, .text "b"])]

/-- What is null is skipped, and the name of the tags is repeated. -/
theorem build_without_void_tagged :
    QueryShown "http://[::1]" none tagged ∧
      Url.build "http://[::1]" none
        [("page", .int 2), ("tag", .list [.text "a", .null, .text "b"])] =
          Url.build "http://[::1]" none tagged ∧
      Url.build "http://[::1]" none
        [("page", .int 2), ("skip", .null), ("tag", .text "a"), ("tag", .text "b")] =
          Url.build "http://[::1]" none tagged ∧
      (Url.build "http://[::1]" none tagged).toOption.map Url.render =
        some "http://[::1]/?page=2&tag=a&tag=b" := by
  have hshown : QueryShown "http://[::1]" none tagged :=
    .inr (.inl ⟨("page", .int 2), List.mem_cons_self, rfl⟩)
  obtain ⟨hwithout, hspread, -⟩ := build_without_void "http://[::1]" none tagged
  exact ⟨hshown, hwithout.2 hshown,
    hspread hshown [("page", .int 2), ("skip", .null)] "tag" _ [] rfl, by decide +kernel⟩

/-- **A null leaves a question mark behind** where it is all that a query has. -/
theorem null_leaves_mark :
    ¬∀ (base : String) (path : Option String) (query : Value.Fields),
      Url.build base path query =
        Url.build base path (query.filter fun entry => !entry.2.isVoid) := by
  intro h
  have hquery := congrArg (fun url => url.toOption.map Url.render)
    (h "http://[::1]" none [("a", .null)])
  revert hquery
  decide +kernel

end Flowgraph
