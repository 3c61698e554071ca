import Flowgraph.Endpoint.Types
import Flowgraph.Proofs.Registry.Population
/-!
# What the properties of an endpoint ask of a caller

The access policy of a built-in endpoint, said of the properties of its node: `Admits` asks what a
reader of the document expects, without populated fields and parsed lists. `permits_iff_admits`
says that the policy made of the node permits a caller exactly then. The fields of a policy come
first in every built-in type (`policyFields_isPrefix`) and each factory builds the policy of them
(`access_of_factory`); a graph has its condition besides (`precondition_iff`).
-/

namespace Flowgraph

namespace AccessPolicy

open PopulateScope (given?)

/-- Whether a property reads as true. -/
def ReadsTrue (properties : Value.Fields) (name : String) : Prop :=
  ∃ v, given? properties name = some v ∧ v.toBool? = some true

/-- Whether the comma list in a property has an item that is not blank. -/
def Lists (properties : Value.Fields) (name item : String) : Prop :=
  ∃ v, given? properties name = some v ∧ ∃ part ∈ v.stringify.toList.splitOn ',',
    Text.trimBoth part ≠ [] ∧ item = String.ofList (Text.trimBoth part)

/-- Whether one of the listed items is held, if any is listed. -/
def HoldsListed (properties : Value.Fields) (name : String) (held : List String) : Prop :=
  (∃ item, Lists properties name item) → ∃ item, Lists properties name item ∧ item ∈ held

/-- What the properties of an endpoint node ask of a caller. -/
structure Admits (scope : PopulateScope) (properties : Value.Fields) (principal : Principal) :
    Prop where
  caller : ReadsTrue properties "allowAnonymous" ∨ principal.authenticated = true ∧
    HoldsListed properties "allowedRoles" principal.roles ∧
    HoldsListed properties "allowedScopes" principal.scopes
  condition : ∀ condition, scope.ReadsCondition properties "allowedCondition" condition →
    condition.holds = true

/-! ## Parsed lists -/

theorem mem_splitList {s item : String} :
    item ∈ splitList s ↔ ∃ part ∈ s.toList.splitOn ',',
      Text.trimBoth part ≠ [] ∧ item = String.ofList (Text.trimBoth part) := by
  unfold splitList
  simp only [List.mem_map, List.mem_filter]
  constructor
  · rintro ⟨trimmed, ⟨⟨part, hpart, rfl⟩, hne⟩, rfl⟩
    exact ⟨part, hpart, by simpa using hne, rfl⟩
  · rintro ⟨part, hpart, hne, rfl⟩
    exact ⟨_, ⟨⟨part, hpart, rfl⟩, by simpa using hne⟩, rfl⟩

/-- The list that a policy makes of a property. -/
def listed (properties : Value.Fields) (name : String) : List String :=
  splitList (((given? properties name).map Value.stringify).getD "")

theorem mem_listed {properties : Value.Fields} {name item : String} :
    item ∈ listed properties name ↔ Lists properties name item := by
  unfold listed Lists
  cases given? properties name with
  | none =>
    have hempty : splitList ((none.map Value.stringify).getD "") = [] := by decide
    rw [hempty]
    constructor
    · exact fun hmem => absurd hmem List.not_mem_nil
    · rintro ⟨v, hv, -⟩
      cases hv
  | some v =>
    rw [Option.map_some, Option.getD_some, mem_splitList]
    constructor
    · exact fun hpart => ⟨v, rfl, hpart⟩
    · rintro ⟨v', hv', hpart⟩
      rw [Option.some.inj hv']
      exact hpart

theorem holdsListed_iff {properties : Value.Fields} {name : String} {held : List String} :
    (listed properties name ≠ [] → ∃ item ∈ listed properties name, item ∈ held) ↔
      HoldsListed properties name held := by
  simp only [mem_listed]
  constructor
  · rintro h ⟨item, hitem⟩
    exact h (List.ne_nil_of_mem (mem_listed.2 hitem))
  · intro h hne
    obtain ⟨item, hitem⟩ := List.exists_mem_of_ne_nil _ hne
    exact h ⟨item, mem_listed.1 hitem⟩

end AccessPolicy

/-! ## The built-in endpoint types -/

namespace EndpointTypes

open AccessPolicy
open PopulateScope (given? conditionAt? ReadsCondition)

variable {registration : Registration EndpointFactory}

/-- The fields of the access policy come first in every built-in endpoint type. -/
theorem policyFields_isPrefix (h : registration ∈ registrations) :
    endpoint.fields <+: registration.info.fields := by
  simp only [registrations, List.mem_cons, List.not_mem_nil, or_false] at h
  rcases h with rfl | rfl | rfl | rfl | rfl
  all_goals exact ⟨_, rfl⟩

theorem nodup_fields (h : registration ∈ registrations) :
    (registration.info.fields.map FieldDescriptor.name).Nodup := by
  simp only [registrations, List.mem_cons, List.not_mem_nil, or_false] at h
  rcases h with rfl | rfl | rfl | rfl | rfl
  all_goals decide

/-- The policy of a populated endpoint, from the properties of its node. -/
theorem ofBag_populateNode (h : registration ∈ registrations) (scope : PopulateScope)
    (node : Node) :
    ofBag (scope.populateNode registration.info node) =
      { allowAnonymous := ((given? node.properties "allowAnonymous").bind Value.toBool?).getD false
        allowedRoles := listed node.properties "allowedRoles"
        allowedScopes := listed node.properties "allowedScopes"
        allowedCondition := scope.conditionAt? node.properties "allowedCondition" } := by
  have hfields := (policyFields_isPrefix h).subset
  have hnodup := nodup_fields h
  -- The four fields of the policy are the first ones in the order of their declaration.
  have hanonymous : (scope.populateNode registration.info node).bool? "allowAnonymous" = _ :=
    scope.bool?_populateFrom (hfields (List.mem_of_getElem? (i := 0) rfl)) hnodup _ _ _ rfl
  have hroles : (scope.populateNode registration.info node).text? "allowedRoles" = _ :=
    scope.text?_populateFrom (hfields (List.mem_of_getElem? (i := 1) rfl)) hnodup _ _ _ rfl
  have hscopes : (scope.populateNode registration.info node).text? "allowedScopes" = _ :=
    scope.text?_populateFrom (hfields (List.mem_of_getElem? (i := 2) rfl)) hnodup _ _ _ rfl
  have hcondition : (scope.populateNode registration.info node).property?
      PropertyValue.condition? "allowedCondition" = _ :=
    scope.property?_populateFrom (hfields (List.mem_of_getElem? (i := 3) rfl)) hnodup _ _ _
      PropertyValue.condition? rfl rfl
  rw [ofBag, hanonymous, hroles, hscopes, hcondition]
  rfl

/-- **The policy of a populated endpoint** permits whom the properties of its node admit. -/
theorem permits_iff_admits (h : registration ∈ registrations) (scope : PopulateScope) (node : Node)
    (principal : Principal) :
    (ofBag (scope.populateNode registration.info node)).permits principal = true ↔
      Admits scope node.properties principal := by
  rw [ofBag_populateNode h, permits_iff, holdsListed_iff, holdsListed_iff]
  have hanonymous : ((given? node.properties "allowAnonymous").bind Value.toBool?).getD false =
      true ↔ ReadsTrue node.properties "allowAnonymous" := by
    rw [Option.getD_eq_iff]
    simp [Option.bind_eq_some_iff, ReadsTrue]
  simp only [hanonymous, PopulateScope.conditionAt?_eq_some_iff]
  exact ⟨fun hadmits => ⟨hadmits.1, hadmits.2⟩, fun hadmits => ⟨hadmits.caller, hadmits.condition⟩⟩

/-- Every factory of a built-in endpoint type builds the policy of the populated fields. -/
theorem access_of_factory (h : registration ∈ registrations) {factory : EndpointFactory}
    (hfactory : registration.factory = some factory) {bag : FieldBag} {endpoint : Endpoint}
    (hbuild : factory bag = .ok endpoint) : endpoint.access = ofBag bag := by
  simp only [registrations, List.mem_cons, List.not_mem_nil, or_false] at h
  rcases h with rfl | rfl | rfl | rfl | rfl
  all_goals cases hfactory
  all_goals cases hbuild
  all_goals rfl

/-- The types of graphs that are not abstract. -/
theorem eq_of_name (h : registration ∈ registrations)
    (hname : registration.info.name = "Query" ∨ registration.info.name = "Mutation") :
    registration = ⟨query, some buildGraph⟩ ∨ registration = ⟨mutation, some buildGraph⟩ := by
  simp only [registrations, List.mem_cons, List.not_mem_nil, or_false] at h
  rcases h with rfl | rfl | rfl | rfl | rfl
  · exact absurd hname (by decide)
  · exact absurd hname (by decide)
  · exact absurd hname (by decide)
  · exact .inl rfl
  · exact .inr rfl

/-- **The own condition of a graph** holds if its node has no condition that fails. -/
theorem precondition_iff (h : registration ∈ registrations)
    (hname : registration.info.name = "Query" ∨ registration.info.name = "Mutation")
    {factory : EndpointFactory} (hfactory : registration.factory = some factory)
    (scope : PopulateScope) (node : Node) {endpoint : Endpoint}
    (hbuild : factory (scope.populateNode registration.info node) = .ok endpoint) :
    endpoint.precondition = true ↔ ∀ condition,
      scope.ReadsCondition node.properties "condition" condition → condition.holds = true := by
  have hnodup := nodup_fields h
  have hfield : FieldDescriptor.plain "condition" (.capability "Condition") ∈
      registration.info.fields := by
    rcases eq_of_name h hname with rfl | rfl
    all_goals exact List.mem_of_getElem? (i := 6) rfl
  have hcondition : (scope.populateNode registration.info node).property?
      PropertyValue.condition? "condition" = scope.conditionAt? node.properties "condition" :=
    scope.property?_populateFrom hfield hnodup _ _ _ PropertyValue.condition? rfl rfl
  have hpre : endpoint.precondition =
      (scope.conditionAt? node.properties "condition").all Condition.holds := by
    rw [← hcondition]
    rcases eq_of_name h hname with rfl | rfl
    all_goals cases hfactory
    all_goals cases hbuild
    all_goals rfl
  rw [hpre]
  exact PopulateScope.all_conditionAt?_iff

end EndpointTypes

end Flowgraph
