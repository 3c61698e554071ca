import Flowgraph.Proofs.Query.Result
import Flowgraph.Proofs.Registry.Population
import Flowgraph.Proofs.Registry.Subtypes
import Flowgraph.Proofs.Run.RecordTasks
/-!
# Reading a list, its first record and its length

The tasks that read records come to them in three ways: `Read` answers what a query by the rules
answers, `ReadFirst` the first record that a lookup by the same rules finds, and `Count` applies the
filters alone. On the side of the data they agree (`Data.resultOf_readFirst`,
`Collection.count_eq_length`). The nodes are made of properties, and what these come to depends on
nothing but the entries that are read: the same entity selects the same collection, the same entries
make the same rules, and a list of filters is the same whether it stands among the rules or by
itself, whatever elements it has (`PopulateScope.filters_populateNode`). So nodes that ask the same
agree in their answers (`Application.reading_agrees`).
-/

namespace Flowgraph

/-! ## On the side of the data -/

/-- The rules without a page. -/
def RuleSet.unpaged (rules : RuleSet) : RuleSet :=
  { rules with page := none, pageSize := none }

/-- What satisfies the filters of some rules is what the rules select without a page. -/
theorem Collection.count_eq_length (collection : Collection) (rules : RuleSet) :
    collection.count (CompiledQuery.compileFilters rules.filters collection.schema) =
      (Data.select (some rules.unpaged) collection).length := by
  have hwindow : (CompiledQuery.ofRules rules.unpaged collection.schema).window = none := rfl
  rw [Data.select, query, CompiledQuery.apply_of_window_eq_none hwindow,
    List.length_mergeSort, count, List.countP_eq_length_filter]
  rfl

namespace Data

variable {spec : EntitySpec} {stores : List Provider}

/-- The result of a task, a failure where it could not be carried out; its successor aside. -/
def resultOf (task : StoreM ActionResult) (stores : List Provider) : ActionResult :=
  match task.run stores with
  | .ok result _ => { result with nextNode := none }
  | .error message _ => .failureWith message

/-- What a task that reads comes to with the collection of its entity. -/
def reading (spec : EntitySpec) (stores : List Provider) (found : Collection → ActionResult) :
    ActionResult :=
  match openCollection spec stores with
  | .ok work => found work.collection
  | .error error => .failureWith error.message

theorem resultOf_read (rules : Option RuleSet) :
    resultOf (read (some spec) rules) stores = reading spec stores fun collection =>
      .returning (.list ((select rules collection).map .map)) := by
  rw [resultOf, read, run_openCollection_bind, reading]
  cases openCollection spec stores <;> rfl

/-- The answer with the first of some records, a failure if there is none. -/
def firstOf (spec : EntitySpec) : List Record → ActionResult
  | record :: _ => .returning (.map record)
  | [] => noRecord spec

theorem resultOf_readFirst (rules : RuleSet) :
    resultOf (readFirst (some spec) ⟨none, some rules⟩) stores =
      reading spec stores fun collection => firstOf spec (select (some rules) collection) := by
  have hfind : ∀ collection : Collection,
      find ⟨none, some rules⟩ collection = .ok (select (some rules) collection).head? :=
    fun _ => rfl
  rw [resultOf, readFirst, run_openCollection_bind, reading]
  cases openCollection spec stores with
  | error error => rfl
  | ok work =>
    simp only [run_ofExcept_bind, hfind]
    cases select (some rules) work.collection <;> rfl

theorem resultOf_count (filters : List FilterRule) :
    resultOf (count (some spec) filters) stores =
      reading spec stores fun collection => .returning
        (.int (collection.count (CompiledQuery.compileFilters filters collection.schema))) := by
  rw [resultOf, count, run_openCollection_bind, reading]
  cases openCollection spec stores <;> rfl

end Data

/-! ## What the properties of the nodes come to -/

namespace PopulateScope

variable {scope : PopulateScope}

/-- The entity that a property selects, if it is there. -/
def selection? (scope : PopulateScope) (v : Option Value) : Option EntitySpec :=
  (v.filter fun v => !v.isNull).bind fun v =>
    (scope.parseProperty "EntitySelect" v).toOption.bind PropertyValue.entitySelect?

/-- The rules that the entries of a map make. -/
def ruleSetOf (scope : PopulateScope) (entries : Value.Fields) : RuleSet :=
  parseRuleSet (populateFrom PropertyTypes.ruleSet.fields PropertyTypes.ruleSet.name
    (scope.entryReaders entries) none)

/-- The entries of some rules without those of the page. -/
def withoutPage (entries : Value.Fields) : Value.Fields :=
  Keyed.erase "page" (Keyed.erase "pageSize" entries)

theorem properties_congr {α : Type} (pick : PropertyValue → Option α) {bag other : FieldBag}
    {name : String} (h : bag.get? name = other.get? name) :
    bag.properties pick name = other.properties pick name := by
  rw [FieldBag.properties, FieldBag.properties, h]

/-- Without the entries of the page the rules are the same but for the page. -/
theorem ruleSetOf_withoutPage (scope : PopulateScope) (entries : Value.Fields) :
    scope.ruleSetOf (withoutPage entries) = (scope.ruleSetOf entries).unpaged := by
  have hnodup : (PropertyTypes.ruleSet.fields.map FieldDescriptor.name).Nodup := by decide
  have herased : ∀ name, Keyed.get? name (withoutPage entries) =
      if name = "page" ∨ name = "pageSize" then none else Keyed.get? name entries := by
    intro name
    rw [withoutPage, Keyed.get?_erase, Keyed.get?_erase]
    grind
  have hkept : ∀ name, name ≠ "page" → name ≠ "pageSize" →
      Keyed.get? name (scope.entryReaders (withoutPage entries)) =
        Keyed.get? name (scope.entryReaders entries) := by
    intro name hpage hsize
    rw [entryReaders_eq, entryReaders_eq, Keyed.get?_mapValues, Keyed.get?_mapValues, herased,
      if_neg (not_or.2 ⟨hpage, hsize⟩)]
  rw [ruleSetOf, ruleSetOf, parseRuleSet, parseRuleSet, RuleSet.unpaged]
  congr 1
  · exact properties_congr _
      (get?_populateFrom_congr hnodup (hkept "filters" (by decide) (by decide)) _)
  · exact properties_congr _
      (get?_populateFrom_congr hnodup (hkept "sorts" (by decide) (by decide)) _)
  · have hgiven : given? (withoutPage entries) "page" = none := by rw [given?, herased]; rfl
    exact (scope.int?_populateFrom (List.mem_of_getElem? (i := 2) rfl) hnodup _ _ _ rfl rfl).trans
      (congrArg (Option.bind · Value.toSigned32?) hgiven)
  · have hgiven : given? (withoutPage entries) "pageSize" = none := by rw [given?, herased]; rfl
    exact (scope.int?_populateFrom (List.mem_of_getElem? (i := 3) rfl) hnodup _ _ _ rfl rfl).trans
      (congrArg (Option.bind · Value.toSigned32?) hgiven)

section Nodes

variable {info : TypeInfo} {node : Node}

theorem selectionOf_populateNode (hmem : ActionTypes.selectField ∈ info.fields)
    (hnodup : (info.fields.map FieldDescriptor.name).Nodup) :
    ActionTypes.selectionOf (scope.populateNode info node) =
      scope.selection? (Keyed.get? "entity" node.properties) :=
  scope.property?_populateFrom hmem hnodup _ _ _ PropertyValue.entitySelect? rfl rfl

theorem filledText?_populateNode (hmem : ActionTypes.idField ∈ info.fields)
    (hnodup : (info.fields.map FieldDescriptor.name).Nodup)
    (habsent : Keyed.get? "idValue" node.properties = none) :
    (scope.populateNode info node).filledText? "idValue" = none := by
  have htext : (scope.populateNode info node).text? "idValue" =
      (given? node.properties "idValue").map Value.stringify :=
    scope.text?_populateFrom hmem hnodup _ _ _ rfl
  rw [FieldBag.filledText?, htext, given?, habsent]
  rfl

/-- A list of filters by itself is the same as among rules. -/
theorem filters_populateNode
    (hmem : .plain "filters" (.list (.capability "FilterRule")) ∈ info.fields)
    (hnodup : (info.fields.map FieldDescriptor.name).Nodup) {rules : Value.Fields}
    (hfilters : Keyed.get? "filters" node.properties = Keyed.get? "filters" rules) :
    (scope.populateNode info node).properties PropertyValue.filterRule? "filters" =
      (scope.ruleSetOf rules).filters := by
  have hrules : FieldDescriptor.plain "filters" (.list (.capability "FilterRule")) ∈
      PropertyTypes.ruleSet.fields := List.mem_of_getElem? (i := 0) rfl
  refine properties_congr _ ((scope.get?_populateFrom_entryReaders hmem hnodup rfl node.id
    node.properties (some node.actions)).trans (Eq.trans ?_
      (scope.get?_populateFrom_entryReaders hrules (by decide) rfl PropertyTypes.ruleSet.name rules
        none).symm))
  exact congrArg (Option.bind · _) hfilters

end Nodes

end PopulateScope

namespace Registry

/-- Whether the tasks that read records are built in, and so are the rules by which they read. -/
structure HasBuiltinReading (registry : Registry) : Prop where
  actions : ∀ type ∈ ["Read", "ReadFirst", "Count"],
    registry.actions.get? type = builtins.actions.get? type
  ruleSet : registry.properties.get? "RuleSet" = some ⟨PropertyTypes.ruleSet, some .ruleSet⟩
  /-- No other type takes the place of the rules. -/
  only : ∀ name named, registry.properties.get? name = some named →
    named.info.isA PropertyTypes.ruleSet = true → named = ⟨PropertyTypes.ruleSet, some .ruleSet⟩

theorem hasBuiltinReading_of_eq {registry : Registry}
    (hactions : registry.actions = builtins.actions)
    (hproperties : registry.properties = builtins.properties) : registry.HasBuiltinReading where
  actions type _ := by rw [hactions]
  ruleSet := by rw [hproperties]; rfl
  only name named hget hisA := by
    rw [hproperties] at hget
    exact eq_of_isA_builtins (List.mem_of_getElem? (i := 5) rfl) nofun hget hisA

/-- A map is parsed as the rules that its entries make, whatever type it names. -/
theorem HasBuiltinReading.parseProperty_ruleSet {registry : Registry}
    (h : registry.HasBuiltinReading) (model : Model) (entries : Value.Fields) :
    (registry.scope model).parseProperty "RuleSet" (.map entries) =
      .ok (.ruleSet ((registry.scope model).ruleSetOf entries)) := by
  rw [PopulateScope.parseProperty_eq h.ruleSet, PopulateScope.chooseType_of_only h.only]
  rfl

theorem HasBuiltinReading.ruleSet_populateNode {registry : Registry}
    (h : registry.HasBuiltinReading) {model : Model} {info : TypeInfo} {node : Node}
    {rules : Value.Fields} (hmem : ActionTypes.rulesField ∈ info.fields)
    (hnodup : (info.fields.map FieldDescriptor.name).Nodup)
    (hrules : Keyed.get? "rules" node.properties = some (.map rules)) :
    ((registry.scope model).populateNode info node).property? PropertyValue.ruleSet? "rules" =
      some ((registry.scope model).ruleSetOf rules) := by
  have hproperty : ((registry.scope model).populateNode info node).property?
      PropertyValue.ruleSet? "rules" = (PopulateScope.given? node.properties "rules").bind fun v =>
        ((registry.scope model).parseProperty "RuleSet" v).toOption.bind PropertyValue.ruleSet? :=
    (registry.scope model).property?_populateFrom hmem hnodup _ _ _ PropertyValue.ruleSet? rfl rfl
  have hgiven : PopulateScope.given? node.properties "rules" = some (.map rules) := by
    rw [PopulateScope.given?, hrules]
    rfl
  rw [hproperty, hgiven, Option.bind_some, h.parseProperty_ruleSet]
  rfl

end Registry

/-! ## Nodes that read -/

namespace Application

variable {app : Application} {context : Context} {entity : Option Value} {rules : Value.Fields}
  {id : NodeId} {task : Task} {world : World}

/-- What the properties of a node are in a context. -/
def propertyAt? (node : Node) (context : Context) (name : String) : Option Value :=
  Keyed.get? name (evaluateNode node context).properties

/-- Whether a node of a type has, in a context, the given entity and the given other properties. -/
def Asks (app : Application) (context : Context) (type : String) (entity : Option Value)
    (asked : List (String × Option Value)) (id : NodeId) : Prop :=
  ∃ node, app.model.action? id = some node ∧ node.type = type ∧
    propertyAt? node context "entity" = entity ∧
    ∀ entry ∈ asked, propertyAt? node context entry.1 = entry.2

/-- Whether a node is made into an action that carries out a task. -/
def Makes (app : Application) (context : Context) (id : NodeId) (task : Task) : Prop :=
  ∃ node slots, app.model.action? id = some node ∧
    app.instantiate node context = .ok (.stack slots task)

/-- A node is made into what the factory of its type builds of its evaluated properties. -/
theorem makes_of_asks (hbuiltin : app.registry.HasBuiltinReading) {type : String}
    (htype : type ∈ ["Read", "ReadFirst", "Count"]) {info : TypeInfo} {factory : ActionFactory}
    (hget : Registry.builtins.actions.get? type = some ⟨info, some factory⟩)
    {asked : List (String × Option Value)} (hasks : app.Asks context type entity asked id)
    (hbuild : ∀ node : Node, Keyed.get? "entity" node.properties = entity →
      (∀ entry ∈ asked, Keyed.get? entry.1 node.properties = entry.2) →
        factory ((app.registry.scope app.model).populateNode info node) =
          ActionTypes.stackOf ((app.registry.scope app.model).populateNode info node) task) :
    app.Makes context id task := by
  obtain ⟨node, hnode, rfl, hentity, hasked⟩ := hasks
  exact ⟨node, _, hnode, Registry.instantiateFrom_of_factory
    ((hbuiltin.actions node.type htype).trans hget) rfl
    (hbuild (evaluateNode node context) hentity hasked)⟩

section Made

variable (hbuiltin : app.registry.HasBuiltinReading)

include hbuiltin

theorem makes_read
    (hasks : app.Asks context "Read" entity [("rules", some (.map rules))] id) :
    app.Makes context id (.read ((app.registry.scope app.model).selection? entity)
      (some ((app.registry.scope app.model).ruleSetOf rules))) := by
  refine makes_of_asks hbuiltin (by decide) rfl hasks fun node hentity hasked => ?_
  have hrules := hasked _ List.mem_cons_self
  rw [ActionTypes.buildRead,
    PopulateScope.selectionOf_populateNode (List.mem_of_getElem? (i := 2) rfl) (by decide), hentity,
    hbuiltin.ruleSet_populateNode (List.mem_of_getElem? (i := 3) rfl) (by decide) hrules]

theorem makes_readFirst
    (hasks : app.Asks context "ReadFirst" entity [("rules", some (.map rules)), ("idValue", none)]
      id) :
    app.Makes context id (.readFirst ((app.registry.scope app.model).selection? entity)
      ⟨none, some ((app.registry.scope app.model).ruleSetOf rules)⟩) := by
  refine makes_of_asks hbuiltin (by decide) rfl hasks fun node hentity hasked => ?_
  have hrules := hasked _ List.mem_cons_self
  have hid := hasked _ (List.mem_cons_of_mem _ List.mem_cons_self)
  rw [ActionTypes.buildReadFirst, RecordLookup.ofBag,
    PopulateScope.selectionOf_populateNode (List.mem_of_getElem? (i := 2) rfl) (by decide), hentity,
    hbuiltin.ruleSet_populateNode (List.mem_of_getElem? (i := 4) rfl) (by decide) hrules,
    PopulateScope.filledText?_populateNode (List.mem_of_getElem? (i := 3) rfl) (by decide) hid]

theorem makes_count
    (hasks : app.Asks context "Count" entity [("filters", Keyed.get? "filters" rules)] id) :
    app.Makes context id (.count ((app.registry.scope app.model).selection? entity)
      ((app.registry.scope app.model).ruleSetOf rules).filters) := by
  refine makes_of_asks hbuiltin (by decide) rfl hasks fun node hentity hasked => ?_
  have hfilters := hasked _ List.mem_cons_self
  rw [ActionTypes.buildCount,
    PopulateScope.selectionOf_populateNode (List.mem_of_getElem? (i := 2) rfl) (by decide), hentity,
    PopulateScope.filters_populateNode (List.mem_of_getElem? (i := 3) rfl) (by decide) hfilters]

end Made

/-- The result of executing a node; its successor aside. -/
def answer? (app : Application) (runChain : ChainRunner) (id : NodeId) (world : World) :
    Option ActionResult :=
  (app.execute runChain id world).map fun outcome => { outcome.1 with nextNode := none }

/-- A node answers what its task comes to on the stores. -/
theorem answer?_of_makes {data : Data.StoreM ActionResult}
    (hmakes : app.Makes world.context id task)
    (hperform : app.perform task world = onStores data world) (runChain : ChainRunner) :
    app.answer? runChain id world = some (Data.resultOf data world.stores) := by
  obtain ⟨node, slots, hnode, hmade⟩ := hmakes
  simp only [answer?, execute, hnode, hmade, performStack, hperform, onStores, Data.resultOf]
  cases data.run world.stores with
  | error message left => rfl
  | ok result left => rfl

/-- **Reading a list, its first record and its length agree.** Let one node read a list of records
by some rules, another one with the same entity and rules their first record, a third the list by
the rules without a page, and a fourth count the records by the filters of the rules. They all fail
in the same way, or the second one answers the first record of the first list, and fails if there is
none, and the fourth one answers the length of the third list. -/
theorem reading_agrees (hbuiltin : app.registry.HasBuiltinReading)
    {read first unpaged count : NodeId}
    (hread : app.Asks world.context "Read" entity [("rules", some (.map rules))] read)
    (hfirst : app.Asks world.context "ReadFirst" entity
      [("rules", some (.map rules)), ("idValue", none)] first)
    (hunpaged : app.Asks world.context "Read" entity
      [("rules", some (.map (PopulateScope.withoutPage rules)))] unpaged)
    (hcount : app.Asks world.context "Count" entity
      [("filters", Keyed.get? "filters" rules)] count)
    (runChain : ChainRunner) :
    (∃ message, ∀ id ∈ [read, first, unpaged, count],
      app.answer? runChain id world = some (.failureWith message)) ∨
    ∃ (spec : EntitySpec) (page all : List Record),
      app.answer? runChain read world = some (.returning (.list (page.map .map))) ∧
      app.answer? runChain first world = some (Data.firstOf spec page) ∧
      app.answer? runChain unpaged world = some (.returning (.list (all.map .map))) ∧
      app.answer? runChain count world = some (.returning (.int all.length)) := by
  have hread := answer?_of_makes (makes_read hbuiltin hread) rfl runChain
  have hfirst := answer?_of_makes (makes_readFirst hbuiltin hfirst) rfl runChain
  have hunpaged := answer?_of_makes (makes_read hbuiltin hunpaged) rfl runChain
  have hcount := answer?_of_makes (makes_count hbuiltin hcount) rfl runChain
  rw [PopulateScope.ruleSetOf_withoutPage] at hunpaged
  -- All four select one entity and open one collection, or none of them does.
  cases hentity : (app.registry.scope app.model).selection? entity with
  | none =>
    rw [hentity] at hread hfirst hunpaged hcount
    refine .inl ⟨"no entity is selected", ?_⟩
    simp only [List.forall_mem_cons]
    exact ⟨hread, hfirst, hunpaged, hcount, nofun⟩
  | some spec =>
    rw [hentity] at hread hfirst hunpaged hcount
    rw [Data.resultOf_read, Data.reading] at hread hunpaged
    rw [Data.resultOf_readFirst, Data.reading] at hfirst
    rw [Data.resultOf_count, Data.reading] at hcount
    cases hopen : Data.openCollection spec world.stores with
    | error error =>
      rw [hopen] at hread hfirst hunpaged hcount
      refine .inl ⟨error.message, ?_⟩
      simp only [List.forall_mem_cons]
      exact ⟨hread, hfirst, hunpaged, hcount, nofun⟩
    | ok work =>
      rw [hopen] at hread hfirst hunpaged hcount
      simp only [Collection.count_eq_length] at hcount
      exact .inr ⟨spec, _, _, hread, hfirst, hunpaged, hcount⟩

/-! ### Reading articles -/

/-- An article with a number. -/
def numbered (id : Int) : Record :=
  [("id", .int id), ("title", .text "On reading")]

/-- A store with three articles. -/
def shelf : Provider :=
  { archive none with
    store := (archive none).store.write "Articles" [numbered 1, numbered 2, numbered 3] }

/-- Asks for the articles behind the first one; the second element is no filter. -/
def behindFirst : Value.Fields :=
  [("filters", .list
      [.map [("attribute", .text "id"), ("type", .text "Greater"), ("value", .int 1)], .int 7]),
    ("page", .int 1), ("pageSize", .int 1)]

/-- A node that asks something of the articles. -/
def asking (id type name : String) (v : Value) : Node where
  id := id
  type := type
  properties := [("entity", .text "Archive.Articles"), (name, v)]

/-- An application that reads articles in four ways. -/
def readingRoom : Application where
  registry := Registry.builtins.registerProviders [shelf]
  model :=
    [asking "list" "Read" "rules" (.map behindFirst),
      asking "first" "ReadFirst" "rules" (.map behindFirst),
      asking "all" "Read" "rules" (.map (PopulateScope.withoutPage behindFirst)),
      asking "number" "Count" "filters" ((Keyed.get? "filters" behindFirst).getD .null)].foldl
        (fun model node => model.insert .actions node) Model.empty
  transport _ := .error "offline"

/-- The page has one article, and there are two in all. -/
theorem reading_agrees_readingRoom :
    readingRoom.registry.HasBuiltinReading ∧ ∃ entity rules,
      readingRoom.Asks .empty "Read" entity [("rules", some (.map rules))] "list" ∧
      readingRoom.Asks .empty "ReadFirst" entity
        [("rules", some (.map rules)), ("idValue", none)] "first" ∧
      readingRoom.Asks .empty "Read" entity
        [("rules", some (.map (PopulateScope.withoutPage rules)))] "all" ∧
      readingRoom.Asks .empty "Count" entity
        [("filters", Keyed.get? "filters" rules)] "number" ∧
      ∃ record,
        readingRoom.answer? (fun _ _ => none) "list" ⟨.empty, [shelf]⟩ =
          some (.returning (.list [.map record])) ∧
        readingRoom.answer? (fun _ _ => none) "first" ⟨.empty, [shelf]⟩ =
          some (.returning (.map record)) ∧
        readingRoom.answer? (fun _ _ => none) "number" ⟨.empty, [shelf]⟩ =
          some (.returning (.int 2)) := by
  let entity := Template.evaluateValue .empty (.text "Archive.Articles")
  let rules := Template.evaluateFields .empty behindFirst
  have hbuiltin : readingRoom.registry.HasBuiltinReading :=
    Registry.hasBuiltinReading_of_eq rfl rfl
  have hlist : readingRoom.Asks .empty "Read" (some entity) [("rules", some (.map rules))]
      "list" := ⟨_, rfl, rfl, rfl, by simp only [List.forall_mem_cons]; exact ⟨rfl, nofun⟩⟩
  have hfirst : readingRoom.Asks .empty "ReadFirst" (some entity)
      [("rules", some (.map rules)), ("idValue", none)] "first" :=
    ⟨_, rfl, rfl, rfl, by simp only [List.forall_mem_cons]; exact ⟨rfl, rfl, nofun⟩⟩
  have hall : readingRoom.Asks .empty "Read" (some entity)
      [("rules", some (.map (PopulateScope.withoutPage rules)))] "all" :=
    ⟨_, rfl, rfl, rfl, by simp only [List.forall_mem_cons]; exact ⟨rfl, nofun⟩⟩
  have hnumber : readingRoom.Asks .empty "Count" (some entity)
      [("filters", Keyed.get? "filters" rules)] "number" :=
    ⟨_, rfl, rfl, rfl, by simp only [List.forall_mem_cons]; exact ⟨rfl, nofun⟩⟩
  have hone : ((readingRoom.answer? (fun _ _ => none) "list" ⟨.empty, [shelf]⟩).bind fun result =>
      (result.returnData.bind Value.items?).map List.length) = some 1 := by decide +kernel
  have htwo : ((readingRoom.answer? (fun _ _ => none) "number" ⟨.empty, [shelf]⟩).bind fun result =>
      result.returnData.bind Value.int?) = some 2 := by decide +kernel
  refine ⟨hbuiltin, _, _, hlist, hfirst, hall, hnumber, ?_⟩
  rcases @reading_agrees readingRoom _ _ ⟨.empty, [shelf]⟩ hbuiltin _ _ _ _ hlist hfirst hall
    hnumber (fun _ _ => none) with ⟨message, hfailed⟩ | ⟨spec, page, all, hpage, hhead, -, hcount⟩
  · rw [hfailed "list" List.mem_cons_self] at hone
    cases hone
  · rw [hpage] at hone
    rw [hcount] at htwo ⊢
    have hpageLength : (page.map Value.map).length = 1 := Option.some.inj hone
    rw [List.length_map, List.length_eq_one_iff] at hpageLength
    obtain ⟨record, rfl⟩ := hpageLength
    have hlength : (all.length : Int) = 2 := Option.some.inj htwo
    rw [hlength]
    exact ⟨record, hpage, hhead, rfl⟩

end Application

end Flowgraph
