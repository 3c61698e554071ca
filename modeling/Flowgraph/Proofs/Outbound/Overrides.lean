import Flowgraph.Proofs.Registry.Population
import Flowgraph.Proofs.Registry.Subtypes
import Flowgraph.Proofs.Steps
import Flowgraph.Proofs.Template.Filling
import Flowgraph.Proofs.Template.Values
import Flowgraph.Run.World
/-!
# The overrides of a request

The value in the `request` property of a node overrides properties of a type node. It is evaluated
twice on the way to the call: with all properties of the node, before the action is made, and once
more after it was merged over the properties of the type, which were not evaluated yet. So where
the body of the request is an expression, the call carries the value of its value: the text that the
expression resolves to is itself read as a template. It arrives as it is if it has no expression in
it, and need not if it has one.
-/

namespace Flowgraph

open PopulateScope (given?)
open Value (Step place? mergeValue)

/-- Whether the requests of a registry are made by the built-in types. -/
structure Registry.HasBuiltinRequests (registry : Registry) : Prop where
  actions : registry.actions = Registry.builtins.actions
  properties : registry.properties = Registry.builtins.properties

/-! ## Parsing -/

namespace PopulateScope

variable {scope : PopulateScope}

/-- With the built-in property types a request is parsed by their parser. -/
theorem parseProperty_requestSpec (h : scope.properties = Registry.builtins.properties)
    (v : Value) :
    scope.parseProperty "RequestSpec" v = (scope.parseRequestSpec v).map .request :=
  parseProperty_of_builtins h (List.mem_of_getElem? (i := 8) rfl) rfl v

/-- The properties of a parsed request are those of its type with the written map merged over
them. -/
theorem parseRequestSpec_eq_ok {v : Value} {spec : RequestSpec}
    (h : scope.parseRequestSpec v = .ok spec) :
    ∃ overrides properties, v = .map overrides ∧
      spec.properties = Keyed.erase typeKey (Value.merge properties overrides) := by
  unfold parseRequestSpec at h
  split at h
  · next overrides =>
    dsimp only at h
    split at h
    · obtain ⟨properties, -, h⟩ := bind_eq_ok.1 h
      cases h
      exact ⟨overrides, properties, rfl, rfl⟩
    · cases h
      exact ⟨overrides, [], rfl, rfl⟩
  · cases h

end PopulateScope

namespace RequestSpec

/-! ## The body of a call -/

/-- Where a property is null it is as if it were not there. -/
theorem getD_given? (entries : Value.Fields) (name : String) :
    (given? entries name).getD .null = (Keyed.get? name entries).getD .null := by
  unfold given?
  cases Keyed.get? name entries with
  | none => rfl
  | some v => cases v <;> rfl

/-- The body of a call is that of the evaluated request, null where it has none. -/
theorem body_resolve {spec : RequestSpec} {body : Value}
    (h : Keyed.get? "body" spec.properties = some body) (context : Context)
    (scope : PopulateScope) :
    (spec.resolve context scope).body.getD .null = Template.evaluateValue context body := by
  have hfield : FieldDescriptor.plain "body" .json ∈ PropertyTypes.requestSpec.fields :=
    List.mem_of_getElem? (i := 5) rfl
  have hbody : (spec.resolve context scope).body =
      given? (Template.evaluateFields context spec.properties) "body" :=
    scope.json?_populateFrom hfield (by decide) _ _ none rfl
  rw [hbody, getD_given?, Template.evaluateFields_eq, Keyed.get?_mapValues, h]
  rfl

/-- **An override in the body** is evaluated before it is merged and once more afterwards, as long
as no map comes of the first evaluation, which would be merged itself. -/
theorem place?_body_resolve {context : Context} {v w : Value} {path : List Step}
    (hnames : v.namesOnce = true) (hplace : place? (.field "body" :: path) v = some w)
    (hleaf : (Template.evaluateValue context w).fields? = none) {scope : PopulateScope}
    {spec : RequestSpec}
    (hparse : scope.parseRequestSpec (Template.evaluateValue context v) = .ok spec) :
    place? path ((spec.resolve context scope).body.getD .null) =
      some (Template.evaluateValue context (Template.evaluateValue context w)) := by
  obtain ⟨overrides, properties, hmap, hproperties⟩ := PopulateScope.parseRequestSpec_eq_ok hparse
  have hmerged := Template.place?_mergeValue_evaluateValue hnames hplace hleaf
    (some (.map properties))
  rw [hmap] at hmerged
  obtain ⟨body, hbody, hrest⟩ := Value.place?_cons_eq_some_iff.1 hmerged
  have hget : Keyed.get? "body" spec.properties = some body := by
    rw [hproperties, Keyed.get?_erase, if_neg (by decide)]
    exact hbody
  rw [body_resolve hget]
  exact Template.place?_evaluateValue hrest

end RequestSpec

/-! ## Request nodes -/

namespace Application

variable {app : Application} {node : Node} {context : Context} {v : Value}

/-- The type of nodes that carry out requests. -/
def requestInfo : TypeInfo :=
  ActionTypes.stackType "Request"
    [.plain "request" (.capability "RequestSpec"), .plain "headers" .map]

/-- A request node carries out the request that its evaluated property is parsed as. -/
theorem exists_request (hbuiltin : app.registry.HasBuiltinRequests) (htype : node.type = "Request")
    (hrequest : Keyed.get? "request" node.properties = some v) {made : PropertyValue}
    (hparse : (app.registry.scope app.model).parseProperty "RequestSpec"
      (Template.evaluateValue context v) = .ok made) :
    ∃ spec slots headers, made = .request spec ∧
      (app.registry.scope app.model).parseRequestSpec (Template.evaluateValue context v) =
        .ok spec ∧
      app.instantiate node context = .ok (.stack slots (.request (some spec) headers)) := by
  have hspec := hparse
  rw [PopulateScope.parseProperty_requestSpec hbuiltin.properties,
    PopulateScope.map_eq_ok] at hspec
  obtain ⟨spec, hspec, rfl⟩ := hspec
  obtain ⟨overrides, -, hmap, -⟩ := PopulateScope.parseRequestSpec_eq_ok hspec
  have hgiven : given? (evaluateNode node context).properties "request" =
      some (Template.evaluateValue context v) := by
    rw [given?, evaluateNode, Template.evaluateFields_eq, Keyed.get?_mapValues, hrequest,
      Option.map_some, hmap]
    rfl
  have hfield : FieldDescriptor.plain "request" (.capability "RequestSpec") ∈ requestInfo.fields :=
    List.mem_of_getElem? (i := 2) rfl
  let bag := (app.registry.scope app.model).populateNode requestInfo (evaluateNode node context)
  have hproperty : bag.property? PropertyValue.request? "request" =
      (given? (evaluateNode node context).properties "request").bind fun v =>
        ((app.registry.scope app.model).parseProperty "RequestSpec" v).toOption.bind
          PropertyValue.request? :=
    (app.registry.scope app.model).property?_populateFrom hfield (by decide) _ _ _
      PropertyValue.request? rfl rfl
  rw [hgiven, Option.bind_some, hparse] at hproperty
  have hget : app.registry.actions.get? (evaluateNode node context).type =
      some ⟨requestInfo, some ActionTypes.buildRequest⟩ := by
    rw [evaluateNode, htype, hbuiltin.actions]
    rfl
  refine ⟨spec, .ofBag bag, bag.map "headers", rfl, hspec, ?_⟩
  refine Registry.instantiateFrom_of_factory hget rfl ?_
  change ActionTypes.buildRequest bag = _
  rw [ActionTypes.buildRequest, hproperty]
  rfl

/-- **Overrides are evaluated twice.** A request node whose evaluated property can be parsed carries
out the request that comes of it, and where an override in the body of the request is an expression
that resolves to a text, the body of the call has the value of that text, read as a template once
more. A text without an expression is its own value. -/
theorem overrides_evaluated_again (hbuiltin : app.registry.HasBuiltinRequests)
    (htype : node.type = "Request") (hrequest : Keyed.get? "request" node.properties = some v)
    (hnames : v.namesOnce = true) {made : PropertyValue}
    (hparse : (app.registry.scope app.model).parseProperty "RequestSpec"
      (Template.evaluateValue context v) = .ok made) :
    ∃ spec slots headers, made = .request spec ∧
      app.instantiate node context = .ok (.stack slots (.request (some spec) headers)) ∧
      ∀ path body s, place? (.field "body" :: path) v = some (.text (Template.alone body)) →
        (Template.Span.mk [] body []).IsFlat → Template.resolve context body = .text s →
          place? path ((spec.resolve context (app.registry.scope app.model)).body.getD .null) =
            some (Template.evaluate context s) ∧
          (Template.IsPlain s.toList → Template.evaluate context s = .text s) := by
  obtain ⟨spec, slots, headers, hmade, hspec, haction⟩ :=
    exists_request hbuiltin htype hrequest hparse
  refine ⟨spec, slots, headers, hmade, haction, fun path body s hplace hflat hresolve => ?_⟩
  have honce : Template.evaluateValue context (.text (Template.alone body)) = .text s :=
    (Template.evaluate_alone hflat context).trans hresolve
  refine ⟨?_, fun hplain => Template.evaluate_of_isPlain hplain context⟩
  rw [RequestSpec.place?_body_resolve hnames hplace (by rw [honce]; rfl) hspec, honce]
  rfl

/-! ### A request that names its addressee -/

/-- A request with an addressee in its body. -/
def addressed (addressee : Value) : Value :=
  .map [("body", .map [("to", .list [addressee])])]

/-- A node that sends such a request. -/
def sender : Node where
  id := "send"
  type := "Request"
  properties := [("request", addressed (.text (Template.alone ['n', 'a', 'm', 'e'])))]

/-- An application of the built-in types alone. -/
def mailer : Application where
  registry := .builtins
  model := .empty
  transport _ := .error "offline"

theorem isFlat_name : (Template.Span.mk [] ['n', 'a', 'm', 'e'] []).IsFlat where
  unclosed := by decide
  unopened before after h := by
    have hcount := congrArg (List.count '$') h
    simp [Template.openMark, List.count_append] at hcount

theorem parseProperty_addressed (addressee : Value) :
    (mailer.registry.scope mailer.model).parseProperty "RequestSpec" (addressed addressee) =
      .ok (.request ⟨none, [("body", .map [("to", .list [addressee])])]⟩) := rfl

/-- A plain name arrives as it is. -/
theorem overrides_evaluated_again_sender :
    Template.IsPlain "Ada".toList ∧ ∃ spec slots headers,
      mailer.instantiate sender (Template.twoEntries "Ada" "one") =
        .ok (.stack slots (.request (some spec) headers)) ∧
      place? [.field "to", .item 0] ((spec.resolve (Template.twoEntries "Ada" "one")
        (mailer.registry.scope mailer.model)).body.getD .null) = some (.text "Ada") := by
  have hplain : Template.IsPlain "Ada".toList :=
    Template.innermost?_eq_none_iff.1 (by decide +kernel)
  obtain ⟨spec, slots, headers, -, haction, hbody⟩ :=
    @overrides_evaluated_again mailer sender _ _ ⟨rfl, rfl⟩ rfl rfl (by decide) _
      (parseProperty_addressed (Template.evaluate (Template.twoEntries "Ada" "one") _))
  obtain ⟨hplace, hvalue⟩ := hbody [.field "to", .item 0] _ "Ada" rfl isFlat_name rfl
  rw [hvalue hplain] at hplace
  exact ⟨hplain, spec, slots, headers, haction, hplace⟩

/-- **An override can be read as a template**: a name that looks like an expression does not arrive
as it is. -/
theorem override_is_read :
    ¬∀ (app : Application) (node : Node) (context : Context) (v : Value) (spec : RequestSpec)
        (path : List Step) (body : List Char) (s : String),
      app.registry.HasBuiltinRequests → node.type = "Request" →
      Keyed.get? "request" node.properties = some v → v.namesOnce = true →
      (app.registry.scope app.model).parseProperty "RequestSpec"
        (Template.evaluateValue context v) = .ok (.request spec) →
      place? (.field "body" :: path) v = some (.text (Template.alone body)) →
      (Template.Span.mk [] body []).IsFlat → Template.resolve context body = .text s →
      place? path ((spec.resolve context (app.registry.scope app.model)).body.getD .null) =
        some (.text s) := by
  intro h
  let context := Template.twoEntries "$\x7benv.key\x7d" "one"
  let once := Template.evaluate context (Template.alone ['n', 'a', 'm', 'e'])
  let spec : RequestSpec := ⟨none, [("body", .map [("to", .list [once])])]⟩
  have harrives := h mailer sender context _ spec [.field "to", .item 0] _ "$\x7benv.key\x7d"
    ⟨rfl, rfl⟩ rfl rfl (by decide) (parseProperty_addressed once) rfl isFlat_name rfl
  have hone : (place? [.field "to", .item 0] ((spec.resolve context
      (mailer.registry.scope mailer.model)).body.getD .null)).map Value.stringify = some "one" := by
    decide +kernel
  rw [harrives] at hone
  exact absurd hone (by decide)

end Application

end Flowgraph
