import Flowgraph.Endpoint.Principal
import Flowgraph.Model.ActionResult
import Flowgraph.Proofs.Keyed
import Flowgraph.Proofs.Registry.RuleDocuments
/-!
# Reading documents back

Filters, orders, rule sets, principals, nodes and results are written as documents, and what is
written is read back (`documents_read_back`). The slots of a node come back in the order of their
names. A result whose value is null comes back without a value: null is what a result
without a value stands for wherever results are shown, and the decoder takes both for the same.
-/

namespace Flowgraph

namespace Value

/-- The declared fields of a written structure, whatever order its fields are written in. -/
theorem slots?_ofEntries {entries : List (String × Value)} (h : (Keyed.keys entries).Nodup)
    (slots : List Slot) :
    (ofEntries entries).slots? slots =
      some (slots.map fun slot => Keyed.get? slot.name entries) := by
  rw [ofEntries, slots?]
  simp only [Keyed.get?_sorted h]

theorem listOf_ofTexts (texts : List String) : listOf text? (ofTexts texts) = some texts := by
  have htext (s : String) : text? (text s) = some s := rfl
  exact listOf_encode htext texts

theorem mapOf_mapValues (fields : List (String × String)) :
    mapOf text? (.map (Keyed.mapValues .text fields)) = some fields := by
  rw [mapOf]
  induction fields with
  | nil => rfl
  | cons field rest ih =>
    rw [Keyed.mapValues, List.map_cons, List.mapM_cons]
    rw [Keyed.mapValues] at ih
    rw [ih]
    rfl

end Value

/-! ## Principals -/

theorem Principal.decode?_encode (principal : Principal) :
    decode? principal.encode = some principal := by
  have hslots : principal.encode.slots? slots =
      some [some (.bool principal.authenticated), some (.map principal.claims),
        some (.ofTexts principal.roles), some (.ofTexts principal.scopes)] := by
    refine Value.slots?_ofEntries ?_ _
    change ["authenticated", "claims", "roles", "scopes"].Nodup
    decide
  have hdecode : decode? principal.encode = do
      let roles ← Value.listOf Value.text? (.ofTexts principal.roles)
      let scopes ← Value.listOf Value.text? (.ofTexts principal.scopes)
      return { principal with roles, scopes } := by
    rw [decode?, hslots]
    rfl
  rw [hdecode, Value.listOf_ofTexts, Value.listOf_ofTexts]
  rfl

/-! ## Nodes -/

namespace Node

variable {node : Node}

/-- Equality of nodes: the slots are a map, whose order does not count. -/
structure Alike (a b : Node) : Prop where
  id : a.id = b.id
  type : a.type = b.type
  name : a.name = b.name
  folder : a.folder = b.folder
  properties : a.properties = b.properties
  actions : a.actions.Perm b.actions

theorem mapOf_encodeSlots (slots : List (String × NodeId)) :
    Value.mapOf Value.text? (encodeSlots slots) = some (Keyed.sorted slots) := by
  have hencode : encodeSlots slots = .map (Keyed.mapValues .text (Keyed.sorted slots)) :=
    congrArg Value.map (Keyed.sorted_mapValues Value.text slots)
  rw [hencode, Value.mapOf_mapValues]

theorem slots?_encode (node : Node) :
    node.encode.slots? slots =
      some [some (.text node.id), some (.text node.type), some (.text node.name),
        node.folder.map .text, some (.map node.properties), some (encodeSlots node.actions)] := by
  rw [encode]
  cases node.folder with
  | none =>
    refine Value.slots?_ofEntries ?_ _
    change ["id", "type", "name", "properties", "actions"].Nodup
    decide
  | some folder =>
    refine Value.slots?_ofEntries ?_ _
    change ["id", "type", "name", "properties", "actions", "folder"].Nodup
    decide

/-- The decoder gives back a node with its slots in the order of their names. -/
theorem decode?_encode (node : Node) :
    decode? node.encode = some { node with actions := Keyed.sorted node.actions } := by
  have hdecode : decode? node.encode = do
      let folder ← Value.optional Value.text? (node.folder.map .text)
      let actions ← Value.mapOf Value.text? (encodeSlots node.actions)
      return { node with folder, actions } := by
    rw [decode?, slots?_encode]
    rfl
  rw [hdecode, mapOf_encodeSlots]
  cases node.folder <;> rfl

theorem alike_sorted (h : (Keyed.keys node.actions).Nodup) :
    Alike { node with actions := Keyed.sorted node.actions } node :=
  ⟨rfl, rfl, rfl, rfl, rfl, Keyed.perm_sorted h⟩

end Node

/-! ## Results -/

namespace ActionResult

/-- The result as it is read back: null in the place of a value is no value. -/
def withoutNull (result : ActionResult) : ActionResult :=
  { result with returnData := result.returnData.filter fun v => !v.isNull }

theorem withoutNull_eq_self_iff {result : ActionResult} :
    result.withoutNull = result ↔ result.returnData ≠ some .null := by
  obtain ⟨success, returnData, nextNode⟩ := result
  rw [withoutNull, mk.injEq]
  cases returnData with
  | none => simp
  | some v =>
    have hnull : v.isNull = false ↔ v ≠ .null := by
      rw [Ne, ← Value.isNull_iff, Bool.not_eq_true]
    simp [Option.filter_eq_some_iff, hnull]

theorem slots?_encode (result : ActionResult) :
    result.encode.slots? slots =
      some [some (.bool result.success), result.returnData, result.nextNode.map .text] := by
  rw [encode]
  cases result.returnData with
  | none =>
    cases result.nextNode with
    | none =>
      refine Value.slots?_ofEntries ?_ _
      exact List.nodup_singleton "success"
    | some next =>
      refine Value.slots?_ofEntries ?_ _
      change ["success", "nextNode"].Nodup
      decide
  | some v =>
    cases result.nextNode with
    | none =>
      refine Value.slots?_ofEntries ?_ _
      change ["success", "returnData"].Nodup
      decide
    | some next =>
      refine Value.slots?_ofEntries ?_ _
      change ["success", "returnData", "nextNode"].Nodup
      decide

/-- The decoder gives back a result, but for a value that is null. -/
theorem decode?_encode (result : ActionResult) :
    decode? result.encode = some result.withoutNull := by
  have hdecode : decode? result.encode = do
      let returnData ← Value.optional some result.returnData
      let nextNode ← Value.optional Value.text? (result.nextNode.map .text)
      return { result with returnData, nextNode } := by
    rw [decode?, slots?_encode]
    rfl
  have hdata : Value.optional some result.returnData =
      some (result.returnData.filter fun v => !v.isNull) := by
    cases result.returnData with
    | none => rfl
    | some v => cases v <;> rfl
  rw [hdecode, hdata, withoutNull]
  cases result.nextNode <;> rfl

end ActionResult

/-! ## All documents -/

/-- **What is written is read back.** Every document is accepted and gives back what was written:
pages are integers of 64 bits, the slots of a node have different names, and only a result whose
value is null comes back different, without a value. -/
theorem documents_read_back :
    (∀ rule : FilterRule, FilterRule.decode? rule.encode = some rule) ∧
    (∀ rule : OrderRule, OrderRule.decode? rule.encode = some rule) ∧
    (∀ rules : RuleSet, rules.PagesIn Number.isSigned64 →
      RuleSet.decode? rules.encode = some rules) ∧
    (∀ principal : Principal, Principal.decode? principal.encode = some principal) ∧
    (∀ node : Node, (Keyed.keys node.actions).Nodup →
      ∃ back, Node.decode? node.encode = some back ∧ back.Alike node) ∧
    ∀ result : ActionResult, ActionResult.decode? result.encode = some result.withoutNull ∧
      (result.withoutNull = result ↔ result.returnData ≠ some .null) :=
  ⟨FilterRule.decode?_encode, OrderRule.decode?_encode, fun _ => RuleSet.decode?_encode,
    Principal.decode?_encode,
    fun node h => ⟨_, node.decode?_encode, Node.alike_sorted h⟩,
    fun result => ⟨result.decode?_encode, ActionResult.withoutNull_eq_self_iff⟩⟩

/-- A node whose slots are not in the order of their names. -/
def branchNode : Node where
  id := "branch"
  type := "If"
  properties := [("test", .list [.null, .int 1])]
  actions := [("then", "a"), ("else", "b")]

theorem documents_read_back_branchNode :
    (Keyed.keys branchNode.actions).Nodup ∧
      (∃ back, Node.decode? branchNode.encode = some back ∧ back.Alike branchNode) ∧
      RuleSet.PagesIn Number.isSigned64 { page := some 1 } ∧
      RuleSet.decode? (RuleSet.encode { page := some 1 }) = some { page := some 1 } := by
  have hkeys : (Keyed.keys branchNode.actions).Nodup := by decide
  have hpages : RuleSet.PagesIn Number.isSigned64 { page := some 1 } := by
    constructor <;> simp [Number.isSigned64]
  obtain ⟨-, -, hrules, -, hnode, -⟩ := documents_read_back
  exact ⟨hkeys, hnode branchNode hkeys, hpages, hrules _ hpages⟩

/-- A null value is written and not read back. -/
theorem null_value_is_dropped :
    ActionResult.encode (.returning .null) =
        .map [("returnData", .null), ("success", .bool true)] ∧
      ActionResult.decode? (ActionResult.encode (.returning .null)) = some .done ∧
      ActionResult.done ≠ ActionResult.returning .null := by
  refine ⟨rfl, ?_, ?_⟩
  · rw [ActionResult.decode?_encode]
    rfl
  · intro h
    cases congrArg ActionResult.returnData h

end Flowgraph
