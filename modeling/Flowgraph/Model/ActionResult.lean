import Flowgraph.Model.Node
/-!
# Results of actions

What one action leaves behind: whether it succeeded, the value it returns, and the node that it
names as its successor.

Main definitions: `ActionResult`, `ActionResult.encode`, `ActionResult.decode?`.
-/

namespace Flowgraph

/-- The result of one action. -/
structure ActionResult where
  success : Bool
  returnData : Option Value := none
  /-- The node to run next; the chain ends without one. -/
  nextNode : Option NodeId := none

namespace ActionResult

/-- Success with a value. -/
def returning (v : Value) : ActionResult :=
  { success := true, returnData := some v }

/-- Success without a value or a successor. -/
def done : ActionResult :=
  { success := true }

/-- Success that goes on with a node, if there is one. -/
def route (next : Option NodeId) : ActionResult :=
  { success := true, nextNode := next }

/-- Failure without a value. -/
def failure : ActionResult :=
  { success := false }

/-- Failure with a message. -/
def failureWith (message : String) : ActionResult :=
  { success := false, returnData := some (.text message) }

/-- The result as a document; what is absent is left out. -/
def encode (result : ActionResult) : Value :=
  .ofEntries <|
    ("success", .bool result.success) ::
      ((result.returnData.map fun v => ("returnData", v)).toList ++
        (result.nextNode.map fun id => ("nextNode", .text id)).toList)

/-- The fields of a written result in order. -/
def slots : List Value.Slot :=
  [⟨"success", false⟩, ⟨"returnData", true⟩, ⟨"nextNode", true⟩]

/-- Reads a result from a document. -/
def decode? (v : Value) : Option ActionResult := do
  match ← v.slots? slots with
  | [success, returnData, nextNode] =>
    return {
      success := ← Value.required Value.bool? success
      returnData := ← Value.optional some returnData
      nextNode := ← Value.optional Value.text? nextNode }
  | _ => none

end ActionResult

end Flowgraph
