import Flowgraph.Action.Data
import Flowgraph.Run.World
/-!
# Tasks of stack actions

A task is carried out on a world and has a result, or a reason why it could not be carried out.
Calls look at the context alone, and tasks on records change the stores alone.

Main definitions: `Application.send`, `Application.perform`, `World.settle`,
`Application.performStack`.
Main statement: `context_perform_of_data`.
-/

namespace Flowgraph

namespace Application

/-- The result of a request that is in order up to its headers. -/
def exchange (app : Application) (request : Request) : ActionResult :=
  match request.invalidHeader? with
  | some error => .failureWith (request.describe ++ ": " ++ error.message)
  | none =>
    match app.transport request with
    | .ok v => .returning v
    | .error reason => .failureWith (request.describe ++ ": " ++ reason)

/-- Sends a call, which must have a method and an address. -/
def send (app : Application) (call : Call) : Except String ActionResult :=
  match call.method, call.url with
  | none, _ => .ok (.failureWith "request has no method")
  | some _, none => .ok (.failureWith "request has no url")
  | some method, some base =>
    match call.toRequest method base with
    | .ok request => .ok (app.exchange request)
    | .error error => .error error.messageWithCause

/-- The call of a request with other headers. -/
def callOf (app : Application) (spec : RequestSpec) (headers : Value.Fields) (context : Context) :
    Call :=
  { spec.resolve context (app.registry.scope app.model) with headers }

/-- Carries out a task on records. The stores are as the task leaves them, also when it fails. -/
def onStores (task : Data.StoreM ActionResult) (world : World) :
    Except String ActionResult × World :=
  match task.run world.stores with
  | .ok result stores => (.ok result, { world with stores })
  | .error message stores => (.error message, { world with stores })

/-- Carries out a task of the host. -/
def onContext (run : HostRun) (world : World) : Except String ActionResult × World :=
  let (result, context) := run world.context
  (result, { world with context })

/-- Carries out a task. -/
def perform (app : Application) (task : Task) (world : World) :
    Except String ActionResult × World :=
  match task with
  | .json v => (.ok (.returning v), world)
  | .rest call => (app.send call, world)
  | .request none _ =>
    (.ok (.failureWith "Request has no request specification"), world)
  | .request (some spec) headers => (app.send (app.callOf spec headers world.context), world)
  | .create entity => onStores (Data.create entity) world
  | .read entity rules => onStores (Data.read entity rules) world
  | .readFirst entity lookup => onStores (Data.readFirst entity lookup) world
  | .update entity lookup => onStores (Data.update entity lookup) world
  | .delete entity lookup => onStores (Data.delete entity lookup) world
  | .count entity filters => onStores (Data.count entity filters) world
  | .host run => onContext run world

end Application

/-- Whether a value is the shared map itself, which is not stored inside itself. -/
def Context.isState (context : Context) (v : Value) : Bool :=
  !context.stateMap.isEmpty && v == .map context.stateMap

/-- Stores the value of a stack action under its name and goes on with its next action, unless the
result names a successor of its own. -/
def World.settle (world : World) (slots : StackSlots) (result : ActionResult) : Outcome :=
  let v := result.returnData.getD .null
  let context :=
    if world.context.isState v then world.context.ensureState
    else world.context.setState slots.returnName v
  ({ result with nextNode := result.nextNode.or slots.nextAction }, { world with context })

namespace Application

/-- Runs a stack action; a task that could not be carried out stores nothing. -/
def performStack (app : Application) (slots : StackSlots) (task : Task) (world : World) :
    Outcome :=
  match app.perform task world with
  | (.ok result, after) => after.settle slots result
  | (.error message, after) => (.failureWith message, after)

/-- Only tasks of the host change the context. -/
theorem context_perform_of_data {app : Application} {task : Task} {world : World}
    (h : ∀ run, task ≠ .host run) : (app.perform task world).2.context = world.context := by
  have hstores : ∀ data : Data.StoreM ActionResult,
      (onStores data world).2.context = world.context := by
    intro data
    simp only [onStores]
    split <;> rfl
  cases task with
  | request spec headers => cases spec <;> rfl
  | host run => exact absurd rfl (h run)
  | _ => first | rfl | exact hstores _

end Application

end Flowgraph
