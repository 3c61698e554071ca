import Flowgraph.Text.Search
/-!
# Methods

The methods of calls and requests. A method has a name in upper case, which calls are sent with,
and a verb in lower case, which names the slot of a controller that serves it.

Main definitions: `Method`, `Method.name`, `Method.verb`, `Method.ofVerb?`.
Main statements: `ofVerb?_verb`, `ofVerb?_eq_some_iff`.
-/

namespace Flowgraph

/-- The methods that calls and controllers know. -/
inductive Method where
  | get
  | post
  | put
  | patch
  | delete
  deriving DecidableEq

namespace Method

/-- All methods. -/
def all : List Method :=
  [get, post, put, patch, delete]

theorem mem_all (method : Method) : method ∈ all := by
  cases method <;> decide

/-- The name of a method in upper case. -/
def name : Method → String
  | get => "GET"
  | post => "POST"
  | put => "PUT"
  | patch => "PATCH"
  | delete => "DELETE"

/-- The name of a method in lower case. -/
def verb : Method → String
  | get => "get"
  | post => "post"
  | put => "put"
  | patch => "patch"
  | delete => "delete"

/-- The method of a name in any case. -/
def ofVerb? (s : String) : Option Method :=
  all.find? fun method => method.verb = Text.asciiLower s

theorem verb_injective {a b : Method} (h : a.verb = b.verb) : a = b := by
  cases a <;> cases b <;> first | rfl | exact absurd h (by decide)

/-- The verb of the method that a name is the name of. -/
theorem verb_of_ofVerb? {s : String} {method : Method} (h : ofVerb? s = some method) :
    method.verb = Text.asciiLower s := by
  have hp := List.find?_some (p := fun method : Method => method.verb = Text.asciiLower s) h
  simpa using hp

/-- A name is that of a method exactly when it is its verb in lower case. -/
theorem ofVerb?_eq_some_iff {s : String} {method : Method} :
    ofVerb? s = some method ↔ Text.asciiLower s = method.verb := by
  refine ⟨fun h => (verb_of_ofVerb? h).symm, fun h => ?_⟩
  cases hf : ofVerb? s with
  | none => simpa [h] using List.find?_eq_none.1 hf method (mem_all method)
  | some other => rw [verb_injective ((verb_of_ofVerb? hf).trans h)]

theorem ofVerb?_verb (method : Method) : ofVerb? method.verb = some method := by
  cases method <;> decide

end Method

end Flowgraph
