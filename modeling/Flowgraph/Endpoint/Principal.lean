import Flowgraph.Context
import Flowgraph.Value.Decode
/-!
# Principals

The caller of an endpoint: whether it is authenticated, the claims made about it, and the roles and
scopes among them.

Main definitions: `Principal`, `Principal.ofClaims`, `Principal.bind`, `Principal.encode`,
`Principal.decode?`.
Main statement: `authenticated_ofClaims`.
-/

namespace Flowgraph

/-- The caller of an endpoint. -/
structure Principal where
  authenticated : Bool := false
  /-- The values of the claims by their types. -/
  claims : Value.Fields := []
  roles : List String := []
  scopes : List String := []

namespace Principal

/-- The types of claims whose values are roles. -/
def roleClaims : List String :=
  ["role", "http://schemas.microsoft.com/ws/2008/06/identity/claims/role"]

/-- The types of claims whose values are scopes. -/
def scopeClaims : List String :=
  ["scope", "http://schemas.microsoft.com/identity/claims/scope"]

/-- The caller of whom nothing is known. -/
def anonymous : Principal := {}

/-- The value of a claim type after one more claim of it, a comma between the values. -/
def joinClaim (known : Option Value) (value : String) : String :=
  match known.bind Value.text? with
  | some joined => joined ++ "," ++ value
  | none => value

/-- Adds a claim, and its value to the roles or the scopes if it is of such a type. -/
def addClaim (principal : Principal) (claim : String × String) : Principal :=
  let (type, value) := claim
  let joined := joinClaim (Keyed.get? type principal.claims) value
  let known := { principal with claims := Keyed.insert type (.text joined) principal.claims }
  if roleClaims.contains type then { known with roles := principal.roles ++ [value] }
  else if scopeClaims.contains type then { known with scopes := principal.scopes ++ [value] }
  else known

/-- The authenticated caller of some claims. -/
def ofClaims (claims : List (String × String)) : Principal :=
  claims.foldl addClaim { authenticated := true }

theorem authenticated_addClaim (principal : Principal) (claim : String × String) :
    (principal.addClaim claim).authenticated = principal.authenticated := by
  simp only [addClaim]
  split
  · rfl
  · split <;> rfl

/-- A caller with claims is authenticated, whatever they are. -/
theorem authenticated_ofClaims (claims : List (String × String)) :
    (ofClaims claims).authenticated = true := by
  suffices h : ∀ principal : Principal,
      (claims.foldl addClaim principal).authenticated = principal.authenticated from h _
  induction claims with
  | nil => intro principal; rfl
  | cons claim rest ih =>
    intro principal
    rw [List.foldl_cons, ih, authenticated_addClaim]

/-- Binds the claims, roles and scopes. -/
def bind (principal : Principal) (context : Context) : Context :=
  ((context.insert "claims" (.map principal.claims)).insert "roles"
    (.ofTexts principal.roles)).insert "scopes" (.ofTexts principal.scopes)

/-! ## Documents -/

/-- The principal as a document. -/
def encode (principal : Principal) : Value :=
  .ofEntries
    [("authenticated", .bool principal.authenticated), ("claims", .map principal.claims),
      ("roles", .ofTexts principal.roles), ("scopes", .ofTexts principal.scopes)]

/-- The fields of a written principal in order. -/
def slots : List Value.Slot :=
  [⟨"authenticated", true⟩, ⟨"claims", true⟩, ⟨"roles", true⟩, ⟨"scopes", true⟩]

/-- Reads a principal from a document. -/
def decode? (v : Value) : Option Principal := do
  match ← v.slots? slots with
  | [authenticated, claims, roles, scopes] =>
    return {
      authenticated := ← Value.defaulted false Value.bool? authenticated
      claims := ← Value.defaulted [] Value.fields? claims
      roles := ← Value.defaulted [] (Value.listOf Value.text?) roles
      scopes := ← Value.defaulted [] (Value.listOf Value.text?) scopes }
  | _ => none

end Principal

end Flowgraph
