import Flowgraph.Endpoint.Principal
import Flowgraph.Registry.FieldBag
/-!
# Access policies

Who may invoke an endpoint. Unless anonymous callers are allowed, a caller must be authenticated
and hold one of the allowed roles and one of the allowed scopes, where an empty list allows every
caller. The condition of a policy must hold in every case.

Main definitions: `AccessPolicy`, `AccessPolicy.ofBag`, `AccessPolicy.permits`.
Main statement: `permits_iff`.
-/

namespace Flowgraph

/-- Who may invoke an endpoint. -/
structure AccessPolicy where
  allowAnonymous : Bool := false
  allowedRoles : List String := []
  allowedScopes : List String := []
  allowedCondition : Option Condition := none

namespace AccessPolicy

/-- The items of a comma list that are not blank, without the blanks around them. -/
def splitList (s : String) : List String :=
  ((s.toList.splitOn ',').map fun item => Text.trimBoth item).filter (fun item => !item.isEmpty)
    |>.map String.ofList

/-- The policy of some populated fields. -/
def ofBag (bag : FieldBag) : AccessPolicy where
  allowAnonymous := (bag.bool? "allowAnonymous").getD false
  allowedRoles := splitList ((bag.text? "allowedRoles").getD "")
  allowedScopes := splitList ((bag.text? "allowedScopes").getD "")
  allowedCondition := bag.property? PropertyValue.condition? "allowedCondition"

/-- Whether one of the allowed names is held; an empty list asks for none. -/
def holdsOne (allowed held : List String) : Bool :=
  allowed.isEmpty || allowed.any fun name => held.contains name

/-- Whether the caller is known well enough. -/
def admits (policy : AccessPolicy) (principal : Principal) : Bool :=
  policy.allowAnonymous ||
    (principal.authenticated && holdsOne policy.allowedRoles principal.roles &&
      holdsOne policy.allowedScopes principal.scopes)

/-- Whether a caller may invoke the endpoint. -/
def permits (policy : AccessPolicy) (principal : Principal) : Bool :=
  policy.admits principal && policy.allowedCondition.all Condition.holds

theorem holdsOne_iff (allowed held : List String) :
    holdsOne allowed held = true ↔ (allowed ≠ [] → ∃ name ∈ allowed, name ∈ held) := by
  cases allowed <;> simp [holdsOne]

/-- What a policy asks of a caller. -/
theorem permits_iff (policy : AccessPolicy) (principal : Principal) :
    policy.permits principal = true ↔
      (policy.allowAnonymous = true ∨
        principal.authenticated = true ∧
          (policy.allowedRoles ≠ [] → ∃ name ∈ policy.allowedRoles, name ∈ principal.roles) ∧
          (policy.allowedScopes ≠ [] → ∃ name ∈ policy.allowedScopes, name ∈ principal.scopes)) ∧
      ∀ condition, policy.allowedCondition = some condition → condition.holds = true := by
  simp only [permits, admits, Bool.and_eq_true, Bool.or_eq_true, holdsOne_iff, and_assoc]
  cases policy.allowedCondition <;> simp

end AccessPolicy

end Flowgraph
