import Flowgraph.Keyed
import Flowgraph.Number.Shortest
/-!
# Document values

`Value` is the type of everything a document, a record or the context holds: null, truth values,
integers, doubles, texts, lists and maps. An integer and a double are never equal, not even `1`
and `1.0`; the two zeros of the doubles are. Maps keep their names in ascending order, which
`Keyed.insert` maintains; only a map that was read as a list of declarations keeps them as they
stand.

Main definitions: `Value`, `Value.Fields`, `Value.toBinary64?`, the readers of one shape.
Main statements: `beq_comm`, `beq_self`.
-/

namespace Flowgraph

/-- A document value. -/
inductive Value where
  | null
  | bool (flag : Bool)
  | int (n : Int)
  | float (x : Binary64)
  | text (s : String)
  | list (items : List Value)
  | map (fields : List (String × Value))
  deriving Inhabited

namespace Value

/-- The entries of a map. -/
abbrev Fields := List (String × Value)

/-! ## Equality -/

mutual

/-- Whether two values are equal, doubles numerically. -/
def beq : Value → Value → Bool
  | .null, .null => true
  | .bool a, .bool b => a == b
  | .int a, .int b => a == b
  | .float a, .float b => a == b
  | .text a, .text b => a == b
  | .list as, .list bs => beqItems as bs
  | .map as, .map bs => beqFields as bs
  | _, _ => false

/-- Whether two lists are equal item by item. -/
def beqItems : List Value → List Value → Bool
  | [], [] => true
  | a :: as, b :: bs => beq a b && beqItems as bs
  | _, _ => false

/-- Whether two maps are equal entry by entry. -/
def beqFields : List (String × Value) → List (String × Value) → Bool
  | [], [] => true
  | (k, a) :: as, (k', b) :: bs => k == k' && beq a b && beqFields as bs
  | _, _ => false

end

instance : BEq Value := ⟨beq⟩

mutual

/-- Equality does not depend on the side. -/
theorem beq_comm (a b : Value) : beq a b = beq b a := by
  cases a with
  | null => cases b <;> rfl
  | bool x =>
    cases b with
    | bool y => exact BEq.comm
    | _ => rfl
  | int n =>
    cases b with
    | int m => exact BEq.comm
    | _ => rfl
  | float x =>
    cases b with
    | float y => exact BEq.comm (a := x.key)
    | _ => rfl
  | text s =>
    cases b with
    | text t => exact BEq.comm
    | _ => rfl
  | list as =>
    cases b with
    | list bs => exact beqItems_comm as bs
    | _ => rfl
  | map as =>
    cases b with
    | map bs => exact beqFields_comm as bs
    | _ => rfl

theorem beqItems_comm (as bs : List Value) : beqItems as bs = beqItems bs as := by
  cases as with
  | nil => cases bs <;> rfl
  | cons a as =>
    cases bs with
    | nil => rfl
    | cons b bs => rw [beqItems, beqItems, beq_comm a b, beqItems_comm as bs]

theorem beqFields_comm (as bs : Fields) : beqFields as bs = beqFields bs as := by
  cases as with
  | nil => cases bs <;> rfl
  | cons entry as =>
    cases bs with
    | nil => rfl
    | cons entry' bs =>
      rw [beqFields, beqFields, beq_comm entry.2 entry'.2, beqFields_comm as bs, BEq.comm]

end

mutual

/-- Every value equals itself. -/
theorem beq_self (a : Value) : beq a a = true := by
  cases a with
  | null => rfl
  | bool flag => exact beq_self_eq_true flag
  | int n => exact beq_self_eq_true n
  | float x => exact beq_self_eq_true x.key
  | text s => exact beq_self_eq_true s
  | list as => exact beqItems_self as
  | map as => exact beqFields_self as

theorem beqItems_self (as : List Value) : beqItems as as = true := by
  cases as with
  | nil => rfl
  | cons a as =>
    rw [beqItems, beq_self a, beqItems_self as]
    rfl

theorem beqFields_self (as : Fields) : beqFields as as = true := by
  cases as with
  | nil => rfl
  | cons entry as =>
    rw [beqFields, beq_self entry.2, beqFields_self as, beq_self_eq_true]
    rfl

end

/-! ## Reading one shape -/

/-- The text of a text value. -/
def text? : Value → Option String
  | .text s => some s
  | _ => none

/-- The entries of a map value. -/
def fields? : Value → Option Fields
  | .map fields => some fields
  | _ => none

/-- The items of a list value. -/
def items? : Value → Option (List Value)
  | .list items => some items
  | _ => none

/-- The integer of an integer value. -/
def int? : Value → Option Int
  | .int n => some n
  | _ => none

/-- The integer of an integer value that fits 64 bits with a sign. -/
def signed64? : Value → Option Int
  | .int n => Number.within? Number.isSigned64 n
  | _ => none

/-- The integer of an integer value that fits 64 bits without a sign. -/
def unsigned64? : Value → Option Nat
  | .int n => (Number.within? Number.isUnsigned64 n).map Int.toNat
  | _ => none

/-- The double nearest to a number value. -/
def toBinary64? : Value → Option Binary64
  | .int n => some (Binary64.ofInt n)
  | .float x => some x
  | _ => none

/-- Whether a value is null. -/
def isNull : Value → Bool
  | .null => true
  | _ => false

/-- Whether a value is an integer or a double. -/
def isNumber : Value → Bool
  | .int _ | .float _ => true
  | _ => false

/-- The value under a name of a map value. -/
def field? (k : String) : Value → Option Value
  | .map fields => Keyed.get? k fields
  | _ => none

@[simp] theorem isNull_iff (v : Value) : v.isNull = true ↔ v = .null := by
  cases v <;> simp [isNull]

/-! ## Building -/

/-- The map of the given entries, the last one of a name winning. -/
def ofEntries (entries : List (String × Value)) : Value :=
  .map (Keyed.sorted entries)

/-- The value of an optional text, null for none. -/
def ofText? (s : Option String) : Value :=
  (s.map .text).getD .null

/-- The list of the given texts. -/
def ofTexts (texts : List String) : Value :=
  .list (texts.map .text)

/-- The empty map. -/
def emptyMap : Value := .map []

end Value

end Flowgraph
