import Flowgraph.Text.Blank
import Flowgraph.Text.Search
import Flowgraph.Time.Reader
import Flowgraph.Value.Printer
/-!
# Lenient readings of values

Documents write numbers as texts, truth values as `1` and dates in several layouts. Each function
here reads a value as one scalar and answers `none` when it cannot be read that way.

Main definitions: `Value.toBool?`, `Value.toSigned64?`, `Value.toSigned32?`, `Value.toDecimal?`,
`Value.toInstant?`, `Value.isEmpty`.
Main statement: `isSigned64_of_toSigned64?`.
-/

namespace Flowgraph.Value

open Text Number

/-- Reads a truth value: a number is true when it rounds to one, a text when it is `true` in any
case or `1`, and a list or map never. -/
def toBool? : Value → Option Bool
  | .null => none
  | .bool flag => some flag
  | .int n => some (n = 1)
  | .float x => some (x.roundToInt = 1)
  | .text s => some (sameIgnoringCase (trim s) "true" || trim s == "1")
  | .list _ | .map _ => some false

/-- Reads an integer of 64 bits with a sign; a double is rounded, a half away from zero. -/
def toSigned64? : Value → Option Int
  | .int n => within? isSigned64 n
  | .float x => if x.inSigned64 then some x.roundToInt else none
  | .text s => (readInt? (trimBoth s.toList)).bind (within? isSigned64)
  | _ => none

/-- An integer that is read fits 64 bits. -/
theorem isSigned64_of_toSigned64? {v : Value} {n : Int} (h : v.toSigned64? = some n) :
    isSigned64 n = true := by
  cases v with
  | int m =>
    obtain ⟨hrange, rfl⟩ := within?_eq_some.1 h
    exact hrange
  | float x =>
    simp only [toSigned64?] at h
    split at h
    · next hrange =>
      have hmagnitude := Binary64.roundMagnitude_lt hrange
      cases h
      rw [isSigned64, Bool.and_eq_true, decide_eq_true_eq, decide_eq_true_eq, Binary64.roundToInt]
      split <;> omega
    · cases h
  | text s =>
    obtain ⟨m, -, hwithin⟩ := Option.bind_eq_some_iff.1 h
    obtain ⟨hrange, rfl⟩ := within?_eq_some.1 hwithin
    exact hrange
  | null => cases h
  | bool flag => cases h
  | list items => cases h
  | map fields => cases h

/-- Reads an integer of 32 bits with a sign. -/
def toSigned32? (v : Value) : Option Int :=
  v.toSigned64?.bind (within? isSigned32)

/-- Reads a double; a text that stands for no finite one has none. -/
def toDecimal? : Value → Option Binary64
  | .text s => (Decimal.read? (trimBoth s.toList)).bind Decimal.toBinary64?
  | v => v.toBinary64?

/-- Reads a point in time; an integer counts seconds from the start of 1970. -/
def toInstant? : Value → Option Instant
  | .text s => Instant.read? s
  | .int n => (within? isSigned64 n).bind Instant.ofUnixSeconds?
  | _ => none

/-- Whether a value is null, the empty text, or a list or map without entries. -/
def isEmpty : Value → Bool
  | .null => true
  | .text s => s.isEmpty
  | .list items => items.isEmpty
  | .map fields => fields.isEmpty
  | .bool _ | .int _ | .float _ => false

/-- The text of a point in time as a value. -/
def ofInstant (t : Instant) : Value :=
  .text t.render

end Flowgraph.Value
