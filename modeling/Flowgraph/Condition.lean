import Flowgraph.Comparison
/-!
# Conditions

A condition is a test with two optional links: when the test passes the result is that of the
`andAlso` link, true without one; when it fails the result is that of the `orElse` link, false
without one.

Main definitions: `Test`, `Condition`, `Condition.holds`.
-/

namespace Flowgraph

/-- The test of a condition. -/
inductive Test where
  /-- Compares two values. -/
  | comparison (left : Value) (op : Option Operator) (right : Value)
  /-- Asks whether a value is null or empty, or with `negate` whether it is not. -/
  | emptiness (v : Value) (negate : Bool)

/-- Whether a test passes. -/
def Test.passes : Test → Bool
  | .comparison left op right => Comparison.compare left op right
  | .emptiness v negate => v.isEmpty != negate

/-- A test with what follows when it passes and when it fails. -/
inductive Condition where
  | mk (test : Test) (andAlso orElse : Option Condition)

namespace Condition

/-- The test of a condition. -/
def test : Condition → Test
  | .mk test _ _ => test

/-- What must hold in addition when the test passes. -/
def andAlso : Condition → Option Condition
  | .mk _ andAlso _ => andAlso

/-- What may hold instead when the test fails. -/
def orElse : Condition → Option Condition
  | .mk _ _ orElse => orElse

mutual

/-- Whether a condition holds together with its links. -/
def holds : Condition → Bool
  | .mk test andAlso orElse =>
    if test.passes then linkHolds true andAlso else linkHolds false orElse

/-- Whether a link holds; `absent` is the answer without one. -/
def linkHolds (absent : Bool) : Option Condition → Bool
  | none => absent
  | some condition => holds condition

end

end Condition

end Flowgraph
