import Flowgraph.Value.Basic
/-!
# Environments

The variables of a model by environment, as a document states them: the names of the environments,
the names of the variables, and for each variable a row with one cell for each environment.

Main definitions: `EnvironmentTable`, `EnvironmentTable.ofValue`, `EnvironmentTable.valuesIn`.
-/

namespace Flowgraph

/-- Variables by environment. -/
structure EnvironmentTable where
  environments : List String := []
  keys : List String := []
  /-- The cells of each variable, one for each environment. -/
  rows : List (List Value) := []

namespace EnvironmentTable

/-- The texts of an optional list, or what is wrong with it. -/
def readTexts (field : String) : Option Value → Except String (List String)
  | none | some .null => .ok []
  | some (.list items) =>
    items.mapM fun
      | .text s => .ok s
      | _ => .error s!"{field} must contain strings"
  | some _ => .error s!"{field} must be a list"

/-- The rows of an optional list of lists, or what is wrong with it. -/
def readRows : Option Value → Except String (List (List Value))
  | none | some .null => .ok []
  | some (.list rows) =>
    rows.mapM fun
      | .list cells => .ok cells
      | _ => .error "each values row must be a list"
  | some _ => .error "values must be a list"

/-- Reads a table from a document, or says what is wrong with it. -/
def ofValue : Value → Except String EnvironmentTable
  | .map fields => do
    let environments ← readTexts "environments" (Keyed.get? "environments" fields)
    let keys ← readTexts "keys" (Keyed.get? "keys" fields)
    let rows ← readRows (Keyed.get? "values" fields)
    return ⟨environments, keys, rows⟩
  | _ => .error "expected an object"

/-- Whether an environment is known. -/
def contains (table : EnvironmentTable) (environment : String) : Bool :=
  table.environments.contains environment

/-- The cell of a row in a column, null where there is none. -/
def cell (table : EnvironmentTable) (row column : Nat) : Value :=
  ((table.rows[row]?).bind fun cells => cells[column]?).getD .null

/-- The variables of an environment; an unknown environment has none. -/
def valuesIn (table : EnvironmentTable) (environment : String) : Value.Fields :=
  match table.environments.idxOf? environment with
  | some column => Keyed.sorted (table.keys.mapIdx fun row key => (key, table.cell row column))
  | none => []

end EnvironmentTable

end Flowgraph
