import Flowgraph.Value.Basic
/-!
# The evaluation context

The named entries that a run reads and writes: data, functions of the host and objects of the
host. Entries keep their order of arrival. Two names are reserved: `state` holds the map that the
actions of one run share, and `env` the variables of the active environment.

Main definitions: `Context.Entry`, `Context`, `Context.insert`, `Context.stateMap`,
`Context.setState`, `Context.ensureEnvironment`, `Context.toFields`.
Main statements: `get?_insert`, `get?_remove`.
-/

namespace Flowgraph

/-- One entry of a context. -/
inductive Context.Entry where
  /-- A value, read by its path. -/
  | data (v : Value)
  /-- A function of the host, called with the texts of its arguments. -/
  | function (call : List String → Value)
  /-- An object of the host: its attributes by name, and the value of the object itself. -/
  | object (member : String → Option Value) (snapshot : Value)

/-- The named entries of a run, in order of arrival. -/
structure Context where
  entries : List (String × Context.Entry)

namespace Context

/-- The name of the map that the actions of a run share. -/
def stateKey : String := "state"

/-- The name of the variables of the active environment. -/
def envKey : String := "env"

/-- The context without entries. -/
def empty : Context := ⟨[]⟩

/-- The context whose data entries are the entries of a map. -/
def ofFields (fields : Value.Fields) : Context :=
  ⟨Keyed.putAll (fields.map fun (k, v) => (k, Entry.data v)) []⟩

/-- The entry named `k`. -/
def get? (c : Context) (k : String) : Option Entry :=
  Keyed.get? k c.entries

/-- The data entry named `k`; functions and objects have none. -/
def value? (c : Context) (k : String) : Option Value :=
  match c.get? k with
  | some (.data v) => some v
  | _ => none

/-- Whether there is an entry named `k`. -/
def contains (c : Context) (k : String) : Bool :=
  Keyed.has k c.entries

/-- Binds an entry, in the place of an earlier one of that name. -/
def bind (c : Context) (k : String) (entry : Entry) : Context :=
  ⟨Keyed.put k entry c.entries⟩

/-- Binds a data entry. -/
def insert (c : Context) (k : String) (v : Value) : Context :=
  c.bind k (.data v)

/-- Drops the entry named `k`. -/
def remove (c : Context) (k : String) : Context :=
  ⟨Keyed.erase k c.entries⟩

/-- The names of the entries in order. -/
def keys (c : Context) : List String :=
  Keyed.keys c.entries

/-- Binds every entry of `overlay` in turn. -/
def merge (c overlay : Context) : Context :=
  ⟨Keyed.putAll overlay.entries c.entries⟩

/-! ## Reserved entries -/

/-- The shared map, if a map is bound. -/
def state? (c : Context) : Option Value.Fields :=
  (c.value? stateKey).bind Value.fields?

/-- The shared map, empty when no map is bound. -/
def stateMap (c : Context) : Value.Fields :=
  c.state?.getD []

/-- Writes a name of the shared map, which replaces whatever else was bound as `state`. -/
def setState (c : Context) (k : String) (v : Value) : Context :=
  c.insert stateKey (.map (Keyed.insert k v c.stateMap))

/-- Binds the shared map as it is, or an empty one. -/
def ensureState (c : Context) : Context :=
  c.insert stateKey (.map c.stateMap)

/-- Binds the variables of an environment unless `env` is bound. -/
def ensureEnvironment (c : Context) (values : Value.Fields) : Context :=
  if c.contains envKey then c else c.insert envKey (.map values)

/-- The value of an entry; functions have none. -/
def Entry.toValue? : Entry → Option Value
  | .data v => some v
  | .object _ snapshot => some snapshot
  | .function _ => none

/-- The entries that have a value, as a map. -/
def toFields (c : Context) : Value.Fields :=
  Keyed.sorted (c.entries.filterMap fun (k, entry) => entry.toValue?.map fun v => (k, v))

/-! ## Reading after writing -/

theorem get?_bind (c : Context) (k k' : String) (entry : Entry) :
    (c.bind k entry).get? k' = if k = k' then some entry else c.get? k' :=
  Keyed.get?_put ..

theorem get?_insert (c : Context) (k k' : String) (v : Value) :
    (c.insert k v).get? k' = if k = k' then some (.data v) else c.get? k' :=
  get?_bind ..

theorem get?_remove (c : Context) (k k' : String) :
    (c.remove k).get? k' = if k = k' then none else c.get? k' :=
  Keyed.get?_erase ..

theorem value?_insert_self (c : Context) (k : String) (v : Value) :
    (c.insert k v).value? k = some v := by
  simp [value?, get?_insert]

theorem state?_setState (c : Context) (k : String) (v : Value) :
    (c.setState k v).state? = some (Keyed.insert k v c.stateMap) := by
  simp [setState, state?, value?_insert_self, Value.fields?]

end Context

end Flowgraph
