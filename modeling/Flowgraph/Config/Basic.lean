import Flowgraph.Registry.Basic
import Flowgraph.Value.Shape
/-!
# Configurations

A configuration names the model, the environment and the stores that the command line works with.
Stores are declared with their collections, fields by the short names of their kinds, and the
records that they hold in the beginning.

Main definitions: `CollectionConfig.schema`, `StoreConfig.build`, `RuntimeConfig`,
`RuntimeConfig.decode?`, `RuntimeConfig.providers`.
Main statement: `name_build`.
-/

namespace Flowgraph

/-- Why a configuration cannot be used. -/
inductive ConfigError where
  | unreadable (path reason : String)
  /-- The file is not written as it should be; `format` names the form. -/
  | malformed (format path : String)
  | unknownFieldKind (collection field kind : String)
  | invalidRecord (collection : String)
  | seed (store reason : String)

/-- The message of an error. -/
def ConfigError.message : ConfigError → String
  | unreadable path reason => s!"could not read configuration {path}: {reason}"
  | malformed format path => s!"malformed {format} configuration {path}"
  | unknownFieldKind collection field kind =>
    s!"collection '{collection}' declares field '{field}' with unknown kind '{kind}'"
  | invalidRecord collection =>
    s!"collection '{collection}' has a seed record that is not an object"
  | seed store reason => s!"store '{store}' could not be seeded: {reason}"

/-! ## Collections and stores -/

/-- A declared collection. -/
structure CollectionConfig where
  name : String
  /-- The name of the record type, that of the collection if there is none. -/
  recordType : Option String := none
  primaryKey : String
  /-- The short names of the kinds of the fields. -/
  fields : List (String × String) := []
  records : List Value := []

namespace CollectionConfig

/-- A declared field with its kind. -/
def field (collection : CollectionConfig) (declared : String × String) :
    Except ConfigError FieldDescriptor :=
  match FieldKind.ofName? declared.2 with
  | some kind => .ok (.plain declared.1 kind)
  | none => .error (.unknownFieldKind collection.name declared.1 declared.2)

/-- The schema of a collection. -/
def schema (collection : CollectionConfig) : Except ConfigError RecordSchema := do
  let fields ← collection.fields.mapM collection.field
  let schema : RecordSchema :=
    ⟨collection.recordType.getD collection.name, collection.primaryKey, []⟩
  return schema.withFields fields

/-- The records of a collection, which must be maps. -/
def seedRecords (collection : CollectionConfig) : Except ConfigError (List Record) :=
  collection.records.mapM fun
    | .map fields => .ok fields
    | _ => .error (.invalidRecord collection.name)

/-- The collection as a document. -/
def encode (collection : CollectionConfig) : Value :=
  .ofEntries
    [("name", .text collection.name), ("record_type", .ofText? collection.recordType),
      ("primary_key", .text collection.primaryKey),
      ("fields", .ofEntries (collection.fields.map fun (k, kind) => (k, .text kind))),
      ("records", .list collection.records)]

/-- The fields of a written collection in order. -/
def slots : List Value.Slot :=
  [⟨"name", false⟩, ⟨"record_type", true⟩, ⟨"primary_key", false⟩, ⟨"fields", true⟩,
    ⟨"records", true⟩]

/-- Reads a collection from a document. -/
def decode? (v : Value) : Option CollectionConfig := do
  match ← v.slots? slots with
  | [name, recordType, primaryKey, fields, records] =>
    return {
      name := ← Value.required Value.text? name
      recordType := ← Value.optional Value.text? recordType
      primaryKey := ← Value.required Value.text? primaryKey
      fields := ← Value.defaulted [] (Value.mapOf Value.text?) fields
      records := ← Value.defaulted [] Value.items? records }
  | _ => none

/-- What is wanted in the place of a collection. -/
def shape : Shape :=
  .fields [("name", .text), ("record_type", .textOrNull), ("primary_key", .text),
    ("fields", .arrivals .text), ("records", .list .any)]

end CollectionConfig

/-- A declared store. -/
structure StoreConfig where
  name : String
  collections : List CollectionConfig := []

namespace StoreConfig

/-- Declares a collection of a store. -/
def declare (store : MemoryStore) (collection : CollectionConfig) :
    Except ConfigError MemoryStore := do
  return store.declare collection.name (← collection.schema)

/-- Appends the records of a collection to a store. -/
def seed (store : MemoryStore) (collection : CollectionConfig) :
    Except ConfigError MemoryStore := do
  match store.seed collection.name (← collection.seedRecords) with
  | .ok store => .ok store
  | .error error => .error (.seed store.name error.message)

/-- The declared store: all collections are declared before the first one gets its records. -/
def build (config : StoreConfig) : Except ConfigError MemoryStore := do
  let declared ← config.collections.foldlM declare { name := config.name }
  config.collections.foldlM seed declared

/-- The store as a document. -/
def encode (config : StoreConfig) : Value :=
  .ofEntries
    [("name", .text config.name), ("collections", .list (config.collections.map (·.encode)))]

/-- The fields of a written store in order. -/
def slots : List Value.Slot :=
  [⟨"name", false⟩, ⟨"collections", true⟩]

/-- Reads a store from a document. -/
def decode? (v : Value) : Option StoreConfig := do
  match ← v.slots? slots with
  | [name, collections] =>
    return {
      name := ← Value.required Value.text? name
      collections := ← Value.defaulted [] (Value.listOf CollectionConfig.decode?) collections }
  | _ => none

/-- What is wanted in the place of a store. -/
def shape : Shape :=
  .fields [("name", .text), ("collections", .list CollectionConfig.shape)]

theorem name_declare {store after : MemoryStore} {collection : CollectionConfig}
    (h : declare store collection = .ok after) : after.name = store.name := by
  simp only [declare, bind, Except.bind] at h
  split at h
  · cases h
  · cases h
    rfl

theorem name_seed {store after : MemoryStore} {collection : CollectionConfig}
    (h : seed store collection = .ok after) : after.name = store.name := by
  simp only [seed, bind, Except.bind] at h
  split at h
  · cases h
  · split at h
    · next hs =>
      cases h
      simp only [MemoryStore.seed] at hs
      split at hs
      · cases hs
        rfl
      · cases hs
    · cases h

theorem name_foldlM {step : MemoryStore → CollectionConfig → Except ConfigError MemoryStore}
    (hstep : ∀ store after collection, step store collection = .ok after → after.name = store.name)
    {collections : List CollectionConfig} {store after : MemoryStore}
    (h : collections.foldlM step store = .ok after) : after.name = store.name := by
  induction collections generalizing store with
  | nil => cases h; rfl
  | cons collection rest ih =>
    simp only [List.foldlM_cons, bind, Except.bind] at h
    split at h
    · cases h
    · next next hnext => rw [ih h, hstep _ _ _ hnext]

/-- A store keeps its declared name. -/
theorem name_build {config : StoreConfig} {store : MemoryStore} (h : config.build = .ok store) :
    store.name = config.name := by
  simp only [build, bind, Except.bind] at h
  split at h
  · cases h
  · next declared hd =>
    rw [name_foldlM (fun _ _ _ => name_seed) h, name_foldlM (fun _ _ _ => name_declare) hd]

end StoreConfig

/-! ## Configurations -/

/-- What the command line works with. -/
structure RuntimeConfig where
  /-- The file of the model. -/
  modelPath : Option String := none
  environment : String := "Prod"
  /-- The time limit of calls in seconds. -/
  timeout : Nat := 30
  logFilter : Option String := none
  stores : List StoreConfig := []

namespace RuntimeConfig

/-- The configuration as a document. -/
def encode (config : RuntimeConfig) : Value :=
  .ofEntries
    [("model_path", .ofText? config.modelPath), ("environment", .text config.environment),
      ("http_timeout_secs", .int config.timeout), ("log_filter", .ofText? config.logFilter),
      ("stores", .list (config.stores.map (·.encode)))]

/-- The fields of a written configuration in order. -/
def slots : List Value.Slot :=
  [⟨"model_path", true⟩, ⟨"environment", true⟩, ⟨"http_timeout_secs", true⟩, ⟨"log_filter", true⟩,
    ⟨"stores", true⟩]

/-- Reads a configuration from a document. -/
def decode? (v : Value) : Option RuntimeConfig := do
  match ← v.slots? slots with
  | [modelPath, environment, timeout, logFilter, stores] =>
    return {
      modelPath := ← Value.optional Value.text? modelPath
      environment := ← Value.defaulted "Prod" Value.text? environment
      timeout := ← Value.defaulted 30 Value.unsigned64? timeout
      logFilter := ← Value.optional Value.text? logFilter
      stores := ← Value.defaulted [] (Value.listOf StoreConfig.decode?) stores }
  | _ => none

/-- What is wanted in the place of a configuration. -/
def shape : Shape :=
  .fields [("model_path", .textOrNull), ("environment", .text), ("http_timeout_secs", .unsigned),
    ("log_filter", .textOrNull), ("stores", .list StoreConfig.shape)]

/-- The declared stores. -/
def providers (config : RuntimeConfig) : Except ConfigError (List Provider) :=
  config.stores.mapM fun store => return { store := ← store.build }

end RuntimeConfig

end Flowgraph
