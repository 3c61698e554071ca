import Flowgraph.Registry.PropertyTypes
import Mathlib.Data.List.Induction
import Mathlib.Data.List.Nodup
/-!
# How types come about

A type begins as a name without fields. Fields are declared for it, one or several at a time, and it
is derived from another type once at most, in any order; the other type came about in the same way
(`TypeInfo.Built`).

Fields may be declared for a list of their own before they are declared for another one
(`FieldDescriptor.declareAll_declareAll`), so it does not matter whether a type declares its fields
before or after it is derived: it has the fields of its parent with its own ones declared on top of
them (`Built.fields_eq`), and its ancestors are its parent and those of its parent
(`Built.lineage_eq`). Hence the description of a type stays well-formed (`Built.wellFormed`).
-/

namespace Flowgraph

namespace FieldDescriptor

/-- The last field of a name. -/
def latest? (name : String) (fields : List FieldDescriptor) : Option FieldDescriptor :=
  find? name fields.reverse

theorem latest?_concat (name : String) (fields : List FieldDescriptor) (field : FieldDescriptor) :
    latest? name (fields ++ [field]) =
      if field.name = name then some field else latest? name fields := by
  rw [latest?, List.reverse_append, List.reverse_singleton, List.singleton_append, find?,
    List.find?_cons]
  by_cases hname : field.name = name <;> simp [hname, latest?, find?]

/-! ## Declaring fields one after another -/

variable (fields earlier additions : List FieldDescriptor) (field : FieldDescriptor)

theorem declareAll_append :
    declareAll fields (earlier ++ additions) = declareAll (declareAll fields earlier) additions :=
  List.foldl_append

theorem declareAll_concat :
    declareAll fields (additions ++ [field]) = declare (declareAll fields additions) field :=
  declareAll_append fields additions [field]

/-- A field of a name that is left out may as well not be declared. -/
theorem filter_declare (name : String) :
    (declare fields field).filter (fun field => field.name ≠ name) =
      declareAll (fields.filter fun field => field.name ≠ name)
        ([field].filter fun field => field.name ≠ name) := by
  rw [declare, List.filter_append, List.filter_comm]
  by_cases hname : field.name = name
  · subst hname
    simp [declareAll]
  · simp [declareAll, declare, hname]

/-- Leaving out a name afterwards is leaving it out on both sides. -/
theorem filter_declareAll (name : String) :
    (declareAll fields additions).filter (fun field => field.name ≠ name) =
      declareAll (fields.filter fun field => field.name ≠ name)
        (additions.filter fun field => field.name ≠ name) := by
  induction additions using List.reverseRecOn with
  | nil => rfl
  | append_singleton additions last ih =>
    rw [declareAll_concat, filter_declare, ih, List.filter_append, declareAll_append]

/-- A declaration takes the place of all earlier ones of its name, wherever these were made. -/
theorem declare_declareAll_filter :
    declare (declareAll fields (additions.filter fun earlier => earlier.name ≠ field.name)) field =
      declare (declareAll fields additions) field := by
  rw [declare, declare, filter_declareAll, filter_declareAll, List.filter_filter]
  simp

/-- **Fields may be declared for a list of their own first.** -/
theorem declareAll_declareAll :
    declareAll fields (declareAll earlier additions) =
      declareAll fields (earlier ++ additions) := by
  induction additions using List.reverseRecOn with
  | nil => rw [List.append_nil]; rfl
  | append_singleton additions last ih =>
    -- Declaring the last field drops an earlier one of its name, which it would have replaced
    -- anyway.
    calc
      declareAll fields (declareAll earlier (additions ++ [last])) =
          declare (declareAll fields
            ((declareAll earlier additions).filter fun field => field.name ≠ last.name)) last := by
        rw [declareAll_concat, declare, declareAll_concat]
      _ = declare (declareAll fields (earlier ++ additions)) last := by
        rw [declare_declareAll_filter, ih]
      _ = declareAll fields (earlier ++ (additions ++ [last])) := by
        rw [← declareAll_concat, List.append_assoc]

/-- The latest declaration of a name is found, or else what stood under it before. -/
theorem find?_declareAll (name : String) :
    find? name (declareAll fields additions) = (latest? name additions).or (find? name fields) := by
  induction additions using List.reverseRecOn with
  | nil => rfl
  | append_singleton additions last ih =>
    rw [declareAll_concat, find?_declare, ih, latest?_concat]
    split <;> rfl

theorem mem_names_declare {name : String} :
    name ∈ (declare fields field).map FieldDescriptor.name ↔
      name = field.name ∨ name ∈ fields.map FieldDescriptor.name := by
  simp only [declare, List.map_append, List.mem_append, List.mem_map, List.mem_filter,
    decide_eq_true_eq, List.mem_singleton, exists_eq_left]
  grind

/-- Declaring fields loses no name and adds those of the fields. -/
theorem mem_names_declareAll {name : String} :
    name ∈ (declareAll fields additions).map FieldDescriptor.name ↔
      name ∈ additions.map FieldDescriptor.name ∨ name ∈ fields.map FieldDescriptor.name := by
  induction additions using List.reverseRecOn with
  | nil => simp [declareAll]
  | append_singleton additions last ih =>
    rw [declareAll_concat, mem_names_declare, ih, List.map_append, List.mem_append,
      List.map_singleton, List.mem_singleton, or_left_comm, or_assoc]

variable {fields}

theorem nodup_names_declare (h : (fields.map FieldDescriptor.name).Nodup) :
    ((declare fields field).map FieldDescriptor.name).Nodup := by
  rw [declare, List.map_append, List.map_singleton]
  refine List.Nodup.append (h.sublist (List.filter_sublist.map _)) (List.nodup_singleton _) ?_
  rw [List.disjoint_singleton]
  simp

/-- Declaring fields keeps the names distinct. -/
theorem nodup_names_declareAll (h : (fields.map FieldDescriptor.name).Nodup) :
    ((declareAll fields additions).map FieldDescriptor.name).Nodup := by
  induction additions using List.reverseRecOn with
  | nil => exact h
  | append_singleton additions last ih =>
    rw [declareAll_concat]
    exact nodup_names_declare last ih

end FieldDescriptor

namespace TypeInfo

open FieldDescriptor (declareAll latest?)

/-- A type is of the kinds that its own qualified name and those of its ancestors stand for. -/
theorem isA_iff_mem {info other : TypeInfo} :
    info.isA other = true ↔ other.qualifiedName ∈ info.qualifiedName :: info.lineage := by
  rw [isA, Bool.or_eq_true, decide_eq_true_eq, List.contains_iff_mem, List.mem_cons]
  exact or_congr_left eq_comm

/-! ## How a type comes about -/

theorem withFields_eq (info : TypeInfo) (fields : List FieldDescriptor) :
    info.withFields fields = { info with fields := declareAll info.fields fields } := by
  induction fields generalizing info with
  | nil => rfl
  | cons field rest ih => exact ih (info.withField field)

/-- How a type comes about, with the type that it is derived from, if it is, and the fields that are
declared for it, in the order of their declarations. -/
inductive Built : Option TypeInfo → List FieldDescriptor → TypeInfo → Prop
  | new (name qualifiedName : String) : Built none [] { name, qualifiedName }
  | withField {parent? : Option TypeInfo} {own : List FieldDescriptor} {info : TypeInfo}
    (h : Built parent? own info) (field : FieldDescriptor) :
    Built parent? (own ++ [field]) (info.withField field)
  | withFields {parent? : Option TypeInfo} {own : List FieldDescriptor} {info : TypeInfo}
    (h : Built parent? own info) (fields : List FieldDescriptor) :
    Built parent? (own ++ fields) (info.withFields fields)
  /-- A type is derived once at most: it must not have a parent yet. -/
  | derive {own inherited : List FieldDescriptor} {info parent : TypeInfo}
    {grandparent? : Option TypeInfo} (h : Built none own info)
    (hparent : Built grandparent? inherited parent) : Built (some parent) own (info.derive parent)
  | asAbstract {parent? : Option TypeInfo} {own : List FieldDescriptor} {info : TypeInfo}
    (h : Built parent? own info) : Built parent? own info.asAbstract

namespace Built

variable {parent? : Option TypeInfo} {own : List FieldDescriptor} {info : TypeInfo}

/-- **The fields of a type** are those of its parent with its own declared on top of them, whether
they were declared before or after it was derived. -/
theorem fields_eq (h : Built parent? own info) :
    info.fields = declareAll (parent?.elim [] TypeInfo.fields) own := by
  induction h with
  | new => rfl
  | withField _ field ih =>
    rw [FieldDescriptor.declareAll_concat, ← ih]
    rfl
  | withFields _ fields ih => rw [withFields_eq, FieldDescriptor.declareAll_append, ← ih]
  | derive _ _ ih _ =>
    rw [TypeInfo.derive, ih]
    exact FieldDescriptor.declareAll_declareAll _ [] _
  | asAbstract _ ih => exact ih

/-- **The ancestors of a type** are its parent and those of its parent. -/
theorem lineage_eq (h : Built parent? own info) :
    info.lineage = parent?.elim [] fun parent => parent.qualifiedName :: parent.lineage := by
  induction h with
  | new => rfl
  | withField _ _ ih => exact ih
  | withFields _ _ ih => rwa [withFields_eq]
  | derive => rfl
  | asAbstract _ ih => exact ih

theorem nodup_names (h : Built parent? own info) :
    (info.fields.map FieldDescriptor.name).Nodup := by
  induction h with
  | new => exact List.nodup_nil
  | withField _ field ih => exact FieldDescriptor.nodup_names_declare field ih
  | withFields _ fields ih =>
    rw [withFields_eq]
    exact FieldDescriptor.nodup_names_declareAll fields ih
  | derive _ _ _ ihparent => exact FieldDescriptor.nodup_names_declareAll _ ihparent
  | asAbstract _ ih => exact ih

/-- The kinds of a type are itself and those of its parent. -/
theorem isA_iff (h : Built parent? own info) (other : TypeInfo) :
    info.isA other = true ↔
      info.qualifiedName = other.qualifiedName ∨ ∃ parent ∈ parent?, parent.isA other = true := by
  rw [isA_iff_mem, List.mem_cons, h.lineage_eq]
  refine or_congr eq_comm ?_
  cases parent? with
  | none => simp
  | some parent => simp [isA_iff_mem]

/-- **The description of a type stays well-formed**, in whatever order it was built. No two fields
have one name. What is found under a name is what the type itself declared under it last, or else
what its parent has under it. It has the names that it declared itself and those of its parent, and
no others. It is of every kind that its parent is of, and else of its own alone. -/
theorem wellFormed (h : Built parent? own info) :
    (info.fields.map FieldDescriptor.name).Nodup ∧
      (∀ name, info.field? name =
        (latest? name own).or (parent?.bind fun parent => parent.field? name)) ∧
      (∀ name, name ∈ info.fields.map FieldDescriptor.name ↔
        name ∈ own.map FieldDescriptor.name ∨
          ∃ parent ∈ parent?, name ∈ parent.fields.map FieldDescriptor.name) ∧
      (∀ parent ∈ parent?, ∀ ancestor : TypeInfo,
        parent.isA ancestor = true → info.isA ancestor = true) ∧
      ∀ other : TypeInfo, info.isA other = true →
        info.qualifiedName = other.qualifiedName ∨ ∃ parent ∈ parent?, parent.isA other = true := by
  refine ⟨h.nodup_names, fun name => ?_, fun name => ?_, fun parent hparent ancestor hisA => ?_,
    fun other => (h.isA_iff other).1⟩
  · rw [field?, h.fields_eq, FieldDescriptor.find?_declareAll]
    cases parent? <;> rfl
  · rw [h.fields_eq, FieldDescriptor.mem_names_declareAll]
    cases parent? <;> simp
  · exact (h.isA_iff ancestor).2 (.inr ⟨parent, hparent, hisA⟩)

end Built

/-! ### A condition of a host -/

open FieldDescriptor (plain)

theorem built_condition :
    Built none [plain "and" (.capability "Condition"), plain "or" (.capability "Condition")]
      PropertyTypes.condition :=
  .asAbstract (.withFields (.new "Condition" "nodeflow::Condition") _)

theorem built_operatorCondition :
    Built (some PropertyTypes.condition)
      [plain "left" .json, plain "operator" (.enumeration Operator.names), plain "right" .json]
      PropertyTypes.operatorCondition :=
  .derive (.withFields (.new "OperatorCondition" "nodeflow::OperatorCondition") _) built_condition

/-- A comparison with a date, which is declared before the type is derived from comparisons, and
with a list of further conditions, which is declared afterwards in place of the one that is
inherited. -/
def dueCondition : TypeInfo :=
  (TypeInfo.derive
    (withField { name := "DueCondition", qualifiedName := "host::DueCondition" }
      (plain "right" .date))
    PropertyTypes.operatorCondition).withField (plain "and" (.list (.capability "Condition")))

/-- The two fields that are declared again are found with their new kinds, another one as it is
inherited, and the type is a condition because comparisons are. -/
theorem wellFormed_dueCondition :
    Built (some PropertyTypes.operatorCondition)
        [plain "right" .date, plain "and" (.list (.capability "Condition"))] dueCondition ∧
      (dueCondition.fields.map FieldDescriptor.name).Nodup ∧
      dueCondition.field? "right" = some (plain "right" .date) ∧
      dueCondition.field? "and" = some (plain "and" (.list (.capability "Condition"))) ∧
      dueCondition.field? "or" = PropertyTypes.operatorCondition.field? "or" ∧
      "or" ∈ dueCondition.fields.map FieldDescriptor.name ∧
      PropertyTypes.operatorCondition.isA PropertyTypes.condition = true ∧
      dueCondition.isA PropertyTypes.condition = true := by
  have hbuilt : Built (some PropertyTypes.operatorCondition)
      [plain "right" .date, plain "and" (.list (.capability "Condition"))] dueCondition :=
    .withField (.derive (.withField (.new "DueCondition" "host::DueCondition") _)
      built_operatorCondition) _
  have hparent : PropertyTypes.operatorCondition.isA PropertyTypes.condition = true :=
    isA_derive _ _
  have hor : "or" ∈ PropertyTypes.operatorCondition.fields.map FieldDescriptor.name := by decide
  obtain ⟨hnodup, hfound, hnames, hkinds, -⟩ := hbuilt.wellFormed
  exact ⟨hbuilt, hnodup, hfound "right", hfound "and", hfound "or",
    (hnames "or").2 (.inr ⟨_, rfl, hor⟩), hparent, hkinds _ rfl _ hparent⟩

end TypeInfo

end Flowgraph
