import Flowgraph.Proofs.Registry.Population
import Flowgraph.Proofs.Registry.Subtypes
import Flowgraph.Registry.PropertyTypes
/-!
# Reading rules back

Rules are written as documents, and a document is read back in two ways: by the decoder of rules,
and by population as a property of one of the rule types. The decoder gives back every rule set
whose page and page size are integers of 64 bits (`RuleSet.decode?_encode`). Population gives back
all filters and all orders, but only a page and a page size of 32 bits: a number beyond that is
dropped, and the rules are read without it (`Registry.parseProperty_encode`,
`Registry.page_of_33_bits`).
-/

namespace Flowgraph

open Number (isSigned32 isSigned64)

/-! ## Pages -/

namespace RuleSet

variable {rules : RuleSet}

/-- Whether the page and the page size, where given, lie in a range. -/
def PagesIn (range : Int → Bool) (rules : RuleSet) : Prop :=
  (∀ n ∈ rules.page, range n = true) ∧ ∀ n ∈ rules.pageSize, range n = true

/-- The rules without a page or a page size that does not fit 32 bits. -/
def narrowed (rules : RuleSet) : RuleSet :=
  { rules with
    page := rules.page.filter isSigned32
    pageSize := rules.pageSize.filter isSigned32 }

theorem narrowed_eq_self_iff : rules.narrowed = rules ↔ rules.PagesIn isSigned32 := by
  have hfilter (n : Option Int) : n.filter isSigned32 = n ↔ ∀ m ∈ n, isSigned32 m = true := by
    cases n with
    | none => simp
    | some m => simp [Option.filter_eq_some_iff]
  rw [PagesIn, ← hfilter, ← hfilter]
  constructor
  · intro h
    exact ⟨congrArg page h, congrArg pageSize h⟩
  · rintro ⟨hpage, hsize⟩
    rw [narrowed, hpage, hsize]

end RuleSet

/-! ## The decoder of rules -/

namespace Value

theorem optional_text? (s : Option String) : optional text? (some (ofText? s)) = some s := by
  cases s <;> rfl

theorem listOf_encode {α : Type} {encode : α → Value} {decode : Value → Option α}
    (h : ∀ a, decode (encode a) = some a) (as : List α) :
    listOf decode (.list (as.map encode)) = some as := by
  rw [listOf]
  induction as with
  | nil => rfl
  | cons a rest ih =>
    rw [List.map_cons, List.mapM_cons, h, ih]
    rfl

end Value

namespace FilterRule

theorem optional_type (type : Option FilterType) :
    Value.optional (fun v => v.variantName?.bind FilterType.ofName?)
      (some (.ofText? (type.map FilterType.name))) = some type := by
  cases type with
  | none => rfl
  | some type => exact congrArg (Option.map some) (FilterType.ofName?_name type)

/-- The decoder gives back a filter. -/
theorem decode?_encode (rule : FilterRule) : decode? rule.encode = some rule := by
  have hdecode : decode? rule.encode = do
      let attr ← Value.optional Value.text? (some (.ofText? rule.attr))
      let type ← Value.optional (fun v => v.variantName?.bind FilterType.ofName?)
        (some (.ofText? (rule.type.map FilterType.name)))
      return { attr, type, value := rule.value, ignoreIfEmpty := rule.ignoreIfEmpty } := rfl
  rw [hdecode, Value.optional_text?, optional_type]
  rfl

end FilterRule

namespace OrderRule

/-- The decoder gives back an order. -/
theorem decode?_encode (rule : OrderRule) : decode? rule.encode = some rule := by
  have hdecode : decode? rule.encode = do
      let attr ← Value.optional Value.text? (some (.ofText? rule.attr))
      let direction ← SortDirection.ofName? rule.direction.name
      return { attr, direction } := rfl
  rw [hdecode, Value.optional_text?, SortDirection.ofName?_name]
  rfl

end OrderRule

namespace RuleSet

theorem optional_page {n : Option Int} (h : ∀ m ∈ n, isSigned64 m = true) :
    Value.optional Value.signed64? (some (encodeInt? n)) = some n := by
  cases n with
  | none => rfl
  | some m =>
    have hwithin : (Value.int m).signed64? = some m := Number.within?_eq_some.2 ⟨h m rfl, rfl⟩
    exact congrArg (Option.map some) hwithin

/-- **The decoder gives back the rules.** -/
theorem decode?_encode {rules : RuleSet} (h : rules.PagesIn isSigned64) :
    decode? rules.encode = some rules := by
  have hdecode : decode? rules.encode = do
      let filters ← Value.listOf FilterRule.decode? (.list (rules.filters.map FilterRule.encode))
      let sorts ← Value.listOf OrderRule.decode? (.list (rules.sorts.map OrderRule.encode))
      let page ← Value.optional Value.signed64? (some (encodeInt? rules.page))
      let pageSize ← Value.optional Value.signed64? (some (encodeInt? rules.pageSize))
      return { filters, sorts, page, pageSize } := rfl
  rw [hdecode, Value.listOf_encode FilterRule.decode?_encode,
    Value.listOf_encode OrderRule.decode?_encode, optional_page h.1, optional_page h.2]
  rfl

end RuleSet

/-! ## Population -/

namespace PopulateScope

variable {scope : PopulateScope}

/-- Whether rules are parsed by the built-in types. -/
structure HasBuiltinRules (scope : PopulateScope) : Prop where
  filterRule : scope.properties.get? "FilterRule" =
    some ⟨PropertyTypes.filterRule, some .filterRule⟩
  orderRule : scope.properties.get? "OrderRule" =
    some ⟨PropertyTypes.orderRule, some .orderRule⟩
  ruleSet : scope.properties.get? "RuleSet" = some ⟨PropertyTypes.ruleSet, some .ruleSet⟩

/-- A value that names no type is parsed as the base. -/
theorem parseProperty_of_typeName? {base : String} {info : TypeInfo} {parser : PropertyParser}
    {v : Value} (hbase : scope.properties.get? base = some ⟨info, some parser⟩)
    (htype : typeName? v = none) :
    scope.parseProperty base v = scope.parseWith parser info v (scope.readersOf v) := by
  have hchosen : scope.chooseType ⟨info, some parser⟩ v = ⟨info, some parser⟩ := by
    rw [chooseType, htype]
    rfl
  rw [parseProperty_eq hbase, hchosen]
  rfl

/-- What the entries of a document make of a filter. -/
theorem parseFilterRule_populateFrom (scope : PopulateScope) (entries : Value.Fields) :
    parseFilterRule (populateFrom PropertyTypes.filterRule.fields PropertyTypes.filterRule.name
      (scope.entryReaders entries) none) =
      { attr := (given? entries "attribute").map Value.stringify
        type := ((given? entries "type").bind (readVariant? FilterType.names)).bind
          FilterType.ofName?
        value := (given? entries "value").getD .null
        ignoreIfEmpty := ((given? entries "ignoreIfEmpty").bind Value.toBool?).getD false } := by
  have hnodup : (PropertyTypes.filterRule.fields.map FieldDescriptor.name).Nodup := by decide
  rw [parseFilterRule]
  congr 1
  · exact scope.text?_populateFrom (List.mem_of_getElem? (i := 0) rfl) hnodup _ _ _ rfl
  · refine congrArg (Option.bind · FilterType.ofName?)
      ((scope.variantName?_populateFrom (List.mem_of_getElem? (i := 1) rfl) hnodup _ _ _ rfl).trans
        (congrArg _ (funext fun v => Option.or_none)))
  · exact congrArg (Option.getD · .null)
      (scope.json?_populateFrom (List.mem_of_getElem? (i := 2) rfl) hnodup _ _ _ rfl)
  · exact congrArg (Option.getD · false)
      (scope.bool?_populateFrom (List.mem_of_getElem? (i := 3) rfl) hnodup _ _ _ rfl)

/-- What the entries of a document make of an order. -/
theorem parseOrderRule_populateFrom (scope : PopulateScope) (entries : Value.Fields) :
    parseOrderRule (populateFrom PropertyTypes.orderRule.fields PropertyTypes.orderRule.name
      (scope.entryReaders entries) none) =
      { attr := (given? entries "attribute").map Value.stringify
        direction := (((given? entries "direction").bind fun v =>
          (readVariant? SortDirection.names v).or (some "Ascending")).bind
            SortDirection.ofName?).getD .ascending } := by
  have hnodup : (PropertyTypes.orderRule.fields.map FieldDescriptor.name).Nodup := by decide
  rw [parseOrderRule]
  congr 1
  · exact scope.text?_populateFrom (List.mem_of_getElem? (i := 0) rfl) hnodup _ _ _ rfl
  · exact congrArg (fun name : Option String => (name.bind SortDirection.ofName?).getD .ascending)
      (scope.variantName?_populateFrom (List.mem_of_getElem? (i := 1) rfl) hnodup _ _ _ rfl)

/-- What the entries of a document make of a rule set, if it has a list of filters and one of
orders. -/
theorem parseRuleSet_populateFrom (scope : PopulateScope) {entries : Value.Fields}
    {filters sorts : List Value} (hfilters : Keyed.get? "filters" entries = some (.list filters))
    (hsorts : Keyed.get? "sorts" entries = some (.list sorts)) :
    parseRuleSet (populateFrom PropertyTypes.ruleSet.fields PropertyTypes.ruleSet.name
      (scope.entryReaders entries) none) =
      { filters := filters.filterMap fun v =>
          ((scope.coerce (.capability "FilterRule") v).toOption.bind FieldValue.property?).bind
            PropertyValue.filterRule?
        sorts := sorts.filterMap fun v =>
          ((scope.coerce (.capability "OrderRule") v).toOption.bind FieldValue.property?).bind
            PropertyValue.orderRule?
        page := (given? entries "page").bind Value.toSigned32?
        pageSize := (given? entries "pageSize").bind Value.toSigned32? } := by
  have hnodup : (PropertyTypes.ruleSet.fields.map FieldDescriptor.name).Nodup := by decide
  rw [parseRuleSet]
  congr 1
  · exact scope.properties_populateFrom (List.mem_of_getElem? (i := 0) rfl) hnodup _ _ _ _ rfl
      hfilters
  · exact scope.properties_populateFrom (List.mem_of_getElem? (i := 1) rfl) hnodup _ _ _ _ rfl
      hsorts
  · exact scope.int?_populateFrom (List.mem_of_getElem? (i := 2) rfl) hnodup _ _ _ rfl rfl
  · exact scope.int?_populateFrom (List.mem_of_getElem? (i := 3) rfl) hnodup _ _ _ rfl rfl

/-! ### Documents that were written -/

theorem given?_ofText? {entries : Value.Fields} {name : String} {s : Option String}
    (h : Keyed.get? name entries = some (.ofText? s)) : given? entries name = s.map .text := by
  rw [given?, h]
  cases s <;> rfl

theorem given?_encodeInt? {entries : Value.Fields} {name : String} {n : Option Int}
    (h : Keyed.get? name entries = some (RuleSet.encodeInt? n)) :
    given? entries name = n.map .int := by
  rw [given?, h]
  cases n <;> rfl

/-- An attribute is read as the text that was written. -/
theorem map_stringify (s : Option String) : (s.map Value.text).map Value.stringify = s := by
  cases s <;> rfl

/-- A variant is read by its exact name. -/
theorem readVariant?_of_mem {variants : List String} {name : String} (h : name ∈ variants) :
    readVariant? variants (.text name) = some name := by
  rw [readVariant?, if_pos (List.contains_iff_mem.2 h)]

/-- A page is read if it fits 32 bits. -/
theorem bind_toSigned32? (n : Option Int) :
    (n.map Value.int).bind Value.toSigned32? = n.filter isSigned32 := by
  cases n with
  | none => rfl
  | some m =>
    -- It is read as an integer of 64 bits first, which drops nothing that 32 bits would keep.
    have hread : (Value.int m).toSigned32? =
        (if isSigned64 m = true then some m else none).bind fun m =>
          if isSigned32 m = true then some m else none := rfl
    rw [Option.map_some, Option.bind_some, hread, Option.filter_some]
    by_cases hfits : isSigned32 m = true
    · rw [if_pos (Number.isSigned64_of_isSigned32 hfits)]
      rfl
    · rw [if_neg hfits]
      split
      · exact if_neg hfits
      · rfl

/-- Population gives back a filter. -/
theorem parseProperty_filterRule (h : scope.HasBuiltinRules) (rule : FilterRule) :
    scope.parseProperty "FilterRule" rule.encode = .ok (.filterRule rule) := by
  rw [parseProperty_of_typeName? h.filterRule rfl]
  refine congrArg (Except.ok ∘ PropertyValue.filterRule)
    ((scope.parseFilterRule_populateFrom _).trans ?_)
  congr 1
  · exact (congrArg _ (given?_ofText? rfl)).trans (map_stringify rule.attr)
  · refine (congrArg (fun v : Option Value =>
        (v.bind (readVariant? FilterType.names)).bind FilterType.ofName?)
      (given?_ofText? rfl)).trans ?_
    cases rule.type with
    | none => rfl
    | some type =>
      rw [Option.map_some, Option.map_some, Option.bind_some,
        readVariant?_of_mem type.name_mem_names, Option.bind_some, FilterType.ofName?_name]
  · cases rule.value <;> rfl

/-- Population gives back an order. -/
theorem parseProperty_orderRule (h : scope.HasBuiltinRules) (rule : OrderRule) :
    scope.parseProperty "OrderRule" rule.encode = .ok (.orderRule rule) := by
  rw [parseProperty_of_typeName? h.orderRule rfl]
  refine congrArg (Except.ok ∘ PropertyValue.orderRule)
    ((scope.parseOrderRule_populateFrom _).trans ?_)
  congr 1
  · exact (congrArg _ (given?_ofText? rfl)).trans (map_stringify rule.attr)
  · change (((readVariant? SortDirection.names (.text rule.direction.name)).or _).bind
      SortDirection.ofName?).getD .ascending = rule.direction
    rw [readVariant?_of_mem rule.direction.name_mem_names, Option.some_or, Option.bind_some,
      SortDirection.ofName?_name, Option.getD_some]

/-- A list of written rules is read back. -/
theorem filterMap_encode {α : Type} {base : String} {encode : α → Value} {wrap : α → PropertyValue}
    {pick : PropertyValue → Option α} (hnull : ∀ a, (encode a).isNull = false)
    (hparse : ∀ a, scope.parseProperty base (encode a) = .ok (wrap a))
    (hpick : ∀ a, pick (wrap a) = some a) (as : List α) :
    (as.map encode).filterMap (fun v =>
      ((scope.coerce (.capability base) v).toOption.bind FieldValue.property?).bind pick) = as := by
  rw [List.filterMap_map]
  refine (List.filterMap_congr fun a _ => ?_).trans List.filterMap_some
  rw [Function.comp_apply, coerce_capability, hnull, if_neg Bool.false_ne_true, hparse]
  exact hpick a

/-- **Population gives back the rules**, but a page or a page size that does not fit 32 bits. -/
theorem parseProperty_ruleSet (h : scope.HasBuiltinRules) (rules : RuleSet) :
    scope.parseProperty "RuleSet" rules.encode = .ok (.ruleSet rules.narrowed) := by
  rw [parseProperty_of_typeName? h.ruleSet rfl]
  refine congrArg (Except.ok ∘ PropertyValue.ruleSet)
    ((scope.parseRuleSet_populateFrom rfl rfl).trans ?_)
  rw [RuleSet.narrowed]
  congr 1
  · exact filterMap_encode (fun _ => rfl) (parseProperty_filterRule h) (fun _ => rfl) rules.filters
  · exact filterMap_encode (fun _ => rfl) (parseProperty_orderRule h) (fun _ => rfl) rules.sorts
  · exact (congrArg (Option.bind · Value.toSigned32?) (given?_encodeInt? rfl)).trans
      (bind_toSigned32? rules.page)
  · exact (congrArg (Option.bind · Value.toSigned32?) (given?_encodeInt? rfl)).trans
      (bind_toSigned32? rules.pageSize)

theorem parseProperty_ruleSet_eq_iff (h : scope.HasBuiltinRules) {rules : RuleSet} :
    scope.parseProperty "RuleSet" rules.encode = .ok (.ruleSet rules) ↔
      rules.PagesIn isSigned32 := by
  rw [parseProperty_ruleSet h, Except.ok.injEq, PropertyValue.ruleSet.injEq]
  exact RuleSet.narrowed_eq_self_iff

end PopulateScope

namespace Registry

theorem hasBuiltinRules_builtins (model : Model) : (builtins.scope model).HasBuiltinRules :=
  ⟨rfl, rfl, rfl⟩

/-- **Population gives back the rules that were written** exactly when the page and the page size,
where given, fit 32 bits. In every case it succeeds, and drops the numbers that do not. -/
theorem parseProperty_encode (model : Model) (rules : RuleSet) :
    (builtins.scope model).parseProperty "RuleSet" rules.encode = .ok (.ruleSet rules.narrowed) ∧
      ((builtins.scope model).parseProperty "RuleSet" rules.encode = .ok (.ruleSet rules) ↔
        rules.PagesIn isSigned32) :=
  ⟨PopulateScope.parseProperty_ruleSet (hasBuiltinRules_builtins model) rules,
    PopulateScope.parseProperty_ruleSet_eq_iff (hasBuiltinRules_builtins model)⟩

/-- The first page whose number does not fit 32 bits. -/
def farPage : RuleSet := { page := some 0x80000000, pageSize := some 10 }

/-- **Population loses a page that the decoder keeps.** -/
theorem page_of_33_bits :
    RuleSet.decode? farPage.encode = some farPage ∧
      ¬∀ (model : Model) (rules : RuleSet), rules.PagesIn isSigned64 →
        (builtins.scope model).parseProperty "RuleSet" rules.encode = .ok (.ruleSet rules) := by
  have hfits : farPage.PagesIn isSigned64 := by
    constructor <;> rintro n ⟨⟩ <;> rfl
  refine ⟨RuleSet.decode?_encode hfits, fun h => ?_⟩
  have hpages : farPage.PagesIn isSigned32 :=
    (PopulateScope.parseProperty_ruleSet_eq_iff (hasBuiltinRules_builtins .empty)).1
      (h .empty farPage hfits)
  exact absurd (hpages.1 _ rfl) (by decide)

end Registry

end Flowgraph
