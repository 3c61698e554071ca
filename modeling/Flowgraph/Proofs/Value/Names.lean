import Flowgraph.Proofs.Keyed
import Flowgraph.Value.Reader
/-!
# Names of maps

A map of a document has one entry for each of its names. The type of values does not say so, but
every value that is read from a text is like that at any depth (`namesOnce_of_read?`): whatever
names a text repeats, arranging the entries of a map keeps one of each. All that the tokens bring in
themselves are scalars; the parts of a text that are put together of them are `Written.plain`, step
by step.

Main definitions: `Value.namesOnce`, `Written.plain`.
Main statement: `Value.namesOnce_of_read?`.
-/

namespace Flowgraph

/-! ## Maps with one entry for each name -/

namespace Value

mutual

/-- Whether every map in a value has one entry for each of its names. -/
def namesOnce : Value → Bool
  | .list items => namesOnceItems items
  | .map fields => decide (Keyed.keys fields).Nodup && namesOnceFields fields
  | _ => true

/-- Whether every map in the items of a list has one entry for each of its names. -/
def namesOnceItems : List Value → Bool
  | [] => true
  | v :: rest => namesOnce v && namesOnceItems rest

/-- Whether every map below a map has one entry for each of its names. -/
def namesOnceFields : List (String × Value) → Bool
  | [] => true
  | (_, v) :: rest => namesOnce v && namesOnceFields rest

end

theorem namesOnceItems_iff (items : List Value) :
    namesOnceItems items = true ↔ ∀ v ∈ items, v.namesOnce = true := by
  induction items with
  | nil => simp [namesOnceItems]
  | cons v rest ih => rw [namesOnceItems, Bool.and_eq_true, ih, List.forall_mem_cons]

theorem namesOnceFields_iff (fields : Fields) :
    namesOnceFields fields = true ↔ ∀ field ∈ fields, field.2.namesOnce = true := by
  induction fields with
  | nil => simp [namesOnceFields]
  | cons field rest ih => rw [namesOnceFields, Bool.and_eq_true, ih, List.forall_mem_cons]

@[simp] theorem namesOnce_list_iff (items : List Value) :
    (list items).namesOnce = true ↔ ∀ v ∈ items, v.namesOnce = true := by
  rw [namesOnce, namesOnceItems_iff]

@[simp] theorem namesOnce_map_iff (fields : Fields) :
    (map fields).namesOnce = true ↔
      (Keyed.keys fields).Nodup ∧ ∀ field ∈ fields, field.2.namesOnce = true := by
  rw [namesOnce, Bool.and_eq_true, decide_eq_true_eq, namesOnceFields_iff]

end Value

/-! ## Parts of a text -/

/-- The arranged entries of a map are distinct by name, and among those that are written. -/
theorem Shape.arrange_spec {α : Type} (shape : Shape) (entries : List (String × α)) :
    (Keyed.keys (shape.arrange entries)).Nodup ∧ shape.arrange entries ⊆ entries := by
  unfold arrange
  split
  · exact ⟨Keyed.nodup_keys_putAll entries List.nodup_nil,
      fun entry h => (Keyed.mem_putAll h).resolve_right List.not_mem_nil⟩
  · exact ⟨Keyed.nodup_keys_sorted entries,
      fun entry h => (Keyed.mem_insertAll h).resolve_right List.not_mem_nil⟩

namespace Written

mutual

/-- Whether the scalars of a written document hold no maps but ones that name each entry once. -/
def plain : Written → Bool
  | .atom v => v.all Value.namesOnce
  | .list items => plainItems items
  | .map entries => plainEntries entries

/-- Whether the items of a written list are plain. -/
def plainItems : List Written → Bool
  | [] => true
  | node :: rest => plain node && plainItems rest

/-- Whether the entries of a written map are plain. -/
def plainEntries : List (Option String × Written) → Bool
  | [] => true
  | (_, node) :: rest => plain node && plainEntries rest

end

theorem plainItems_iff (items : List Written) :
    plainItems items = true ↔ ∀ node ∈ items, node.plain = true := by
  induction items with
  | nil => simp [plainItems]
  | cons node rest ih => rw [plainItems, Bool.and_eq_true, ih, List.forall_mem_cons]

theorem plainEntries_iff (entries : List (Option String × Written)) :
    plainEntries entries = true ↔ ∀ entry ∈ entries, entry.2.plain = true := by
  induction entries with
  | nil => simp [plainEntries]
  | cons entry rest ih => rw [plainEntries, Bool.and_eq_true, ih, List.forall_mem_cons]

mutual

/-- The value of a plain document names each entry of its maps once, whatever shape is wanted. -/
theorem namesOnce_of_shapedWithin? {shape : Shape} {room : Nat} :
    ∀ {node : Written} {v : Value}, node.plain = true → shapedWithin? shape room node = some v →
      v.namesOnce = true
  | .atom value, v, hplain, h => by
    rw [shapedWithin?] at h
    rw [plain, h] at hplain
    exact hplain
  | .list items, v, hplain, h => by
    rw [shapedWithin?] at h
    split at h
    · cases h
    · obtain ⟨values, hvalues, rfl⟩ := Option.map_eq_some_iff.1 h
      exact (Value.namesOnce_list_iff values).2 (namesOnce_of_itemValues? hplain hvalues)
  | .map entries, v, hplain, h => by
    rw [shapedWithin?] at h
    split at h
    · cases h
    · obtain ⟨values, hvalues, h⟩ := Option.bind_eq_some_iff.1 h
      split at h
      · cases h
      · cases h
        obtain ⟨hnames, hsubset⟩ := shape.arrange_spec values
        exact (Value.namesOnce_map_iff _).2 ⟨hnames, fun entry hentry =>
          namesOnce_of_entryValues? hplain hvalues entry (hsubset hentry)⟩

theorem namesOnce_of_itemValues? {shape : Shape} {room : Nat} :
    ∀ {place : Nat} {items : List Written} {values : List Value}, plainItems items = true →
      itemValues? shape room place items = some values → ∀ v ∈ values, v.namesOnce = true
  | _, [], _, _, h => by
    cases h
    exact fun v hv => by cases hv
  | place, node :: rest, values, hplain, h => by
    rw [plainItems, Bool.and_eq_true] at hplain
    obtain ⟨v, hv, h⟩ := Option.bind_eq_some_iff.1 h
    obtain ⟨later, hlater, h⟩ := Option.bind_eq_some_iff.1 h
    cases h
    exact List.forall_mem_cons.2 ⟨namesOnce_of_shapedWithin? hplain.1 hv,
      namesOnce_of_itemValues? hplain.2 hlater⟩

theorem namesOnce_of_entryValues? {shape : Shape} {room : Nat} :
    ∀ {entries : List (Option String × Written)} {values : List (String × Value)},
      plainEntries entries = true → entryValues? shape room entries = some values →
      ∀ entry ∈ values, entry.2.namesOnce = true
  | [], _, _, h => by
    cases h
    exact fun entry hentry => by cases hentry
  | (k, node) :: rest, values, hplain, h => by
    rw [plainEntries, Bool.and_eq_true] at hplain
    obtain ⟨k, -, h⟩ := Option.bind_eq_some_iff.1 h
    split at h
    · exact namesOnce_of_entryValues? hplain.2 h
    · obtain ⟨v, hv, h⟩ := Option.bind_eq_some_iff.1 h
      obtain ⟨later, hlater, h⟩ := Option.bind_eq_some_iff.1 h
      cases h
      exact List.forall_mem_cons.2 ⟨namesOnce_of_shapedWithin? hplain.1 hv,
        namesOnce_of_entryValues? hplain.2 hlater⟩

end

end Written

namespace Value

/-! ## Tokens -/

/-- Whether a token brings in no map but ones that name each entry once. -/
def Token.plain : Token → Bool
  | .atom v => v.all namesOnce
  | _ => true

theorem namesOnce_of_ofIntegerNumeral? {negative : Bool} {n : Nat} {v : Value}
    (h : ofIntegerNumeral? negative n = some v) : v.namesOnce = true := by
  unfold ofIntegerNumeral? at h
  split at h
  · cases h
    rfl
  · dsimp only at h
    generalize (if negative = true then -(n : Int) else n) = i at h
    split at h
    · cases h
      rfl
    · obtain ⟨x, -, rfl⟩ := Option.map_eq_some_iff.1 h
      rfl

/-- What is read of a number is a scalar. -/
theorem namesOnce_of_readMagnitude? {negative : Bool} {cs rest : List Char} {v : Value}
    (h : readMagnitude? negative cs = some (some v, rest)) : v.namesOnce = true := by
  unfold readMagnitude? at h
  dsimp only at h
  split at h
  · cases h
  · obtain ⟨⟨fraction, behind⟩, -, h⟩ := Option.bind_eq_some_iff.1 h
    obtain ⟨⟨exponent, behind⟩, -, h⟩ := Option.bind_eq_some_iff.1 h
    dsimp only at h
    split at h
    · obtain ⟨hv, -⟩ := Prod.mk.inj (Option.some.inj h)
      exact namesOnce_of_ofIntegerNumeral? hv
    · obtain ⟨hv, -⟩ := Prod.mk.inj (Option.some.inj h)
      obtain ⟨x, -, rfl⟩ := Option.map_eq_some_iff.1 hv
      rfl

theorem plain_of_readToken? {cs rest : List Char} {token : Token}
    (h : readToken? cs = some (token, rest)) : token.plain = true := by
  unfold readToken? at h
  split at h
  case h_7 =>
    obtain ⟨read, -, heq⟩ := Option.map_eq_some_iff.1 h
    cases heq
    rfl
  case h_11 =>
    obtain ⟨⟨v, behind⟩, hread, heq⟩ := Option.map_eq_some_iff.1 h
    cases heq
    cases v with
    | none => rfl
    | some v =>
      unfold readNumber? at hread
      split at hread
      all_goals exact namesOnce_of_readMagnitude? hread
  all_goals
    cases h
    rfl

theorem plain_of_tokensWithin? {budget : Nat} {cs : List Char} {tokens : List Token}
    (h : tokensWithin? budget cs = some tokens) : ∀ token ∈ tokens, token.plain = true := by
  induction budget generalizing cs tokens with
  | zero =>
    rw [tokensWithin?] at h
    split at h
    · cases h
      exact fun token htoken => by cases htoken
    · cases h
  | succ budget ih =>
    rw [tokensWithin?] at h
    dsimp only at h
    split at h
    · cases h
      exact fun token htoken => by cases htoken
    · obtain ⟨⟨token, rest⟩, htoken, h⟩ := Option.bind_eq_some_iff.1 h
      obtain ⟨later, hlater, h⟩ := Option.bind_eq_some_iff.1 h
      cases h
      exact List.forall_mem_cons.2 ⟨plain_of_readToken? htoken, ih hlater⟩

/-! ## Documents read in part -/

/-- Whether all of the given parts are plain. -/
def AllPlain (parts : List Written) : Prop :=
  ∀ node ∈ parts, node.plain = true

theorem allPlain_nil : AllPlain [] :=
  fun _ hnode => absurd hnode List.not_mem_nil

theorem allPlain_cons {node : Written} {parts : List Written} :
    AllPlain (node :: parts) ↔ node.plain = true ∧ AllPlain parts :=
  List.forall_mem_cons

/-- Plain items, in reverse as they are kept while the list is open, make a plain list. -/
theorem plain_list_reverse {before : List Written} (h : AllPlain before) :
    (Written.list before.reverse).plain = true := by
  rw [Written.plain, Written.plainItems_iff]
  exact fun node hnode => h node (List.mem_reverse.1 hnode)

/-- Plain entries, in reverse as they are kept while the map is open, make a plain map. -/
theorem plain_map_reverse {before : List (Option String × Written)}
    (h : AllPlain (before.map Prod.snd)) : (Written.map before.reverse).plain = true := by
  rw [Written.plain, Written.plainEntries_iff]
  exact fun entry hentry => h _ (List.mem_map_of_mem (List.mem_reverse.1 hentry))

/-- The finished parts of an open list or map. -/
def Frame.parts : Frame → List Written
  | .item before => before
  | .entry before _ => before.map Prod.snd

/-- The finished parts that are at hand next to the open lists and maps. -/
def Stage.parts : Stage → List Written
  | .name before _ => before.map Prod.snd
  | .colon before _ => before.map Prod.snd
  | .after node => [node]
  | _ => []

namespace Assembly

/-- Whether all finished parts of a document read in part are plain. -/
structure Plain (a : Assembly) : Prop where
  stage : AllPlain a.stage.parts
  frames : ∀ frame ∈ a.openParts, AllPlain frame.parts

variable {token : Token} {a after : Assembly}

theorem plain_begin? {frames : List Frame} (hframes : ∀ frame ∈ frames, AllPlain frame.parts)
    (htoken : token.plain = true) (h : begin? frames token = some after) : after.Plain := by
  unfold begin? at h
  split at h
  case h_5 => cases h
  case h_1 v =>
    cases h
    exact ⟨allPlain_cons.2 ⟨htoken, allPlain_nil⟩, hframes⟩
  case h_2 s =>
    cases h
    refine ⟨allPlain_cons.2 ⟨?_, allPlain_nil⟩, hframes⟩
    cases s <;> rfl
  all_goals
    cases h
    exact ⟨allPlain_nil, hframes⟩

/-- One token keeps the parts plain: what it finishes is made of the parts at hand. -/
theorem plain_step? (hplain : a.Plain) (htoken : token.plain = true)
    (h : a.step? token = some after) : after.Plain := by
  obtain ⟨hstage, hframes⟩ := hplain
  unfold step? at h
  split at h
  case h_1 => exact plain_begin? hframes htoken h
  case h_2 =>
    cases h
    exact ⟨allPlain_cons.2 ⟨rfl, allPlain_nil⟩, hframes⟩
  case h_3 =>
    refine plain_begin? ?_ htoken h
    exact List.forall_mem_cons.2 ⟨allPlain_nil, hframes⟩
  case h_4 =>
    cases h
    exact ⟨allPlain_cons.2 ⟨plain_map_reverse hstage, allPlain_nil⟩, hframes⟩
  case h_5 =>
    cases h
    exact ⟨hstage, hframes⟩
  case h_6 =>
    cases h
    exact ⟨allPlain_nil, List.forall_mem_cons.2 ⟨hstage, hframes⟩⟩
  case h_11 => cases h
  all_goals
    obtain ⟨hnode, -⟩ := allPlain_cons.1 hstage
    obtain ⟨hbefore, hframes⟩ := List.forall_mem_cons.1 hframes
    have hparts := allPlain_cons.2 ⟨hnode, hbefore⟩
    cases h
  case h_7 => exact ⟨allPlain_nil, List.forall_mem_cons.2 ⟨hparts, hframes⟩⟩
  case h_8 => exact ⟨allPlain_cons.2 ⟨plain_list_reverse hparts, allPlain_nil⟩, hframes⟩
  case h_9 => exact ⟨hparts, hframes⟩
  case h_10 => exact ⟨allPlain_cons.2 ⟨plain_map_reverse hparts, allPlain_nil⟩, hframes⟩

theorem plain_run? {tokens : List Token} (hplain : a.Plain)
    (htokens : ∀ token ∈ tokens, token.plain = true) (h : a.run? tokens = some after) :
    after.Plain := by
  induction tokens generalizing a with
  | nil =>
    cases h
    exact hplain
  | cons token rest ih =>
    obtain ⟨htoken, hrest⟩ := List.forall_mem_cons.1 htokens
    obtain ⟨next, hstep, hrun⟩ := Option.bind_eq_some_iff.1 h
    exact ih (plain_step? hplain htoken hstep) hrest hrun

end Assembly

theorem plain_of_readWritten? {cs : List Char} {node : Written}
    (h : readWritten? cs = some node) : node.plain = true := by
  obtain ⟨tokens, htokens, h⟩ := Option.bind_eq_some_iff.1 h
  obtain ⟨last, hrun, h⟩ := Option.bind_eq_some_iff.1 h
  have hfirst : Assembly.Plain ⟨.value, []⟩ :=
    ⟨allPlain_nil, fun _ h => absurd h List.not_mem_nil⟩
  have hlast := Assembly.plain_run? hfirst (plain_of_tokensWithin? htokens) hrun
  unfold Assembly.finished? at h
  split at h
  · cases h
    exact (allPlain_cons.1 hlast.stage).1
  · cases h

/-- Every value that is read from a text names each entry of its maps once. -/
theorem namesOnce_of_read? {s : String} {v : Value} (h : read? s = some v) :
    v.namesOnce = true := by
  obtain ⟨node, hnode, hv⟩ := Option.bind_eq_some_iff.1 h
  exact Written.namesOnce_of_shapedWithin? (plain_of_readWritten? hnode) hv

end Value

end Flowgraph
