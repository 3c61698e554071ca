import Flowgraph.Proofs.Query.Order
import Mathlib.Algebra.Order.Floor.Div
/-!
# What a query answers

A query without a window answers the records that match, each as often as it is given, in the order
of its keys and otherwise as they are given; that is what the stable sorts by its keys make of them,
from the last key to the first (`apply_ordered`).

A page is a part of what the rules answer without a page. The pages of one size, from the first to
the last that is not empty, are the whole answer in order; all but the last are full, and all later
ones are empty, however far they are (`pages_partition`).
-/

namespace Flowgraph

/-- The stable sort of records by one key. -/
def SortKey.sort (key : SortKey) (records : List Record) : List Record :=
  records.mergeSort fun a b => (key.compare a b).isLE

namespace CompiledQuery

variable {query : CompiledQuery}

/-! ## Without a window -/

/-- Sorting by no keys, which changes nothing, is no exception. -/
theorem sort_eq (query : CompiledQuery) (records : List Record) :
    query.sort records = records.mergeSort fun a b => (SortKey.compareBy query.sorts a b).isLE := by
  rw [sort, compareRecords_eq]
  split
  · next hempty =>
    rw [List.isEmpty_iff.1 hempty]
    exact (List.mergeSort_of_pairwise (List.pairwise_of_forall fun _ _ => rfl)).symm
  · rfl

theorem apply_of_window_eq_none (hwindow : query.window = none) (records : List Record) :
    query.apply records = (records.filter query.matches).mergeSort
      fun a b => (SortKey.compareBy query.sorts a b).isLE := by
  rw [apply, hwindow, sort_eq]

/-- Sorting by several keys is sorting by each of them, from the last to the first. -/
theorem mergeSort_compareBy (keys : List SortKey) (records : List Record) :
    (records.mergeSort fun a b => (SortKey.compareBy keys a b).isLE) =
      keys.foldr SortKey.sort records := by
  induction keys with
  | nil => exact List.mergeSort_of_pairwise (List.pairwise_of_forall fun _ _ => rfl)
  | cons key later ih =>
    rw [SortKey.compareBy, Query.mergeSort_compareLex, ih, List.foldr_cons, SortKey.sort]

/-- **What a query without a window answers**: the records that match, none of them before one that
goes before it, and those that no key tells apart in the order in which they are given. This is what
the stable sorts by the keys make of the records that match, from the last key to the first. -/
theorem apply_ordered (hwindow : query.window = none) (records : List Record) :
    (query.apply records).Perm (records.filter query.matches) ∧
      ((query.apply records).Pairwise fun a b => ¬SortKey.Before query.sorts b a) ∧
      (∀ p : Record → Bool,
        (∀ a b, p a = true → p b = true → ∀ key ∈ query.sorts, key.Ties a b) →
          (query.apply records).filter p = (records.filter query.matches).filter p) ∧
      query.apply records = query.sorts.foldr SortKey.sort (records.filter query.matches) := by
  rw [apply_of_window_eq_none hwindow]
  refine ⟨List.mergeSort_perm _ _, ?_, fun p hp => ?_, mergeSort_compareBy _ _⟩
  · exact (Query.pairwise_mergeSort_isLE _).imp fun h => SortKey.isLE_compareBy_iff.1 h
  · exact Query.filter_mergeSort (fun a b ha hb => SortKey.compareBy_eq_eq_iff.2 (hp a b ha hb)) _

/-! ### Readers by age -/

/-- A reader with a number and an age. -/
def reader (number : Int) (age : Value) : Record := [("age", age), ("number", .int number)]

/-- Readers have a number and an age. -/
def readers : RecordSchema :=
  { name := "Reader", primaryKey := "number", fields := [.plain "number" .int, .plain "age" .int] }

/-- All readers but the fifth one, the oldest first. -/
def byAge : RuleSet where
  filters := [{ attr := some "number", type := some .notEqual, value := .text "5" }]
  sorts := [{ attr := some "age", direction := .descending }]

/-- Readers with a number and, except for the second one, an age. -/
def someReaders : List Record :=
  [reader 1 (.int 30), reader 2 .null, reader 3 (.text "30"), reader 4 (.int 41), reader 5 (.int 8)]

theorem apply_byAge :
    (ofRules byAge readers).apply someReaders =
      [reader 4 (.int 41), reader 1 (.int 30), reader 3 (.text "30"), reader 2 .null] := by
  let le (a b : Record) : Bool := (SortKey.compareBy (ofRules byAge readers).sorts a b).isLE
  -- What the sort asks: within the halves of the readers that match, and then across them.
  have h12 : le (reader 1 (.int 30)) (reader 2 .null) = true := rfl
  have h34 : le (reader 3 (.text "30")) (reader 4 (.int 41)) = false := rfl
  have h14 : le (reader 1 (.int 30)) (reader 4 (.int 41)) = false := rfl
  have h13 : le (reader 1 (.int 30)) (reader 3 (.text "30")) = true := rfl
  have h23 : le (reader 2 .null) (reader 3 (.text "30")) = false := rfl
  calc
    (ofRules byAge readers).apply someReaders =
        [reader 1 (.int 30), reader 2 .null, reader 3 (.text "30"), reader 4 (.int 41)].mergeSort
          le := apply_of_window_eq_none rfl someReaders
    _ = _ := by simp [List.mergeSort, h12, h34, h14, h13, h23]

/-- Readers of one age stand as they are given, and one without an age comes last. -/
theorem apply_ordered_readers :
    (ofRules byAge readers).window = none ∧
      (ofRules byAge readers).apply someReaders =
        [reader 4 (.int 41), reader 1 (.int 30), reader 3 (.text "30"), reader 2 .null] ∧
      ((ofRules byAge readers).apply someReaders).Pairwise
        fun a b => ¬SortKey.Before (ofRules byAge readers).sorts b a :=
  ⟨rfl, apply_byAge, (apply_ordered rfl someReaders).2.1⟩

/-! ## Pages -/

/-- A result is cut into pages of a size. -/
theorem take_mul_eq_flatMap {α : Type} (as : List α) (size count : Nat) :
    as.take (size * count) =
      (List.range count).flatMap fun i => (as.drop (size * i)).take size := by
  induction count with
  | zero => rfl
  | succ count ih =>
    rw [Nat.mul_succ, List.take_add, ih, List.range_succ, List.flatMap_append,
      List.flatMap_singleton]

/-- The window of a page of a size. -/
theorem ofPage?_eq {page size : Nat} (hpage : 1 ≤ page) (hsize : 1 ≤ size) :
    Window.ofPage? (some page) (some size) =
      some ⟨min (size * (page - 1)) Window.largestCount, size⟩ := by
  have hpositive : ∀ n : Nat, 1 ≤ n → Window.positive? n = some n := by
    intro n hn
    rw [Window.positive?, if_pos (by exact_mod_cast hn), Int.toNat_natCast]
  simp only [Window.ofPage?, Option.bind_eq_bind, Option.bind_some, hpositive page hpage,
    hpositive size hsize, Option.pure_def]

/-- A cut that passes over too many records to count passes over all of them. -/
theorem cut_eq {α : Type} {as : List α} (hfits : as.length ≤ Window.largestCount) (n size : Nat) :
    Window.cut ⟨min n Window.largestCount, size⟩ as = (as.drop n).take size := by
  rw [Window.cut]
  rcases Nat.le_total n Window.largestCount with h | h
  · rw [Nat.min_eq_left h]
  · rw [Nat.min_eq_right h, List.drop_eq_nil_of_le hfits, List.drop_eq_nil_of_le (hfits.trans h)]

section Pages

variable (rules : RuleSet) (schema : RecordSchema) (records : List Record)

/-- What rules select when they ask for no page. -/
def selection : List Record :=
  (ofRules { rules with page := none } schema).apply records

/-- What rules select when they ask for a page of a size. -/
def selectionOnPage (size page : Nat) : List Record :=
  (ofRules { rules with page := some page, pageSize := some size } schema).apply records

variable {rules schema records}

/-- A page is a part of the whole selection. -/
theorem selectionOnPage_eq {size page : Nat} (hsize : 1 ≤ size) (hpage : 1 ≤ page)
    (hfits : (selection rules schema records).length ≤ Window.largestCount) :
    selectionOnPage rules schema records size page =
      ((selection rules schema records).drop (size * (page - 1))).take size := by
  have hwindow := ofPage?_eq hpage hsize
  rw [← cut_eq hfits, selectionOnPage, apply, ofRules]
  simp only [hwindow]
  rfl

/-- **Pages partition a selection.** The pages of a size, one after another as far as there are
records, are the whole selection; all of these but the last are full, and all later ones are empty,
also where more records would have to be passed over than can be counted. -/
theorem pages_partition {size : Nat} (hsize : 1 ≤ size)
    (hfits : (selection rules schema records).length ≤ Window.largestCount) :
    let whole := selection rules schema records
    let onPage := selectionOnPage rules schema records size
    let pages := whole.length ⌈/⌉ size
    ((List.range pages).flatMap fun i => onPage (i + 1)) = whole ∧
      (∀ page, 1 ≤ page → page < pages → (onPage page).length = size) ∧
      ∀ page, pages < page → onPage page = [] := by
  intro whole onPage pages
  have hpage : ∀ page, 1 ≤ page → onPage page = (whole.drop (size * (page - 1))).take size :=
    fun page hpage => selectionOnPage_eq hsize hpage hfits
  refine ⟨?_, fun page hfirst hlast => ?_, fun page hpast => ?_⟩
  · have hall : whole.length ≤ size * pages := (ceilDiv_le_iff_le_mul hsize).1 le_rfl
    calc
      ((List.range pages).flatMap fun i => onPage (i + 1)) =
          (List.range pages).flatMap fun i => (whole.drop (size * i)).take size :=
        congrArg (List.flatMap · _) (funext fun i => hpage (i + 1) (Nat.le_add_left 1 i))
      _ = whole.take (size * pages) := (take_mul_eq_flatMap whole size pages).symm
      _ = whole := List.take_of_length_le hall
  · have hmore : size * page < whole.length :=
      Nat.lt_of_not_le fun h => Nat.not_le_of_lt hlast ((ceilDiv_le_iff_le_mul hsize).2 h)
    have hsplit : size * page = size * (page - 1) + size := by
      rw [← Nat.mul_succ, Nat.succ_eq_add_one, Nat.sub_add_cancel hfirst]
    rw [hpage page hfirst, List.length_take, List.length_drop]
    omega
  · have hnone : whole.length ≤ size * (page - 1) :=
      (ceilDiv_le_iff_le_mul hsize).1 (Nat.le_sub_one_of_lt hpast)
    rw [hpage page (Nat.one_le_of_lt hpast), List.drop_eq_nil_of_le hnone, List.take_nil]

end Pages

/-- The four readers that are selected fill one page of three and begin another one. -/
theorem pages_partition_readers :
    1 ≤ 3 ∧ (selection byAge readers someReaders).length ≤ Window.largestCount ∧
      selectionOnPage byAge readers someReaders 3 1 ++
          selectionOnPage byAge readers someReaders 3 2 =
        selection byAge readers someReaders ∧
      (selectionOnPage byAge readers someReaders 3 1).length = 3 ∧
      selectionOnPage byAge readers someReaders 3 0x7FFFFFFFFFFFFFFF = [] := by
  have hlength : (selection byAge readers someReaders).length = 4 := by
    rw [selection, apply_of_window_eq_none rfl, List.length_mergeSort]
    rfl
  have hfits : (selection byAge readers someReaders).length ≤ Window.largestCount := by
    rw [hlength]
    decide
  have hpages : (selection byAge readers someReaders).length ⌈/⌉ 3 = 2 := by
    rw [hlength, Nat.ceilDiv_eq_add_pred_div]
  obtain ⟨hall, hfull, hpast⟩ := pages_partition (by decide : 1 ≤ 3) hfits
  rw [hpages] at hall hfull hpast
  rw [List.range_succ, List.range_one, List.flatMap_append, List.flatMap_singleton,
    List.flatMap_singleton] at hall
  exact ⟨by decide, hfits, hall, hfull 1 (by decide) (by decide), hpast _ (by decide)⟩

end CompiledQuery

end Flowgraph
