import Flowgraph.Query.Compiled
/-!
# Places of selected records

A query answers records, not the places where they stand, and a collection may hold the same record
twice. `CompiledQuery.applyIdx` is the query on records that carry their places: it answers the same
records in the same order (`map_fst_applyIdx`), each with a place where it stands
(`getElem?_of_mem_applyIdx`). A query without an order and a window answers its matches as they
stand (`apply_eq_filter`).
-/

namespace Flowgraph

namespace CompiledQuery

variable (query : CompiledQuery) (records : List Record)

/-- Puts records that carry their places in the order of the keys, if there are any. -/
def sortIdx (placed : List (Record × Nat)) : List (Record × Nat) :=
  if query.sorts.isEmpty then placed
  else placed.mergeSort fun a b => (query.compareRecords a.1 b.1).isLE

/-- The result of a query on records that carry their places. -/
def applyIdx : List (Record × Nat) :=
  let sorted := query.sortIdx (records.zipIdx.filter fun a => query.matches a.1)
  match query.window with
  | some window => window.cut sorted
  | none => sorted

theorem map_fst_sortIdx (placed : List (Record × Nat)) :
    (query.sortIdx placed).map Prod.fst = query.sort (placed.map Prod.fst) := by
  rw [sortIdx, sort]
  split
  · rfl
  · exact List.map_mergeSort fun _ _ _ _ => rfl

/-- The records are those that the query answers. -/
theorem map_fst_applyIdx : (query.applyIdx records).map Prod.fst = query.apply records := by
  have hmatches : (records.zipIdx.filter fun a => query.matches a.1).map Prod.fst =
      records.filter query.matches := by
    have hfilter := List.filter_map (f := Prod.fst) (p := query.matches) (l := records.zipIdx)
    rw [List.zipIdx_map_fst] at hfilter
    exact hfilter.symm
  rw [applyIdx, apply, ← hmatches, ← map_fst_sortIdx]
  cases query.window with
  | none => rfl
  | some window => simp only [Window.cut, List.map_take, List.map_drop]

variable {query records}

theorem mem_of_mem_sortIdx {placed : List (Record × Nat)} {a : Record × Nat}
    (h : a ∈ query.sortIdx placed) : a ∈ placed := by
  rw [sortIdx] at h
  split at h
  · exact h
  · exact List.mem_mergeSort.1 h

/-- A record of the result stands at its place. -/
theorem getElem?_of_mem_applyIdx {record : Record} {i : Nat}
    (h : (record, i) ∈ query.applyIdx records) : records[i]? = some record := by
  have hsorted : (record, i) ∈
      query.sortIdx (records.zipIdx.filter fun a => query.matches a.1) := by
    rw [applyIdx] at h
    cases hw : query.window with
    | none =>
      rw [hw] at h
      exact h
    | some window =>
      rw [hw] at h
      exact List.mem_of_mem_drop (List.mem_of_mem_take h)
  exact List.mem_zipIdx_iff_getElem?.1 (List.mem_filter.1 (mem_of_mem_sortIdx hsorted)).1

/-- A query without an order and a window answers its matches as they stand. -/
theorem apply_eq_filter (hsorts : query.sorts = []) (hwindow : query.window = none) :
    query.apply records = records.filter query.matches := by
  rw [apply, hwindow, sort, hsorts]
  rfl

end CompiledQuery

end Flowgraph
