/-!
# Lists of named entries

A list of pairs of a name and a value, read from the front: the first entry of a name is the one
that counts. Two disciplines of writing share it.

* `insert` keeps the names in ascending order, as the maps of the document format do.
* `put` keeps the order of arrival: a new name goes to the end, a known one keeps its place.

Main statements: `get?_insert`, `get?_put`, `get?_erase`, `keys_put`.
-/

namespace Flowgraph.Keyed

variable {α : Type}

/-- The value of the first entry named `k`. -/
def get? (k : String) : List (String × α) → Option α
  | [] => none
  | (k', v) :: rest => if k' = k then some v else get? k rest

/-- The names in order. -/
def keys (entries : List (String × α)) : List String :=
  entries.map Prod.fst

/-- The values in order. -/
def values (entries : List (String × α)) : List α :=
  entries.map Prod.snd

/-- Whether some entry is named `k`. -/
def has (k : String) (entries : List (String × α)) : Bool :=
  (get? k entries).isSome

/-- Writes an entry where the ascending order of names puts it. -/
def insert (k : String) (v : α) : List (String × α) → List (String × α)
  | [] => [(k, v)]
  | (k', v') :: rest =>
    if k' = k then (k, v) :: rest
    else if k < k' then (k, v) :: (k', v') :: rest
    else (k', v') :: insert k v rest

/-- Writes an entry in its place, a new name at the end. -/
def put (k : String) (v : α) : List (String × α) → List (String × α)
  | [] => [(k, v)]
  | (k', v') :: rest => if k' = k then (k, v) :: rest else (k', v') :: put k v rest

/-- Drops every entry named `k`. -/
def erase (k : String) (entries : List (String × α)) : List (String × α) :=
  entries.filter fun entry => entry.1 ≠ k

/-- Replaces the first entry named `k`. -/
def update (k : String) (f : α → α) : List (String × α) → List (String × α)
  | [] => []
  | (k', v) :: rest => if k' = k then (k', f v) :: rest else (k', v) :: update k f rest

/-- Writes the entries one after another into `into`, in ascending order of names. -/
def insertAll (entries into : List (String × α)) : List (String × α) :=
  entries.foldl (fun acc entry => insert entry.1 entry.2 acc) into

/-- The entries in ascending order of names, the last entry of a name winning. -/
def sorted (entries : List (String × α)) : List (String × α) :=
  insertAll entries []

/-- Writes the entries one after another into `into`, in order of arrival. -/
def putAll (entries into : List (String × α)) : List (String × α) :=
  entries.foldl (fun acc entry => put entry.1 entry.2 acc) into

/-! ## Looking up after writing -/

@[simp] theorem get?_nil (k : String) : get? k ([] : List (String × α)) = none := rfl

theorem get?_cons (k k' : String) (v : α) (rest : List (String × α)) :
    get? k ((k', v) :: rest) = if k' = k then some v else get? k rest := rfl

theorem get?_insert (k k' : String) (v : α) (entries : List (String × α)) :
    get? k' (insert k v entries) = if k = k' then some v else get? k' entries := by
  induction entries with
  | nil => simp [insert, get?]
  | cons entry rest ih => grind [insert, get?]

theorem get?_put (k k' : String) (v : α) (entries : List (String × α)) :
    get? k' (put k v entries) = if k = k' then some v else get? k' entries := by
  induction entries with
  | nil => simp [put, get?]
  | cons entry rest ih => grind [put, get?]

theorem get?_erase (k k' : String) (entries : List (String × α)) :
    get? k' (erase k entries) = if k = k' then none else get? k' entries := by
  induction entries with
  | nil => simp [erase, get?]
  | cons entry rest ih =>
    simp only [erase, List.filter_cons] at ih ⊢
    grind [get?]

/-- A known name keeps the order of names, a new one goes to the end. -/
theorem keys_put (k : String) (v : α) (entries : List (String × α)) :
    keys (put k v entries) = if k ∈ keys entries then keys entries else keys entries ++ [k] := by
  induction entries with
  | nil => simp [put, keys]
  | cons entry rest ih => grind [put, keys]

theorem has_iff_mem_keys (k : String) (entries : List (String × α)) :
    has k entries = true ↔ k ∈ keys entries := by
  induction entries with
  | nil => simp [has, keys]
  | cons entry rest ih => grind [has, get?, keys]

end Flowgraph.Keyed
