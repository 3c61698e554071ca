/-!
# Steps that may fail

A reader or a task is a sequence of steps, each of which may fail, and ends at the first one that
does. What such a sequence results in is the result of its last step (`bind_eq_ok`), and what each
step of a run over a list keeps, the run keeps (`foldlM_induction`).

Where it does not depend on earlier results whether a step fails, a sequence succeeds when all of
its steps do: two of them (`exists_bind_eq_ok_iff_and`), one for each item of a list
(`exists_mapM_eq_ok_iff`), or a run over a list (`exists_foldlM_eq_ok_iff`).
-/

namespace Flowgraph

variable {ε α β : Type}

/-- A sequence succeeds when both parts do. -/
theorem bind_eq_ok {x : Except ε α} {f : α → Except ε β} {b : β} :
    x >>= f = .ok b ↔ ∃ a, x = .ok a ∧ f a = .ok b := by
  cases x with
  | error error => simp [bind, Except.bind]
  | ok a => simp [bind, Except.bind]

theorem exists_eq_ok {x : Except ε α} (h : x.toOption.isSome = true) : ∃ a, x = .ok a := by
  cases x with
  | error error => cases h
  | ok a => exact ⟨a, rfl⟩

/-- What each step of a run keeps, the run keeps. -/
theorem foldlM_induction {p : β → Prop} {step : β → α → Except ε β}
    (hstep : ∀ b a b', p b → step b a = .ok b' → p b') {as : List α} {b b' : β} (hb : p b)
    (h : as.foldlM step b = .ok b') : p b' := by
  induction as generalizing b with
  | nil => exact Except.ok.inj h ▸ hb
  | cons a rest ih =>
    rw [List.foldlM_cons] at h
    obtain ⟨next, hnext, hrest⟩ := bind_eq_ok.1 h
    exact ih (hstep b a next hb hnext) hrest

/-! ## Whether steps succeed -/

/-- Two steps succeed when the first does and the second does on its result. -/
theorem exists_bind_eq_ok_iff {x : Except ε α} {f : α → Except ε β} :
    (∃ b, x >>= f = .ok b) ↔ ∃ a, x = .ok a ∧ ∃ b, f a = .ok b := by
  constructor
  · rintro ⟨b, h⟩
    obtain ⟨a, ha, hb⟩ := bind_eq_ok.1 h
    exact ⟨a, ha, b, hb⟩
  · rintro ⟨a, rfl, b, hb⟩
    exact ⟨b, hb⟩

/-- Two steps succeed when both do, if the second does or does not whatever the first results in. -/
theorem exists_bind_eq_ok_iff_and {x : Except ε α} {f : α → Except ε β} {p q : Prop}
    (hx : (∃ a, x = .ok a) ↔ p) (hf : ∀ a, x = .ok a → ((∃ b, f a = .ok b) ↔ q)) :
    (∃ b, x >>= f = .ok b) ↔ p ∧ q := by
  rw [exists_bind_eq_ok_iff, ← hx]
  constructor
  · rintro ⟨a, ha, hb⟩
    exact ⟨⟨a, ha⟩, (hf a ha).1 hb⟩
  · rintro ⟨⟨a, ha⟩, hq⟩
    exact ⟨a, ha, (hf a ha).2 hq⟩

/-- A last step that cannot fail does not matter. -/
theorem exists_bind_pure_eq_ok_iff {x : Except ε α} {f : α → β} :
    (∃ b, (do let a ← x; pure (f a)) = .ok b) ↔ ∃ a, x = .ok a := by
  rw [exists_bind_eq_ok_iff]
  exact exists_congr fun a => and_iff_left ⟨f a, rfl⟩

/-- A list is read when each of its items is. -/
theorem exists_mapM_eq_ok_iff {read : α → Except ε β} {as : List α} :
    (∃ bs, as.mapM read = .ok bs) ↔ ∀ a ∈ as, ∃ b, read a = .ok b := by
  induction as with
  | nil => simpa using ⟨[], rfl⟩
  | cons a rest ih =>
    rw [List.mapM_cons, List.forall_mem_cons, ← ih]
    exact exists_bind_eq_ok_iff_and Iff.rfl fun b _ => exists_bind_pure_eq_ok_iff

/-- Steps that are taken or not whatever was done before are all taken when each of them is. -/
theorem exists_foldlM_eq_ok_iff {step : β → α → Except ε β} {p : α → Prop}
    (hstep : ∀ b a, (∃ b', step b a = .ok b') ↔ p a) {as : List α} {b : β} :
    (∃ b', as.foldlM step b = .ok b') ↔ ∀ a ∈ as, p a := by
  induction as generalizing b with
  | nil => simpa using ⟨b, rfl⟩
  | cons a rest ih =>
    rw [List.foldlM_cons, List.forall_mem_cons]
    exact exists_bind_eq_ok_iff_and (hstep b a) fun next _ => ih

end Flowgraph
