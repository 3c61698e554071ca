import Flowgraph.Time.Instant
/-!
# The order in time

The order of instants, and of dates, is lexicographic in their parts, and therefore total; only what
has the same parts is at the same place in it (`Date.compare_eq_iff`, `Instant.compare_eq_iff`).
-/

namespace Flowgraph

instance : Ord Date := ⟨Date.compare⟩

instance : Std.TransOrd Date :=
  inferInstanceAs (Std.TransCmp
    (compareLex (compareLex (compareOn Date.year) (compareOn Date.month)) (compareOn Date.day)))

theorem Date.compare_eq_iff {a b : Date} : a.compare b = .eq ↔ a = b := by
  obtain ⟨ya, ma, da, ha⟩ := a
  obtain ⟨yb, mb, db, hb⟩ := b
  simp [Date.compare, Ordering.then_eq_eq, and_assoc]

instance : Ord Instant := ⟨Instant.compare⟩

instance : Std.TransOrd Instant :=
  inferInstanceAs (Std.TransCmp
    (compareLex (compareLex (compareOn Instant.date) (compareOn Instant.second))
      (compareOn Instant.nanos)))

theorem Instant.compare_eq_iff {a b : Instant} : a.compare b = .eq ↔ a = b := by
  obtain ⟨da, sa, na⟩ := a
  obtain ⟨db, sb, nb⟩ := b
  simp [Instant.compare, Ordering.then_eq_eq, Date.compare_eq_iff, and_assoc]

end Flowgraph
