import Flowgraph.Time.Calendar
/-!
# Points in time

An instant is a date in universal time, a second of that day and a fraction in nanoseconds. The
fraction of a leap second is a full second or more on top of its minute's second 59, so that the
lexicographic order of the parts is the order in time.

Main definitions: `Instant`, `Instant.ofUnixSeconds?`, `Instant.shift?`, `Instant.compare`,
`Instant.render`.
Main statement: `shift?_zero`.
-/

namespace Flowgraph

/-- A point in universal time. -/
structure Instant where
  date : Date
  /-- The second of the day. -/
  second : Nat
  /-- The nanoseconds past that second; a thousand million or more in a leap second. -/
  nanos : Nat
  deriving DecidableEq

namespace Instant

/-- The seconds of a day. -/
def daySeconds : Nat := 86400

/-- The nanoseconds of a second. -/
def nanosPerSecond : Nat := 1000000000

/-- The instant a number of seconds after the start of 1970. -/
def ofUnixSeconds? (n : Int) : Option Instant :=
  (Date.ofEpochDay? (n / daySeconds)).map fun date => ⟨date, (n % daySeconds).toNat, 0⟩

/-- Moves an instant by less than a day. -/
def shift? (t : Instant) (seconds : Int) : Option Instant :=
  let moved := t.second + seconds
  if moved < 0 then t.date.previous?.map fun d => ⟨d, (moved + daySeconds).toNat, t.nanos⟩
  else if moved < daySeconds then some ⟨t.date, moved.toNat, t.nanos⟩
  else t.date.next?.map fun d => ⟨d, (moved - daySeconds).toNat, t.nanos⟩

/-- Moving by nothing changes nothing. -/
theorem shift?_zero {t : Instant} (h : t.second < daySeconds) : t.shift? 0 = some t := by
  have hlt : (t.second : Int) < daySeconds := by exact_mod_cast h
  have hnn : ¬ (t.second : Int) < 0 := by omega
  simp [shift?, hlt, hnn]

/-- Order in time. -/
def compare (a b : Instant) : Ordering :=
  ((a.date.compare b.date).then (Ord.compare a.second b.second)).then
    (Ord.compare a.nanos b.nanos)

/-! ## Written form -/

open Number

/-- A year: four digits from 0 to 9999, elsewhere a sign and at least four digits. -/
def renderYear (year : Int) : List Char :=
  if 0 ≤ year ∧ year ≤ 9999 then padded 4 year.natAbs
  else (if year < 0 then '-' else '+') :: padded 4 year.natAbs

/-- The fraction of a second in the fewest groups of three digits. -/
def renderFraction (nanos : Nat) : List Char :=
  if nanos = 0 then []
  else if nanos % 1000000 = 0 then '.' :: padded 3 (nanos / 1000000)
  else if nanos % 1000 = 0 then '.' :: padded 6 (nanos / 1000)
  else '.' :: padded 9 nanos

/-- The second of the minute and the fraction that are written; a leap second is second 60. -/
def writtenSecond (t : Instant) : Nat × Nat :=
  if t.nanos < nanosPerSecond then (t.second % 60, t.nanos)
  else (t.second % 60 + 1, t.nanos - nanosPerSecond)

/-- The date, a `T`, the time and the offset of universal time. -/
def renderChars (t : Instant) : List Char :=
  renderYear t.date.year ++ '-' :: padded 2 t.date.month ++ '-' :: padded 2 t.date.day ++
    'T' :: padded 2 (t.second / 3600) ++ ':' :: padded 2 (t.second / 60 % 60) ++
    ':' :: padded 2 t.writtenSecond.1 ++ renderFraction t.writtenSecond.2 ++
    ['+', '0', '0', ':', '0', '0']

/-- The written form of an instant. -/
def render (t : Instant) : String :=
  String.ofList t.renderChars

end Instant

end Flowgraph
