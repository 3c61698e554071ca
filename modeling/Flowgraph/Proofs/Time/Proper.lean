import Mathlib.Data.List.TakeWhile
import Flowgraph.Proofs.Number.Padded
import Flowgraph.Time.Reader
/-!
# Times that a clock can show

An instant is proper (`IsProper`) when its second is one of the day and its fraction one of a
second, or of a leap second at the end of a minute. All instants are proper that are read or counted
from the start of 1970 (`isProper_of_read?`, `isProper_of_ofUnixSeconds?`).
-/

namespace Flowgraph.Instant

open Number Text

/-! ## Times of day -/

/-- Whether the second is one of the day, and the fraction one of a second, or of a leap second at
the end of a minute. -/
structure IsProper (t : Instant) : Prop where
  second_lt : t.second < daySeconds
  nanos_lt : t.nanos < 2 * nanosPerSecond
  leap : nanosPerSecond ≤ t.nanos → t.second % 60 = 59

theorem isProper_of_ofParts? {year : Int} {month day hour minute second nanos : Nat} {t : Instant}
    (h : ofParts? year month day hour minute second nanos = some t)
    (hnanos : nanos < nanosPerSecond) : t.IsProper := by
  obtain ⟨date, -, hparts⟩ := Option.bind_eq_some_iff.1 h
  simp only [nanosPerSecond] at hnanos
  split at hparts
  · next hclock =>
    split at hparts
    · cases hparts
      constructor <;> simp only [daySeconds, nanosPerSecond] <;> omega
    · next hleap =>
      cases hparts
      constructor <;> simp only [daySeconds, nanosPerSecond] <;> omega
  · cases hparts

/-- A move by less than a day keeps the fraction and comes to the second of a day. -/
theorem second_of_shift? {t moved : Instant} {seconds : Int} (h : t.shift? seconds = some moved)
    (hsecond : t.second < daySeconds) (hday : seconds.natAbs < daySeconds) :
    moved.nanos = t.nanos ∧ (moved.second : Int) = (t.second + seconds) % daySeconds := by
  have hlength : daySeconds = 86400 := rfl
  simp only [Instant.shift?] at h
  -- The move ends on the day before, on the same day, or on the day after.
  split at h
  · obtain ⟨date, -, rfl⟩ := Option.map_eq_some_iff.1 h
    exact ⟨rfl, by simp only [hlength]; omega⟩
  · split at h
    · cases h
      exact ⟨rfl, by simp only [hlength]; omega⟩
    · obtain ⟨date, -, rfl⟩ := Option.map_eq_some_iff.1 h
      exact ⟨rfl, by simp only [hlength]; omega⟩

/-- Moving by whole minutes keeps the second of the minute. -/
theorem IsProper.shift? {t moved : Instant} {seconds : Int} (ht : t.IsProper)
    (h : t.shift? seconds = some moved) (hminutes : seconds % 60 = 0)
    (hday : seconds.natAbs < daySeconds) : moved.IsProper := by
  obtain ⟨hsecond, hnanos, hleap⟩ := ht
  obtain ⟨hsame, hmoved⟩ := second_of_shift? h hsecond hday
  simp only [daySeconds] at hmoved
  refine ⟨by simp only [daySeconds]; omega, hsame ▸ hnanos, fun hlong => ?_⟩
  have hminute := hleap (hsame ▸ hlong)
  omega

theorem isProper_of_ofUnixSeconds? {n : Int} {t : Instant} (h : ofUnixSeconds? n = some t) :
    t.IsProper := by
  obtain ⟨date, -, rfl⟩ := Option.map_eq_some_iff.1 h
  constructor <;> simp only [daySeconds, nanosPerSecond] <;> omega

/-! ## Times that are read -/

/-- A fraction is less than a second. -/
theorem lt_of_takeFraction? {cs rest : List Char} {nanos : Nat}
    (h : takeFraction? cs = some (nanos, rest)) : nanos < nanosPerSecond := by
  unfold takeFraction? at h
  split at h
  · next tail =>
    simp only [takeNanos?] at h
    split at h
    · cases h
    · cases h
      have hdigits : ∀ c ∈ (tail.take 9).takeWhile isDigit, isDigit c = true := fun c hc =>
        List.mem_takeWhile_imp hc
      have hlength : ((tail.take 9).takeWhile isDigit).length ≤ 9 :=
        (List.takeWhile_sublist _).length_le.trans (List.length_take_le ..)
      calc
        natOfDigits ((tail.take 9).takeWhile isDigit) *
            tenTo (9 - ((tail.take 9).takeWhile isDigit).length)
          < 10 ^ ((tail.take 9).takeWhile isDigit).length *
            10 ^ (9 - ((tail.take 9).takeWhile isDigit).length) :=
          Nat.mul_lt_mul_of_pos_right (natOfDigits_lt hdigits) (Nat.pow_pos (by decide))
        _ = nanosPerSecond := by
          rw [← Nat.pow_add, Nat.add_sub_cancel' hlength]
          rfl
  · cases h
    decide

/-- An offset is of whole minutes and less than a day. -/
theorem takeOffset?_eq_some {cs rest : List Char} {seconds : Int}
    (h : takeOffset? cs = some (seconds, rest)) :
    seconds % 60 = 0 ∧ seconds.natAbs < daySeconds := by
  have hlength : daySeconds = 86400 := rfl
  cases cs with
  | nil => cases h
  | cons c cs =>
    simp only [takeOffset?] at h
    split at h
    · cases h
      decide
    · split at h
      · obtain ⟨⟨hours, behind⟩, -, h⟩ := Option.bind_eq_some_iff.1 h
        obtain ⟨colon, -, h⟩ := Option.bind_eq_some_iff.1 h
        obtain ⟨⟨minutes, last⟩, -, h⟩ := Option.bind_eq_some_iff.1 h
        simp only at h
        split at h
        · next hrange =>
          simp only [Option.some.injEq, Prod.mk.injEq] at h
          obtain ⟨rfl, -⟩ := h
          split <;> omega
        · cases h
      · cases h

theorem isProper_of_readOffset? {cs : List Char} {t : Instant} (h : readOffset? cs = some t) :
    t.IsProper := by
  -- Of the parts only the fraction and the offset matter; the clock checks the others itself.
  obtain ⟨⟨year, cs⟩, -, h⟩ := Option.bind_eq_some_iff.1 h
  obtain ⟨cs, -, h⟩ := Option.bind_eq_some_iff.1 h
  obtain ⟨⟨month, cs⟩, -, h⟩ := Option.bind_eq_some_iff.1 h
  obtain ⟨cs, -, h⟩ := Option.bind_eq_some_iff.1 h
  obtain ⟨⟨day, cs⟩, -, h⟩ := Option.bind_eq_some_iff.1 h
  simp only at h
  split at h
  · split at h
    · obtain ⟨cs, -, h⟩ := Option.bind_eq_some_iff.1 h
      obtain ⟨⟨hour, cs⟩, -, h⟩ := Option.bind_eq_some_iff.1 h
      obtain ⟨cs, -, h⟩ := Option.bind_eq_some_iff.1 h
      obtain ⟨⟨minute, cs⟩, -, h⟩ := Option.bind_eq_some_iff.1 h
      obtain ⟨cs, -, h⟩ := Option.bind_eq_some_iff.1 h
      obtain ⟨⟨second, cs⟩, -, h⟩ := Option.bind_eq_some_iff.1 h
      obtain ⟨⟨nanos, cs⟩, hfraction, h⟩ := Option.bind_eq_some_iff.1 h
      obtain ⟨⟨offset, cs⟩, hoffset, h⟩ := Option.bind_eq_some_iff.1 h
      simp only at h
      split at h
      · obtain ⟨clock, hclock, hshift⟩ := Option.bind_eq_some_iff.1 h
        obtain ⟨hminutes, hday⟩ := takeOffset?_eq_some hoffset
        have hproper := isProper_of_ofParts? hclock (lt_of_takeFraction? hfraction)
        exact hproper.shift? hshift (by omega) (by omega)
      · cases h
    · cases h
  · cases h

/-- A part of a layout leaves the fraction alone or reads one. -/
theorem LayoutPart.nanos_take? {part : LayoutPart} {parts parts' : LayoutParts}
    {cs rest : List Char} (h : part.take? parts cs = some (parts', rest))
    (hnanos : parts.nanos < nanosPerSecond) : parts'.nanos < nanosPerSecond := by
  cases part <;> simp only [take?, Option.map_eq_some_iff, Prod.mk.injEq] at h
  case fraction =>
    obtain ⟨⟨n, rest⟩, hread, rfl, -⟩ := h
    exact lt_of_takeFraction? hread
  case gap =>
    cases h
    exact hnanos
  all_goals
    obtain ⟨_, -, rfl, -⟩ := h
    exact hnanos

theorem nanos_readParts? {layout : List LayoutPart} {parts parts' : LayoutParts} {cs : List Char}
    (h : readParts? parts layout cs = some parts') (hnanos : parts.nanos < nanosPerSecond) :
    parts'.nanos < nanosPerSecond := by
  induction layout generalizing parts cs with
  | nil =>
    unfold readParts? at h
    split at h
    · cases h
      exact hnanos
    · cases h
  | cons part layout ih =>
    obtain ⟨⟨next, rest⟩, htake, hrest⟩ := Option.bind_eq_some_iff.1 h
    exact ih hrest (LayoutPart.nanos_take? htake hnanos)

theorem isProper_of_readLayout? {layout : List LayoutPart} {cs : List Char} {t : Instant}
    (h : readLayout? layout cs = some t) : t.IsProper := by
  obtain ⟨parts, hparts, hmade⟩ := Option.bind_eq_some_iff.1 h
  exact isProper_of_ofParts? hmade (nanos_readParts? hparts (by decide))

/-- **A point in time that is read is a time that a clock can show.** -/
theorem isProper_of_read? {s : String} {t : Instant} (h : read? s = some t) : t.IsProper := by
  rcases Option.or_eq_some_iff.1 h with hoffset | ⟨-, hlayout⟩
  · exact isProper_of_readOffset? hoffset
  · obtain ⟨layout, -, hread⟩ := List.exists_of_findSome?_eq_some hlayout
    exact isProper_of_readLayout? hread

end Flowgraph.Instant
