import Flowgraph.Proofs.Time.Proper
/-!
# Reading written points in time

The written form of a proper instant is read as that instant when its year is written with four
digits, and it is not read at all when its year is written with a sign (`read?_render`): the layout
with an offset allows for no sign, and the layouts that do allow for one have no offset.
-/

namespace Flowgraph

/-- Every date has a month of the year and a day of at most two digits. -/
theorem Date.month_day_lt (d : Date) : d.month < 13 ∧ d.day < 100 := by
  have hdate := d.isDate
  simp only [Flowgraph.isDate, Bool.and_eq_true, decide_eq_true_eq] at hdate
  obtain ⟨⟨-, hfirst⟩, hlast⟩ := hdate
  unfold daysInMonth at hlast
  repeat' split at hlast
  all_goals omega

namespace Instant

open Number Text

/-! ## The parts of the written form -/

section Parts

variable {least most width n : Nat} {ds rest : List Char}

/-- No digits stand in front of another character. -/
theorem takeWhile_take_cons {c : Char} (hc : isDigit c = false) (most : Nat) (rest : List Char) :
    ((c :: rest).take most).takeWhile isDigit = [] := by
  cases most with
  | zero => rfl
  | succ most => rw [List.take_succ_cons, List.takeWhile_cons, hc]; rfl

/-- All digits that stand in front are read, up to the most that are asked for. -/
theorem takeNumber?_append (hdigits : ∀ c ∈ ds, isDigit c = true) (hleast : least ≤ ds.length)
    (hmost : ds.length ≤ most) (hend : (rest.take (most - ds.length)).takeWhile isDigit = []) :
    takeNumber? least most (ds ++ rest) = some (natOfDigits ds, rest) := by
  have htaken : ((ds ++ rest).take most).takeWhile isDigit = ds := by
    rw [List.take_append, List.take_of_length_le hmost, List.takeWhile_append_of_pos hdigits, hend,
      List.append_nil]
  simp only [takeNumber?, htaken]
  rw [if_neg (by omega), List.drop_left]

/-- A number of a fixed width is read, whatever stands behind it. -/
theorem takeNumber?_padded (hleast : least ≤ width) (hwidth : 0 < width) (hfits : n < tenTo width)
    (rest : List Char) : takeNumber? least width (padded width n ++ rest) = some (n, rest) := by
  have hlength := length_padded hwidth hfits
  have hend : (rest.take (width - (padded width n).length)).takeWhile isDigit = [] := by
    rw [hlength, Nat.sub_self]
    rfl
  rw [takeNumber?_append (fun c hc => isDigit_of_mem_padded hc) (by omega) (by omega) hend,
    natOfDigits_padded]

/-- No number begins with another character than a digit. -/
theorem takeNumber?_eq_none {c : Char} (hleast : 0 < least) (hc : isDigit c = false)
    (rest : List Char) : takeNumber? least most (c :: rest) = none := by
  simp only [takeNumber?, takeWhile_take_cons hc]
  exact if_pos hleast

theorem takeChar?_self (c : Char) (rest : List Char) : takeChar? c (c :: rest) = some rest :=
  if_pos rfl

/-- There are no blanks in front of a number. -/
theorem trimStart_padded (hwidth : 0 < width) (n : Nat) (rest : List Char) :
    trimStart (padded width n ++ rest) = padded width n ++ rest := by
  obtain ⟨c, cs, hcs⟩ : ∃ c cs, padded width n = c :: cs :=
    List.exists_cons_of_length_pos (hwidth.trans_le (le_length_padded width n))
  have hmem : c ∈ padded width n := by
    rw [hcs]
    exact List.mem_cons_self
  rw [hcs]
  exact trimStart_eq_of_head (isBlank_of_isDigit (isDigit_of_mem_padded hmem))

theorem takeShort?_padded (hfits : n < 100) (rest : List Char) :
    takeShort? (padded 2 n ++ rest) = some (n, rest) := by
  rw [takeShort?, trimStart_padded (by decide), takeNumber?_padded (by decide) (by decide) hfits]

/-- A fraction of some digits is read as that many places. -/
theorem takeNanos?_padded (hwidth : 0 < width) (hplaces : width ≤ 9) (hfits : n < tenTo width)
    (rest : List Char) :
    takeNanos? (padded width n ++ '+' :: rest) = some (n * tenTo (9 - width), '+' :: rest) := by
  have hlength := length_padded hwidth hfits
  have htaken : ((padded width n ++ '+' :: rest).take 9).takeWhile isDigit = padded width n := by
    rw [List.take_append, List.take_of_length_le (by omega), hlength,
      List.takeWhile_append_of_pos fun c hc => isDigit_of_mem_padded hc,
      takeWhile_take_cons (by decide), List.append_nil]
  have hfilled : (padded width n).isEmpty = false :=
    List.isEmpty_eq_false_iff.2 (List.ne_nil_of_length_pos (by omega))
  have hdrop : (padded width n ++ '+' :: rest).drop width = '+' :: rest := List.drop_left' hlength
  simp only [takeNanos?, htaken, hfilled, natOfDigits_padded, hlength, hdrop]
  rfl

/-- The written fraction of a second is read as that fraction. -/
theorem takeFraction?_renderFraction {nanos : Nat} (h : nanos < nanosPerSecond) (rest : List Char) :
    takeFraction? (renderFraction nanos ++ '+' :: rest) = some (nanos, '+' :: rest) := by
  simp only [nanosPerSecond] at h
  unfold renderFraction
  split
  · next hzero =>
    rw [hzero]
    rfl
  · split
    · next hmillis =>
      have hfits : nanos / 1000000 < 1000 := by omega
      have hvalue : nanos / 1000000 * tenTo (9 - 3) = nanos :=
        Nat.div_mul_cancel (Nat.dvd_of_mod_eq_zero hmillis)
      rw [List.cons_append, takeFraction?, takeNanos?_padded (by decide) (by decide) hfits, hvalue]
    · split
      · next hmicros =>
        have hfits : nanos / 1000 < 1000000 := by omega
        have hvalue : nanos / 1000 * tenTo (9 - 6) = nanos :=
          Nat.div_mul_cancel (Nat.dvd_of_mod_eq_zero hmicros)
        rw [List.cons_append, takeFraction?, takeNanos?_padded (by decide) (by decide) hfits,
          hvalue]
      · have hvalue : nanos * tenTo (9 - 9) = nanos := Nat.mul_one nanos
        rw [List.cons_append, takeFraction?, takeNanos?_padded (by decide) (by decide) h, hvalue]

end Parts

/-! ## The layout with an offset -/

/-- What is written behind the date. -/
def renderClock (t : Instant) : List Char :=
  padded 2 (t.second / 3600) ++ ':' :: (padded 2 (t.second / 60 % 60) ++
    ':' :: (padded 2 t.writtenSecond.1 ++ renderFraction t.writtenSecond.2))

/-- The offset of universal time. -/
def zeroOffset : List Char := ['+', '0', '0', ':', '0', '0']

theorem takeOffset?_zeroOffset : takeOffset? zeroOffset = some (0, []) := by decide

theorem renderChars_eq (t : Instant) :
    t.renderChars = renderYear t.date.year ++ '-' :: (padded 2 t.date.month ++
      '-' :: (padded 2 t.date.day ++ 'T' :: (t.renderClock ++ zeroOffset))) := by
  simp only [renderChars, renderClock, zeroOffset, List.append_assoc, List.cons_append]

namespace IsProper

variable {t : Instant}

theorem writtenSecond_le (ht : t.IsProper) :
    t.writtenSecond.1 ≤ 60 ∧ t.writtenSecond.2 < nanosPerSecond := by
  obtain ⟨-, hnanos, -⟩ := ht
  unfold writtenSecond
  split <;> simp only <;> omega

/-- The written parts of a proper instant make it up again. -/
theorem ofParts?_written (ht : t.IsProper) :
    ofParts? t.date.year t.date.month t.date.day (t.second / 3600) (t.second / 60 % 60)
      t.writtenSecond.1 t.writtenSecond.2 = some t := by
  have hlength : daySeconds = 86400 := rfl
  obtain ⟨hsecond, hnanos, hleap⟩ := ht
  obtain ⟨date, second, nanos⟩ := t
  simp only at hsecond hnanos hleap ⊢
  simp only [ofParts?, Date.ofParts?_self, writtenSecond, Option.bind_eq_bind, Option.bind_some]
  by_cases hlong : nanos < nanosPerSecond
  · rw [if_pos hlong, if_pos (by simp only; omega), if_neg (by simp only; omega)]
    simp only [Option.some.injEq, Instant.mk.injEq, true_and, and_true]
    omega
  · have hlast := hleap (by omega)
    rw [if_neg hlong, if_pos (by simp only; omega), if_pos (by simp only; omega)]
    simp only [Option.some.injEq, Instant.mk.injEq, true_and]
    omega

/-- **An instant of a year of four digits is read from its written form.** -/
theorem readOffset?_renderChars (ht : t.IsProper) (hyear : 0 ≤ t.date.year ∧ t.date.year ≤ 9999) :
    readOffset? t.renderChars = some t := by
  obtain ⟨hmonth, hday⟩ := t.date.month_day_lt
  obtain ⟨hwritten, hnanos⟩ := ht.writtenSecond_le
  have hsecond : t.second < 86400 := ht.second_lt
  have hvalue : (t.date.year.natAbs : Int) = t.date.year := by omega
  have hfits : t.date.year.natAbs < 10000 := by omega
  have hnumber (n : Nat) (hn : n < 100) (rest : List Char) :
      takeNumber? 2 2 (padded 2 n ++ rest) = some (n, rest) :=
    takeNumber?_padded (Nat.le_refl 2) Nat.two_pos hn rest
  rw [renderChars_eq, renderYear, if_pos hyear, renderClock, readOffset?]
  simp only [List.append_assoc, List.cons_append]
  -- The parts are read one after another, each of them up to the mark behind it.
  refine Option.bind_eq_some_iff.2 ⟨_, takeNumber?_padded (by decide) (by decide) hfits _, ?_⟩
  refine Option.bind_eq_some_iff.2 ⟨_, takeChar?_self .., ?_⟩
  refine Option.bind_eq_some_iff.2 ⟨_, hnumber _ (by omega) _, ?_⟩
  refine Option.bind_eq_some_iff.2 ⟨_, takeChar?_self .., ?_⟩
  refine Option.bind_eq_some_iff.2 ⟨_, hnumber _ hday _, ?_⟩
  refine (if_pos (.inl rfl)).trans ?_
  refine Option.bind_eq_some_iff.2 ⟨_, rfl, ?_⟩
  refine Option.bind_eq_some_iff.2 ⟨_, hnumber _ (by omega) _, ?_⟩
  refine Option.bind_eq_some_iff.2 ⟨_, takeChar?_self .., ?_⟩
  refine Option.bind_eq_some_iff.2 ⟨_, hnumber _ (by omega) _, ?_⟩
  refine Option.bind_eq_some_iff.2 ⟨_, takeChar?_self .., ?_⟩
  refine Option.bind_eq_some_iff.2 ⟨_, hnumber _ (by omega) _, ?_⟩
  refine Option.bind_eq_some_iff.2 ⟨_, takeFraction?_renderFraction hnanos _, ?_⟩
  refine Option.bind_eq_some_iff.2 ⟨_, takeOffset?_zeroOffset, ?_⟩
  refine Option.bind_eq_some_iff.2 ⟨t, ?_, shift?_zero ht.second_lt⟩
  rw [← ht.ofParts?_written]
  simp only [hvalue]

end IsProper

/-! ## The layouts without an offset -/

/-- A layout with a gap behind the date is not read where the mark of a time stands. -/
theorem readParts?_gap (parts : LayoutParts) (layout : List LayoutPart) (rest : List Char) :
    readParts? parts (.gap :: .hour :: layout) ('T' :: rest) = none := by
  have hmark : trimStart ('T' :: rest) = 'T' :: rest := trimStart_eq_of_head (by decide)
  have hhour : takeShort? ('T' :: rest) = none := by
    rw [takeShort?, hmark, takeNumber?_eq_none (by decide) (by decide)]
  simp only [readParts?, LayoutPart.take?, hmark, hhour, Option.bind_some, Option.map_none,
    Option.bind_none]

/-- A layout that ends with the time is not read where an offset follows. -/
theorem IsProper.readParts?_timeLayout {t : Instant} (ht : t.IsProper) (parts : LayoutParts) :
    readParts? parts (.mark 'T' :: timeLayout) ('T' :: (t.renderClock ++ zeroOffset)) = none := by
  obtain ⟨hwritten, -⟩ := ht.writtenSecond_le
  have hsecond : t.second < 86400 := ht.second_lt
  have hrest : (renderFraction t.writtenSecond.2 ++ zeroOffset).isEmpty = false := by
    rw [List.isEmpty_eq_false_iff, zeroOffset]
    exact List.append_ne_nil_of_right_ne_nil _ (List.cons_ne_nil _ _)
  simp (disch := omega) only [timeLayout, renderClock, List.append_assoc, List.cons_append,
    readParts?, LayoutPart.take?, takeShort?_padded, takeChar?, Option.map_some, Option.bind_some,
    if_true, hrest, Bool.false_eq_true, if_false]

section Signed

variable {t : Instant} (hsigned : ¬(0 ≤ t.date.year ∧ t.date.year ≤ 9999))

include hsigned

/-- A year with a sign is read by the layouts without an offset. -/
theorem takeYear?_renderYear (rest : List Char) :
    takeYear? (renderYear t.date.year ++ '-' :: rest) = some (t.date.year, '-' :: rest) := by
  have hread : takeNumber? 1 (padded 4 t.date.year.natAbs ++ '-' :: rest).length
      (padded 4 t.date.year.natAbs ++ '-' :: rest) = some (t.date.year.natAbs, '-' :: rest) := by
    have hlength := le_length_padded 4 t.date.year.natAbs
    rw [takeNumber?_append (fun c hc => isDigit_of_mem_padded hc) (by omega)
      (by rw [List.length_append]; omega) (takeWhile_take_cons (by decide) ..),
      natOfDigits_padded]
  rw [renderYear, if_neg hsigned]
  split
  · have hyear : -(t.date.year.natAbs : Int) = t.date.year := by omega
    rw [List.cons_append, takeYear?, hread, Option.map_some]
    exact congrArg (fun year => some (year, '-' :: rest)) hyear
  · have hyear : (t.date.year.natAbs : Int) = t.date.year := by omega
    rw [List.cons_append, takeYear?, hread, Option.map_some]
    exact congrArg (fun year => some (year, '-' :: rest)) hyear

theorem trimStart_renderYear (rest : List Char) :
    trimStart (renderYear t.date.year ++ rest) = renderYear t.date.year ++ rest := by
  rw [renderYear, if_neg hsigned]
  split <;> exact trimStart_eq_of_head (by decide)

/-- The date is read by the layouts without an offset. -/
theorem readParts?_dateLayout (layout : List LayoutPart) :
    readParts? {} (dateLayout ++ layout) t.renderChars =
      readParts? { year := t.date.year, month := t.date.month, day := t.date.day } layout
        ('T' :: (t.renderClock ++ zeroOffset)) := by
  obtain ⟨hmonth, hday⟩ := t.date.month_day_lt
  rw [renderChars_eq]
  simp (disch := omega) only [dateLayout, List.cons_append, List.nil_append, readParts?,
    LayoutPart.take?, trimStart_renderYear hsigned, takeYear?_renderYear hsigned,
    takeShort?_padded, takeChar?, Option.map_some, Option.bind_some, if_true]

/-- The layout with an offset allows for no sign. -/
theorem readOffset?_renderChars_of_signed : readOffset? t.renderChars = none := by
  obtain ⟨sign, digits, hyear, hsign⟩ : ∃ sign digits, renderYear t.date.year = sign :: digits ∧
      isDigit sign = false := by
    rw [renderYear, if_neg hsigned]
    exact ⟨_, _, rfl, by split <;> rfl⟩
  rw [renderChars_eq, hyear, List.cons_append, readOffset?, takeNumber?_eq_none (by decide) hsign]
  rfl

/-- No layout without an offset is one of a date and time with an offset. -/
theorem readLayout?_renderChars_of_signed (ht : t.IsProper) {layout : List LayoutPart}
    (hlayout : layout ∈ layouts) : readLayout? layout t.renderChars = none := by
  suffices hparts : readParts? {} layout t.renderChars = none by
    rw [readLayout?, hparts]
    rfl
  simp only [layouts, List.mem_cons, List.not_mem_nil, or_false] at hlayout
  -- Two layouts have a gap behind the date, one ends with the time, and one with the date.
  rcases hlayout with rfl | rfl | rfl | rfl
  · rw [readParts?_dateLayout hsigned]
    exact readParts?_gap ..
  · rw [readParts?_dateLayout hsigned]
    exact ht.readParts?_timeLayout _
  · rw [List.append_assoc, readParts?_dateLayout hsigned]
    exact readParts?_gap ..
  · rw [← List.append_nil dateLayout, readParts?_dateLayout hsigned]
    rfl

end Signed

/-! ## Reading what is written -/

theorem isBlank_of_mem_padded {width n : Nat} : ∀ c ∈ padded width n, isBlank c = false :=
  fun _ hc => isBlank_of_isDigit (isDigit_of_mem_padded hc)

theorem isBlank_of_mem_renderYear (year : Int) : ∀ c ∈ renderYear year, isBlank c = false := by
  unfold renderYear
  split
  · exact isBlank_of_mem_padded
  · refine List.forall_mem_cons.2 ⟨by split <;> decide, isBlank_of_mem_padded⟩

theorem isBlank_of_mem_renderFraction (nanos : Nat) :
    ∀ c ∈ renderFraction nanos, isBlank c = false := by
  have hpoint : isBlank '.' = false := by decide
  unfold renderFraction
  split
  · exact fun _ hc => absurd hc List.not_mem_nil
  · split
    · exact List.forall_mem_cons.2 ⟨hpoint, isBlank_of_mem_padded⟩
    · split <;> exact List.forall_mem_cons.2 ⟨hpoint, isBlank_of_mem_padded⟩

/-- There are no blanks in the written form. -/
theorem isBlank_of_mem_renderChars (t : Instant) : ∀ c ∈ t.renderChars, isBlank c = false := by
  have hmarks : isBlank '-' = false ∧ isBlank 'T' = false ∧ isBlank ':' = false := by decide
  have hoffset : ∀ c ∈ zeroOffset, isBlank c = false := by
    intro c hc
    simp only [zeroOffset, List.mem_cons, List.not_mem_nil, or_false] at hc
    rcases hc with rfl | rfl | rfl | rfl | rfl | rfl <;> decide
  simp only [renderChars_eq, renderClock, List.forall_mem_append, List.forall_mem_cons, hmarks,
    true_and]
  exact ⟨isBlank_of_mem_renderYear _, isBlank_of_mem_padded, isBlank_of_mem_padded,
    ⟨isBlank_of_mem_padded, isBlank_of_mem_padded, isBlank_of_mem_padded,
      isBlank_of_mem_renderFraction _⟩, hoffset⟩

/-- **Reading a written instant** gives the instant back, unless its year is written with a sign;
then nothing is read. -/
theorem read?_render {t : Instant} (ht : t.IsProper) :
    read? t.render = if 0 ≤ t.date.year ∧ t.date.year ≤ 9999 then some t else none := by
  have htrim : trimBoth t.renderChars = t.renderChars :=
    trimBoth_eq_self t.isBlank_of_mem_renderChars
  rw [read?, render, String.toList_ofList, readChars?, htrim]
  split
  · next hyear => rw [ht.readOffset?_renderChars hyear, Option.some_or]
  · next hsigned =>
    rw [readOffset?_renderChars_of_signed hsigned, Option.none_or, List.findSome?_eq_none_iff]
    exact fun layout hlayout => readLayout?_renderChars_of_signed hsigned ht hlayout

end Instant

end Flowgraph
