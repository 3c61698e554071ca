import Flowgraph.Text.Blank
import Flowgraph.Text.Search
import Flowgraph.Time.Instant
/-!
# Reading points in time

`Instant.read?` tries the accepted layouts in turn: a date and time with an offset, then three
layouts of a date and time without one, then a date alone. The layout with an offset is strict;
in the others a number may have blanks in front and fewer digits, and a year may have a sign and
then any number of digits. Times without an offset are universal time.

Main definitions: `Instant.readOffset?`, `Instant.readLayout?`, `Instant.read?`.
-/

namespace Flowgraph.Instant

open Number Text

/-! ## Parts of a date and time -/

/-- Reads between `least` and `most` digits. -/
def takeNumber? (least most : Nat) (cs : List Char) : Option (Nat × List Char) :=
  let ds := (cs.take most).takeWhile isDigit
  if ds.length < least then none else some (natOfDigits ds, cs.drop ds.length)

/-- Reads one given character. -/
def takeChar? (c : Char) : List Char → Option (List Char)
  | c' :: cs => if c' = c then some cs else none
  | [] => none

/-- Reads the digits of a fraction: nine of them count, the others are passed over. -/
def takeNanos? (cs : List Char) : Option (Nat × List Char) :=
  let ds := (cs.take 9).takeWhile isDigit
  if ds.isEmpty then none
  else some (natOfDigits ds * tenTo (9 - ds.length), (cs.drop ds.length).dropWhile isDigit)

/-- Reads a point and a fraction, if there is a point. -/
def takeFraction? : List Char → Option (Nat × List Char)
  | '.' :: cs => takeNanos? cs
  | cs => some (0, cs)

/-- The instant of a date and a time of day; second 60 is a leap second of any minute. -/
def ofParts? (year : Int) (month day hour minute second nanos : Nat) : Option Instant := do
  let date ← Date.ofParts? year month day
  if hour < 24 ∧ minute < 60 ∧ second ≤ 60 then
    if second = 60 then some ⟨date, hour * 3600 + minute * 60 + 59, nanosPerSecond + nanos⟩
    else some ⟨date, hour * 3600 + minute * 60 + second, nanos⟩
  else none

/-! ## The layout with an offset -/

/-- Reads an offset from universal time in seconds: `Z`, or a sign, hours and minutes. -/
def takeOffset? : List Char → Option (Int × List Char)
  | c :: cs =>
    if c = 'Z' ∨ c = 'z' then some (0, cs)
    else if c = '+' ∨ c = '-' ∨ c = '\u2212' then do
      let (hours, cs) ← takeNumber? 2 2 cs
      let (minutes, cs) ← takeNumber? 2 2 (← takeChar? ':' cs)
      let seconds : Int := (hours * 60 + minutes) * 60
      if hours < 24 ∧ minutes < 60 then some (if c = '+' then seconds else -seconds, cs) else none
    else none
  | [] => none

/-- Reads a date and time with an offset: fixed widths, and `T`, `t` or a blank between date and
time. -/
def readOffset? (cs : List Char) : Option Instant := do
  let (year, cs) ← takeNumber? 4 4 cs
  let (month, cs) ← takeNumber? 2 2 (← takeChar? '-' cs)
  let (day, cs) ← takeNumber? 2 2 (← takeChar? '-' cs)
  let cs ← match cs with
    | c :: cs => if c = 'T' ∨ c = 't' ∨ c = ' ' then some cs else none
    | [] => none
  let (hour, cs) ← takeNumber? 2 2 cs
  let (minute, cs) ← takeNumber? 2 2 (← takeChar? ':' cs)
  let (second, cs) ← takeNumber? 2 2 (← takeChar? ':' cs)
  let (nanos, cs) ← takeFraction? cs
  let (offset, cs) ← takeOffset? cs
  if cs.isEmpty then (← ofParts? year month day hour minute second nanos).shift? (-offset) else none

/-! ## Layouts without an offset -/

/-- One part of a layout. -/
inductive LayoutPart where
  /-- A year: four digits at most, or a sign and any number of digits. -/
  | year
  | month
  | day
  | hour
  | minute
  | second
  /-- A fraction of a second with its point, if there is one. -/
  | fraction
  /-- A character as it stands. -/
  | mark (c : Char)
  /-- Any run of blanks. -/
  | gap

/-- The numbers that a layout has read; what it does not name is zero. -/
structure LayoutParts where
  year : Int := 0
  month : Nat := 0
  day : Nat := 0
  hour : Nat := 0
  minute : Nat := 0
  second : Nat := 0
  nanos : Nat := 0

/-- Reads a year without a sign, or the digits behind its sign. -/
def takeYear? : List Char → Option (Int × List Char)
  | '-' :: cs => (takeNumber? 1 cs.length cs).map fun (n, cs) => (-(n : Int), cs)
  | '+' :: cs => (takeNumber? 1 cs.length cs).map fun (n, cs) => ((n : Int), cs)
  | cs => (takeNumber? 1 4 cs).map fun (n, cs) => ((n : Int), cs)

/-- Reads a number of one or two digits with blanks in front. -/
def takeShort? (cs : List Char) : Option (Nat × List Char) :=
  takeNumber? 1 2 (trimStart cs)

/-- Reads one part of a layout. -/
def LayoutPart.take? (parts : LayoutParts) (cs : List Char) :
    LayoutPart → Option (LayoutParts × List Char)
  | .year => (takeYear? (trimStart cs)).map fun (n, cs) => ({ parts with year := n }, cs)
  | .month => (takeShort? cs).map fun (n, cs) => ({ parts with month := n }, cs)
  | .day => (takeShort? cs).map fun (n, cs) => ({ parts with day := n }, cs)
  | .hour => (takeShort? cs).map fun (n, cs) => ({ parts with hour := n }, cs)
  | .minute => (takeShort? cs).map fun (n, cs) => ({ parts with minute := n }, cs)
  | .second => (takeShort? cs).map fun (n, cs) => ({ parts with second := n }, cs)
  | .fraction => (takeFraction? cs).map fun (n, cs) => ({ parts with nanos := n }, cs)
  | .mark c => (takeChar? c cs).map fun cs => (parts, cs)
  | .gap => some (parts, trimStart cs)

/-- Reads the parts of a layout in order, up to the end of the text. -/
def readParts? (parts : LayoutParts) : List LayoutPart → List Char → Option LayoutParts
  | [], cs => if cs.isEmpty then some parts else none
  | part :: rest, cs => (part.take? parts cs).bind fun (parts, cs) => readParts? parts rest cs

/-- Reads a text of one layout. -/
def readLayout? (layout : List LayoutPart) (cs : List Char) : Option Instant := do
  let p ← readParts? {} layout cs
  ofParts? p.year p.month p.day p.hour p.minute p.second p.nanos

/-- A year, a month and a day with hyphens between. -/
def dateLayout : List LayoutPart :=
  [.year, .mark '-', .month, .mark '-', .day]

/-- Hours, minutes and seconds with colons between. -/
def timeLayout : List LayoutPart :=
  [.hour, .mark ':', .minute, .mark ':', .second]

/-- The layouts without an offset, in the order in which they are tried. -/
def layouts : List (List LayoutPart) :=
  [dateLayout ++ .gap :: timeLayout,
    dateLayout ++ .mark 'T' :: timeLayout,
    dateLayout ++ .gap :: timeLayout ++ [.fraction],
    dateLayout]

/-- Reads a point in time in one of the accepted layouts, blanks around it aside. -/
def readChars? (cs : List Char) : Option Instant :=
  let cs := trimBoth cs
  (readOffset? cs).or (layouts.findSome? fun layout => readLayout? layout cs)

/-- Reads a point in time from a text. -/
def read? (s : String) : Option Instant :=
  readChars? s.toList

end Flowgraph.Instant
