/-!
# Sets of code points

A set of code points is written as words of base sixteen, `300-36F` for a closed range and `300`
for a single one, in ascending order. It is read once, and membership halves the ranges.

Main definitions: `readHex`, `wordsOf`, `bisect`, `lastAtMost?`, `CodePoints.ofText`,
`CodePoints.contains`.
-/

namespace Flowgraph.Text

/-! ## Written tables -/

/-- The value of a digit of base sixteen in upper case. -/
def hexDigitValue (c : Char) : Nat :=
  if c ≤ '9' then c.toNat - '0'.toNat else c.toNat - 'A'.toNat + 10

/-- The number that digits of base sixteen in upper case write. -/
def readHex (cs : List Char) : Nat :=
  cs.foldl (fun n c => 16 * n + hexDigitValue c) 0

/-- The words of a text between blanks and line breaks. -/
def wordsOf (s : String) : List (List Char) :=
  (s.toList.splitOnP fun c => c = ' ' || c = '\n').filter fun word => !word.isEmpty

/-- What stands before and after a mark; nothing stands after a mark that is missing. -/
def cutAtMark (mark : Char) (cs : List Char) : List Char × List Char :=
  (cs.takeWhile (· != mark), (cs.dropWhile (· != mark)).drop 1)

/-- The first and last code point of a word; a single code point is a range of its own. -/
def readRange (word : List Char) : Nat × Nat :=
  let (first, last) := cutAtMark '-' word
  if last.isEmpty then (readHex first, readHex first) else (readHex first, readHex last)

/-! ## Looking up -/

variable {α : Type}

/-- The place between `low` and `high` in front of which the entries are those with `before`, in
an array where these come first. -/
def bisect (before : α → Bool) (entries : Array α) : Nat → Nat → Nat → Nat
  | 0, low, _ => low
  | fuel + 1, low, high =>
    if low < high then
      let middle := (low + high) / 2
      if (entries[middle]?).any before then bisect before entries fuel (middle + 1) high
      else bisect before entries fuel low middle
    else low

/-- The last entry whose key is at most `n`, in an array whose keys ascend. -/
def lastAtMost? (key : α → Nat) (entries : Array α) (n : Nat) : Option α :=
  match bisect (fun entry => key entry ≤ n) entries (entries.size.log2 + 1) 0 entries.size with
  | 0 => none
  | place + 1 => entries[place]?

/-- A set of code points, as closed ranges in ascending order. -/
structure CodePoints where
  ranges : Array (Nat × Nat)

namespace CodePoints

/-- The set that a text writes. -/
def ofText (s : String) : CodePoints :=
  ⟨((wordsOf s).map readRange).toArray⟩

/-- Whether a code point is in the set. -/
def contains (set : CodePoints) (n : Nat) : Bool :=
  (lastAtMost? Prod.fst set.ranges n).any fun range => n ≤ range.2

end CodePoints

end Flowgraph.Text
