import Flowgraph.Url.Domain.Label
/-!
# Domain names in ASCII

A domain name is mapped character by character and brought to its canonical spelling; then each
label is written in ASCII. Where a label has letters from right to left, every label must go in
one direction.

Main definition: `Domain.toAscii?`.
-/

namespace Flowgraph.Domain

/-- Whether a character may not stand in a domain name. -/
def isForbidden (c : Char) : Bool :=
  c.toNat ≤ 32 || c.toNat = 127 || "%#/:<>?@[\\]^|".toList.contains c

/-- A domain name with every character mapped, in its canonical spelling. -/
def mapText? (cs : List Char) : Option (List Char) :=
  (cs.mapM mapChar?).map fun parts => Text.canonical parts.flatten

/-- The labels of a domain name. -/
def labels? (cs : List Char) : Option (List Label) := do
  let mapped ← mapText? cs
  if mapped.any isForbidden then none
  else
    let labels ← (mapped.splitOn '.').mapM Label.read?
    if labels.any (fun label => Label.hasRightward label.letters) &&
        !labels.all (fun label => Label.directionFits label.letters) then
      none
    else some labels

/-- A domain name in ASCII, unless it holds what may not stand in one. -/
def toAscii? (s : String) : Option (List Char) :=
  (labels? s.toList).map fun labels => ['.'].intercalate (labels.map Label.ascii)

end Flowgraph.Domain
