import Flowgraph.Text.Blank
import Flowgraph.Text.Octets
import Flowgraph.Value.Reader
/-!
# Bodies of answers

The value of the octets of a body: null for none, the document when the text looks like a list or
a map and is one, the text otherwise, and the list of the octets when they are no text.

Main definition: `Body.decode`.
-/

namespace Flowgraph.Body

/-- Whether a text has the brackets of a list or a map around it. -/
def looksStructured (cs : List Char) : Bool :=
  (cs.head? = some '\x7b' && cs.getLast? = some '\x7d') ||
    (cs.head? = some '[' && cs.getLast? = some ']')

/-- The value of a body that is a text. -/
def decodeText (s : String) : Value :=
  let trimmed := Text.trimBoth s.toList
  if looksStructured trimmed then (Value.readChars? trimmed).getD (.text s) else .text s

/-- The value of the octets of a body. -/
def decode (octets : List UInt8) : Value :=
  if octets.isEmpty then .null
  else
    match Text.ofOctets? octets with
    | some s => decodeText s
    | none => .list (octets.map fun b => .int b.toNat)

end Flowgraph.Body
