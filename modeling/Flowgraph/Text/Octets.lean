/-!
# Texts as octets

The UTF-8 form of a text as a list of octets, and the text of a list of octets that is valid
UTF-8.

Main definitions: `octetsOf`, `ofOctets?`.
Main statement: `ofOctets?_octetsOf`.
-/

namespace Flowgraph.Text

/-- The octets of a list of characters. -/
def octetsOf (cs : List Char) : List UInt8 :=
  cs.flatMap String.utf8EncodeChar

/-- The text of some octets, if they are valid UTF-8. -/
def ofOctets? (octets : List UInt8) : Option String :=
  String.fromUTF8? octets.toByteArray

/-- The octets of a text read back as the text. -/
theorem ofOctets?_octetsOf (s : String) : ofOctets? (octetsOf s.toList) = some s := by
  have h : (octetsOf s.toList).toByteArray = s.toByteArray := by
    have hs := String.toByteArray_ofList (l := s.toList)
    rw [String.ofList_toList] at hs
    rw [hs]
    rfl
  rw [ofOctets?, h, String.fromUTF8?, dif_pos s.isValidUTF8]
  rfl

end Flowgraph.Text
