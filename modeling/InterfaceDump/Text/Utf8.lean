import InterfaceDump.Bytes

/-! Interface names as octets.

A name is stored as UTF-8. Octets that are not UTF-8 name nothing, and read as
the empty name; `decode_encode` says that no name is lost on the way, and
`length_encode_decode_le` that no name takes more octets than it was read from. -/
namespace InterfaceDump.Text.Utf8

def encode (s : String) : Bytes := s.toUTF8.data.toList

/-- The text the octets encode, or the empty text where they encode none. -/
def decode (b : Bytes) : String := (String.fromUTF8? ⟨b.toArray⟩).getD ""

theorem decode_encode (s : String) : decode (encode s) = s := by
  have h : String.fromUTF8? s.toByteArray = some s := by
    rw [String.fromUTF8?, dif_pos s.isValidUTF8]
    rfl
  simp only [decode, encode, Array.toArray_toList]
  exact congrArg (Option.getD · "") h

theorem length_encode_decode_le (b : Bytes) : (encode (decode b)).length ≤ b.length := by
  simp only [decode, String.fromUTF8?]
  split
  · show b.length ≤ b.length
    exact Nat.le_refl _
  · exact Nat.zero_le _

end InterfaceDump.Text.Utf8
