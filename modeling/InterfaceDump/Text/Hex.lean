import InterfaceDump.Bytes

/-! Numbers and octets in lowercase hexadecimal. -/
namespace InterfaceDump.Text.Hex

/-- A number with no leading zeros. -/
def ofNat (n : Nat) : String := String.ofList (Nat.toDigits 16 n)

/-- Exactly two digits per octet. -/
def ofByte (b : UInt8) : String :=
  String.ofList [Nat.digitChar (b.toNat / 16), Nat.digitChar (b.toNat % 16)]

/-- The octets one after the other. -/
def ofBytes (b : Bytes) : String := String.join (b.map ofByte)

/-- The octets with a colon between neighbours, as hardware addresses are shown. -/
def colonSeparated (b : Bytes) : String := ":".intercalate (b.map ofByte)

end InterfaceDump.Text.Hex
