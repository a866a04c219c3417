import InterfaceDump.Bytes
import InterfaceDump.Text.Inspect

/-! Address families.

The second octet of every socket address says which family it belongs to. Four
codes have a meaning here; `ofCode` keeps every other code as it is, and
`code_ofCode` says that no code is lost. -/
namespace InterfaceDump

inductive Family where
  | unspecified
  | inet
  | inet6
  | link
  | other (code : UInt8)
deriving DecidableEq

namespace Family

def ofCode (code : UInt8) : Family :=
  if code = 0 then .unspecified
  else if code = 2 then .inet
  else if code = 30 then .inet6
  else if code = 18 then .link
  else .other code

def code : Family → UInt8
  | unspecified => 0
  | inet => 2
  | inet6 => 30
  | link => 18
  | other code => code

theorem code_ofCode (code : UInt8) : (ofCode code).code = code := by
  unfold ofCode
  repeat' split
  all_goals simp_all [Family.code]

def text : Family → String
  | unspecified => "Unspecified"
  | inet => "Inet"
  | inet6 => "Inet6"
  | link => "Link"
  | other code => Text.Inspect.applied "Other" (toString code.toNat)

/-- The family tag of the socket address at the start of `raw`, whatever its length octet says. -/
def ofBytes? (raw : Bytes) : Option Family := raw[1]?.map ofCode

end Family

end InterfaceDump
