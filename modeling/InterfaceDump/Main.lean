import InterfaceDump.Listing.Run

/-! The program: lists the network interfaces and their addresses. -/
open InterfaceDump in
def main (words : List String) : IO UInt32 := do
  let outcome := Listing.outcome .unavailable words
  IO.print outcome.stdout
  IO.eprint outcome.stderr
  return outcome.exitCode.toUInt32
