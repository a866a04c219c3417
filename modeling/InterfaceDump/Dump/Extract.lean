import InterfaceDump.Dump.Boundary
import InterfaceDump.Message.Address

/-! The addresses of one interface.

They stand in the address messages that follow the interface's own message, up to
the next interface message of the current version. Messages of other versions,
of other types and of other interfaces in between are passed over, and so are
address messages without a readable address of the wanted kind. -/
namespace InterfaceDump

/-- The address message in a record, if it is current and belongs to interface `owner`. -/
def Record.addressMessage? (owner : UInt16) (r : Record) : Option AddressMessage :=
  if r.header.isCurrent then (AddressMessage.parse? r.bytes).filter (·.index == owner) else none

/-- The records from `start` up to the next interface message or `limit`. -/
def ownRecords (data : Bytes) (start limit : Nat) : List Record :=
  (records (data.take limit) start).takeWhile (!·.isInterfaceInfo)

/-- The address messages of interface `owner` among those records. -/
def ownMessages (data : Bytes) (owner : UInt16) (start limit : Nat) : List AddressMessage :=
  (ownRecords data start limit).filterMap (·.addressMessage? owner)

/-- The interface message that fills a range, if the range exists and starts with one. -/
def owner? (data : Bytes) (record : Span) : Option InterfaceMessage :=
  (Bytes.slice? data record.start record.stop).bind InterfaceMessage.parse?

/-- The addresses of a kind that belong to the interface whose message fills
`record`, in the order of the dump. -/
def extractAddresses (data : Bytes) (kind : AddressKind) (record : Span) (limit : Nat) :
    List SockAddr :=
  match owner? data record with
  | some owner => (ownMessages data owner.index record.stop limit).filterMap (·.address? kind)
  | none => []

end InterfaceDump
