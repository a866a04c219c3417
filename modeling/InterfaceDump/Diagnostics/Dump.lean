import InterfaceDump.Diagnostics.Message
import InterfaceDump.Dump.Arrival
import InterfaceDump.Dump.Session

/-! What walking a dump reports.

A walk reads only as far as it needs to: it says nothing of what lies behind the
record that ends it. Attributes of an interface are read again every time they
are asked for, and report the same every time. -/
namespace InterfaceDump.Diagnostics

/-! ### Boundaries -/

/-- What passing over a record reports on the way to the next interface. -/
def passedRecordEvents (data : Bytes) (r : Record) : List Event :=
  if r.header.isCurrent then
    if r.header.messageType = .interfaceInfo then
      interfaceMessageEvents (data.drop r.offset) ++ [.unusableInterface r.offset]
    else []
  else [.foreignVersion r.header.version r.offset]

/-- What looking for the next interface reports. -/
def boundaryEvents (data : Bytes) (start : Nat) : List Event :=
  let run := records data start
  (run.takeWhile (!·.opensInterface)).flatMap (passedRecordEvents data) ++
    if run.any (·.opensInterface) then [] else drainEvents ⟨data, start⟩

/-- What looking for an interface message at an offset reports. -/
def interfaceRecordEvents (data : Bytes) (start : Nat) : List Event :=
  interfaceMessageEvents (data.drop start)

/-! ### Addresses of an interface -/

/-- What looking for an address of a kind in one record reports. -/
def ownRecordEvents (scope : Bytes) (owner : UInt16) (kind : AddressKind) (r : Record) :
    List Event :=
  if r.header.isCurrent then
    addressMessageEvents (scope.drop r.offset) ++
      match AddressMessage.parse? r.bytes with
      | none => []
      | some m => if m.index = owner then slotEvents m kind else [.foreignAddress m.index owner]
  else []

/-- What collecting the addresses of a kind reports. -/
def extractEvents (data : Bytes) (kind : AddressKind) (record : Span) (limit : Nat) : List Event :=
  let scope := data.take limit
  let ownerEvents := ((Bytes.slice? data record.start record.stop).map interfaceMessageEvents).getD []
  ownerEvents ++
    match owner? data record with
    | none => []
    | some owner =>
      (ownRecords data record.stop limit).flatMap (ownRecordEvents scope owner.index kind) ++
        if (records scope record.stop).any (·.isInterfaceInfo) then []
        else drainEvents ⟨scope, record.stop⟩

/-! ### Attributes of an interface -/

/-- What looking for the link-layer address of an interface reports. -/
def interfaceLinkEvents (i : Interface) : List Event :=
  linkAddressEvents i.message ++
    if i.link?.isSome then [] else [.noLinkAddress i.message.index]

def kindEvents (kind : AddressKind) (i : Interface) : List Event :=
  extractEvents i.data kind i.record i.stop

/-- The shared slot is read only where the options say what it holds. -/
def broadcastEvents (i : Interface) : List Event :=
  if i.hasBroadcast then kindEvents .broadcastOrDestination i else []

def destinationEvents (i : Interface) : List Event :=
  if i.options.isPointToPoint then kindEvents .broadcastOrDestination i else []

/-- What reading index and name reports. -/
def identityEvents (i : Interface) : List Event := interfaceLinkEvents i ++ interfaceLinkEvents i

/-- What reading every attribute once reports: index, name, hardware address and
Ethernet compatibility, then all, IPv4 and IPv6 addresses, then the IPv4 mask, the
IPv6 masks and prefix lengths, then broadcast and destination address. -/
def attributeEvents (i : Interface) : List Event :=
  identityEvents i ++ identityEvents i ++
    kindEvents .address i ++ kindEvents .address i ++ kindEvents .address i ++
    kindEvents .netmask i ++ kindEvents .netmask i ++ kindEvents .netmask i ++
    broadcastEvents i ++ destinationEvents i

/-- What the inspection text of an interface reports. -/
def inspectEvents (i : Interface) : List Event := identityEvents i ++ kindEvents .address i

/-- What finding a local address of a family reports. -/
def localAddressEvents (i : Interface) (family : Family) : List Event :=
  interfaceLinkEvents i ++
    if family = .inet ∨ family = .inet6 then kindEvents .address i else []

/-! ### Walks -/

def interfaceAtEvents (d : Dump) (position : Nat) : List Event :=
  boundaryEvents d.bytes position ++
    if nextBoundary d.bytes position = position then
      interfaceRecordEvents d.bytes position ++
        match InterfaceMessage.parse? (d.bytes.drop position) with
        | some m => boundaryEvents d.bytes (position + m.recordLength)
        | none => []
    else []

def positionAfterEvents (d : Dump) (position : Nat) : List Event :=
  interfaceRecordEvents d.bytes position ++
    match interfaceRecord? d.bytes position with
    | some record => boundaryEvents d.bytes record.stop
    | none => []

/-- What a walk reports that visits the given interfaces, the first ones of the
dump in order; `visit` is what is done with each of them. -/
def walkEvents (d : Dump) (visited : List Interface) (visit : Interface → List Event) :
    List Event :=
  boundaryEvents d.bytes 0 ++ visited.flatMap fun i => interfaceAtEvents d i.start ++ visit i

/-- What a walk over all interfaces reports. -/
def fullWalkEvents (d : Dump) (visit : Interface → List Event) : List Event :=
  walkEvents d d.interfaces visit

/-- What looking for the first interface with a property reports; the property is
tested by one look at the link-layer address. -/
def findEvents (d : Dump) (p : Interface → Bool) : List Event :=
  let passed := d.interfaces.takeWhile (!p ·)
  walkEvents d (passed ++ (d.interfaces.find? p).toList) interfaceLinkEvents

/-- What looking for the name of an arrival interface reports. -/
def arrivalEvents (query : Query) (index : UInt32) : List Event :=
  match query with
  | .error _ => []
  | .ok d =>
    [.fetched d.bytes.length] ++ findEvents d (·.index == index) ++
      ((d.findByIndex? index).map interfaceLinkEvents).getD []

/-! ### Sessions -/

/-- What opening a session reports: cursor and iterator each look for the first interface. -/
def startEvents (d : Dump) : List Event := boundaryEvents d.bytes 0 ++ boundaryEvents d.bytes 0

def stepEvents (s : Session) : Session.Step → List Event
  | .toStart | .rewind => boundaryEvents s.dump.bytes 0
  | .toEnd | .seek _ => []
  | .after => positionAfterEvents s.dump s.cursor
  | .look => interfaceAtEvents s.dump s.cursor
  | .next => interfaceAtEvents s.dump s.upcoming

end InterfaceDump.Diagnostics
