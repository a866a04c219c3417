import InterfaceDump.Proofs.Dump.Openings
import InterfaceDump.Proofs.Message.Templates
import Mathlib.Data.List.Forall2

/-! Dumps that are put together from templates.

Such a dump is a list of pieces: interface messages, address messages and records
of zeros, of any version and with any settings. `descriptions` says which
interfaces the pieces describe, without a look at an octet, and `interfaces_of_pieces`
that these are the interfaces of the dump, one by one and with all they were
described with (`Shows`). -/
namespace InterfaceDump
open Bytes

/-! ### Pieces -/

/-- A record of a synthetic dump. -/
inductive Piece where
  | interface (template : InterfaceTemplate)
  /-- An interface message has a template of its own. -/
  | address (template : AddressTemplate)
      (type_ne : template.messageType ≠ MessageType.interfaceInfo.code)
  /-- A record of zeros behind its header. -/
  | empty (messageType version : UInt8) (length : UInt16) (size_le : Header.size ≤ length.toNat)

namespace Piece

def encode : Piece → Bytes
  | interface t => t.encode
  | address t _ => t.encode
  | empty messageType version length _ => encodeEmpty messageType version length

def encodeAll (pieces : List Piece) : Bytes := (pieces.map encode).flatten

/-- A current interface message, usable or not. -/
def isInterfaceInfo : Piece → Bool
  | interface t => t.version == Header.currentVersion
  | address _ _ => false
  | empty messageType version _ _ =>
    version == Header.currentVersion && messageType == MessageType.interfaceInfo.code

/-- The template of the interface that starts with a piece. -/
def opens? : Piece → Option InterfaceTemplate
  | interface t =>
    if t.version = Header.currentVersion ∧ t.withLink = true ∧ t.index ≠ 0 then some t else none
  | _ => none

/-- The template of an address message that is current and belongs to interface `owner`. -/
def addressOf? (owner : UInt16) : Piece → Option AddressTemplate
  | address t _ =>
    if t.version = Header.currentVersion ∧ t.messageType = MessageType.newAddress.code ∧
      t.index = owner then some t else none
  | _ => none

/-- The address messages of interface `owner` up to the next interface message. -/
def messagesOf (owner : UInt16) (pieces : List Piece) : List AddressTemplate :=
  (pieces.takeWhile (!·.isInterfaceInfo)).filterMap (·.addressOf? owner)

end Piece

/-- An interface that a list of pieces describes. -/
structure Description where
  position : Nat
  template : InterfaceTemplate
  /-- The pieces behind its own. -/
  later : List Piece

/-- The interfaces that pieces describe when they are laid end to end from an offset on. -/
def descriptions (offset : Nat) : List Piece → List Description
  | [] => []
  | p :: later =>
    match p.opens? with
    | some t => ⟨offset, t, later⟩ :: descriptions (offset + p.encode.length) later
    | none => descriptions (offset + p.encode.length) later

/-- The interface is the one described. -/
structure Shows (i : Interface) (d : Description) : Prop where
  position : i.position = d.position
  index : i.index = d.template.index.toUInt32
  options : i.options = d.template.options
  interfaceType : i.interfaceType = .ofCode d.template.interfaceType
  physicalPort : i.physicalPort = d.template.physical
  mtu : i.mtu = d.template.mtu
  metric : i.metric = d.template.metric
  baudRate : i.baudRate = d.template.baudRate
  statistics : i.statistics = ⟨d.template.packetsIn, 0, 0, 0, 0, 0, 0, 0, 0, 0, 0⟩
  name : i.name = if d.template.KeepsLink then d.template.name else ""
  hardware : i.hardware? =
    if d.template.KeepsLink ∧ d.template.hardware ≠ [] then some d.template.hardware else none
  extract : ∀ kind, i.extract kind =
    (Piece.messagesOf d.template.index d.later).filterMap (·.message.address? kind)

/-! ### Pieces as records -/

namespace Piece
variable (p : Piece)

theorem opens?_eq_some_iff {p : Piece} {t : InterfaceTemplate} :
    p.opens? = some t ↔ p = interface t ∧ t.version = Header.currentVersion ∧
      t.withLink = true ∧ t.index ≠ 0 := by
  cases p with
  | interface s =>
    simp only [opens?, Option.ite_none_right_eq_some, Option.some.injEq, interface.injEq]
    constructor
    · rintro ⟨hopens, rfl⟩
      exact ⟨rfl, hopens⟩
    · rintro ⟨rfl, hopens⟩
      exact ⟨hopens, rfl⟩
  | address _ _ => simp [opens?]
  | empty _ _ _ _ => simp [opens?]

theorem delimited : Delimited p.encode := by
  cases p with
  | interface t => exact t.delimited_encode
  | address t _ => exact t.delimited_encode
  | empty _ _ _ size_le => exact delimited_encodeEmpty size_le

/-- The record that a piece becomes. -/
def record (offset : Nat) : Record := ⟨offset, .leading p.encode, p.encode⟩

theorem isInterfaceInfo_record (offset : Nat) :
    (p.record offset).isInterfaceInfo = p.isInterfaceInfo := by
  cases p with
  | interface t =>
    simp only [record, encode, Record.isInterfaceInfo, t.leading_encode, Header.isCurrent,
      beq_self_eq_true, Bool.and_true, isInterfaceInfo]
  | address t type_ne =>
    have htype : ¬ MessageType.ofCode t.messageType = .interfaceInfo := fun h =>
      type_ne (MessageType.ofCode_eq_interfaceInfo.mp h)
    simp only [record, encode, Record.isInterfaceInfo, t.leading_encode,
      beq_eq_false_iff_ne.mpr htype, Bool.and_false, isInterfaceInfo]
  | empty messageType version _ _ =>
    simp only [record, encode, Record.isInterfaceInfo, leading_encodeEmpty, Header.isCurrent,
      isInterfaceInfo, Bool.beq_eq_decide_eq, MessageType.ofCode_eq_interfaceInfo]

theorem opensInterface_record (offset : Nat) :
    (p.record offset).opensInterface = p.opens?.isSome := by
  rw [Record.opensInterface, isInterfaceInfo_record]
  cases p with
  | interface t =>
    simp only [record, encode, t.parse?_encode, Option.any_some, t.isUsable_message,
      isInterfaceInfo, opens?]
    split
    · next h => simp [h]
    · next h => simpa using h
  | address t type_ne => rfl
  | empty messageType version length size_le =>
    have hunusable : (InterfaceMessage.parse? (encodeEmpty messageType version length)).any
        (·.isUsable) = false := by
      rw [(delimited_encodeEmpty size_le).interfaceMessage?]
      split
      · exact isUsable_encodeEmpty
      · rfl
    simp only [record, encode, hunusable, Bool.and_false, opens?, Option.isSome_none]

theorem addressMessage?_record (offset : Nat) {owner : UInt16} (howner : owner ≠ 0) :
    (p.record offset).addressMessage? owner = (p.addressOf? owner).map (·.message) := by
  simp only [Record.addressMessage?, record]
  cases p with
  | interface t =>
    have hnone : AddressMessage.parse? t.encode = none := by
      rw [t.delimited_encode.addressMessage?, t.leading_encode, if_neg (fun h => nomatch h.1)]
    simp only [encode, hnone, Option.filter_none, ite_self, addressOf?, Option.map_none]
  | address t type_ne =>
    simp only [encode, t.leading_encode, t.parse?_encode, Header.isCurrent, beq_iff_eq, addressOf?]
    by_cases hversion : t.version = Header.currentVersion
    · by_cases htype : t.messageType = MessageType.newAddress.code
      · by_cases howned : t.index = owner
        · simp [hversion, htype, howned, t.index_message, Option.filter_some]
        · simp [htype, howned, t.index_message, Option.filter_some]
      · simp [htype]
    · simp [hversion]
  | empty messageType version length size_le =>
    have hnone : (AddressMessage.parse? (encodeEmpty messageType version length)).filter
        (·.index == owner) = none := by
      rw [(delimited_encodeEmpty size_le).addressMessage?]
      split
      · rw [Option.filter_some_neg]
        rw [index_encodeEmpty, beq_eq_false_iff_ne]
        exact howner.symm
      · rfl
    simp only [encode, hnone, ite_self, addressOf?, Option.map_none]

theorem messages_layOut (offset : Nat) {owner : UInt16} (howner : owner ≠ 0) (pieces : List Piece) :
    ((layOut offset (pieces.map encode)).takeWhile (!·.isInterfaceInfo)).filterMap
      (·.addressMessage? owner) = (messagesOf owner pieces).map (·.message) := by
  induction pieces generalizing offset with
  | nil => rfl
  | cons p later ih =>
    show ((p.record offset :: layOut (offset + p.encode.length) (later.map encode)).takeWhile
      _).filterMap _ = _
    rw [List.takeWhile_cons, p.isInterfaceInfo_record, messagesOf, List.takeWhile_cons]
    cases p.isInterfaceInfo with
    | true => rfl
    | false =>
      have hlater := ih (offset + p.encode.length)
      simp only [messagesOf] at hlater
      simp only [Bool.not_false, if_true, List.filterMap_cons,
        p.addressMessage?_record offset howner, hlater]
      cases p.addressOf? owner <;> rfl

end Piece

/-! ### Interfaces -/

section Message
variable {i : Interface} {t : InterfaceTemplate} (hm : i.message = t.message)
  (hlink : t.withLink = true)
include hm hlink

theorem link?_of_message : i.link? = if t.KeepsLink then some t.linkAddress else none := by
  rw [Interface.link?, hm, t.linkAddress?_message hlink]

omit hlink in
theorem index_of_message : i.index = t.index.toUInt32 := by
  rw [i.index_eq, hm, t.index_message]

theorem name_of_message : i.name = if t.KeepsLink then t.name else "" := by
  rw [Interface.name, link?_of_message hm hlink]
  by_cases hkeeps : t.KeepsLink
  · simp only [if_pos hkeeps, InterfaceTemplate.linkAddress]
  · simp only [if_neg hkeeps]

theorem hardware?_of_message :
    i.hardware? = if t.KeepsLink ∧ t.hardware ≠ [] then some t.hardware else none := by
  rw [Interface.hardware?, link?_of_message hm hlink]
  by_cases hkeeps : t.KeepsLink
  · by_cases hempty : t.hardware = []
    · simp [hkeeps, hempty, InterfaceTemplate.linkAddress]
    · simp [hkeeps, hempty, InterfaceTemplate.linkAddress, Option.filter_some]
  · simp [hkeeps]

end Message

theorem shows_of_opens {data : Bytes} {offset : Nat} {p : Piece} {t : InterfaceTemplate}
    {later : List Piece} {run : List Record}
    (hrun : records data offset = p.record offset :: run)
    (hlater : run = layOut (offset + p.encode.length) (later.map Piece.encode))
    (h : p.opens? = some t) : Shows ((p.record offset).interface data run) ⟨offset, t, later⟩ := by
  have hopens : (p.record offset).opensInterface = true := by
    rw [p.opensInterface_record, h, Option.isSome_some]
  obtain ⟨rfl, -, hlink, hindex⟩ := Piece.opens?_eq_some_iff.mp h
  have hm : (((Piece.interface t).record offset).interface data run).message = t.message := rfl
  have hdata : (((Piece.interface t).record offset).interface data run).message.linkData =
      t.linkData := t.linkData_message
  exact {
    position := rfl
    index := index_of_message hm
    options := t.options_message
    interfaceType := congrArg LinkData.interfaceType hdata
    physicalPort := congrArg LinkData.physical hdata
    mtu := congrArg LinkData.mtu hdata
    metric := congrArg LinkData.metric hdata
    baudRate := congrArg LinkData.baudRate hdata
    statistics := congrArg LinkData.statistics hdata
    name := name_of_message hm hlink
    hardware := hardware?_of_message hm hlink
    extract := fun kind => by
      have howner : (InterfaceMessage.mk ((Piece.interface t).record offset).bytes).index = t.index :=
        t.index_message
      rw [extract_interface hrun hopens, howner, ownAddresses, hlater,
        Piece.messages_layOut _ hindex, List.filterMap_map]
      rfl }

theorem shows_openings {data : Bytes} {offset : Nat} {pieces : List Piece}
    (h : records data offset = layOut offset (pieces.map Piece.encode)) :
    List.Forall₂ Shows (openings data (records data offset)) (descriptions offset pieces) := by
  induction pieces generalizing offset with
  | nil =>
    rw [h]
    exact .nil
  | cons p later ih =>
    have hrun : records data offset =
        p.record offset :: layOut (offset + p.encode.length) (later.map Piece.encode) := h
    obtain ⟨-, -, hlater⟩ := records_eq_cons_iff.mp hrun
    have hrest := ih hlater.symm
    rw [← hlater] at hrest
    rw [hrun, openings, p.opensInterface_record, descriptions]
    cases ho : p.opens? with
    | none => exact hrest
    | some t => exact .cons (shows_of_opens hrun rfl ho) hrest

/-- **A dump that is put together from templates lists the interfaces they describe.** -/
theorem interfaces_of_pieces (pieces : List Piece) :
    List.Forall₂ Shows (Dump.mk (Piece.encodeAll pieces)).interfaces (descriptions 0 pieces) := by
  have hparts : ∀ b ∈ pieces.map Piece.encode, Delimited b := by
    intro b hb
    obtain ⟨p, -, rfl⟩ := List.mem_map.mp hb
    exact p.delimited
  have hrun : records (Piece.encodeAll pieces) 0 = layOut 0 (pieces.map Piece.encode) :=
    records_flatten hparts
  rw [Dump.interfaces_eq_openings]
  exact shows_openings hrun

end InterfaceDump
