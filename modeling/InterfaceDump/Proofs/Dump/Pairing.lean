import InterfaceDump.Message.Sample
import InterfaceDump.Proofs.Dump.Openings
import Mathlib.Data.List.Basic

/-! Which mask belongs to which address.

The IPv6 masks of an interface are listed apart from its IPv6 addresses, and a
reader pairs the two lists by position. Both are read off the same messages, but a
position says nothing of the message: one that carries an address without a mask, or
a mask without an address, shifts the lists against each other. `masksPaired_iff`
says exactly when this does no harm: behind the messages that carry both or neither,
no more addresses follow, or no more masks. `not_masksPaired` is a dump where it does,
and a mask stands beside the address of another message. -/
namespace InterfaceDump
open Bytes

/-! ### Lists side by side -/

/-- The lists agree at every position that both of them have. -/
def Aligned (xs ys : List Nat) : Prop := ∀ pair ∈ xs.zip ys, pair.1 = pair.2

namespace Aligned
variable {x y : Nat} {xs ys : List Nat}

theorem nil_right (xs : List Nat) : Aligned xs [] := by
  rw [Aligned, List.zip_nil_right]
  exact nofun

theorem cons_iff : Aligned (x :: xs) (y :: ys) ↔ x = y ∧ Aligned xs ys := by
  rw [Aligned, List.zip_cons_cons, List.forall_mem_cons, Aligned]

theorem comm : Aligned xs ys ↔ Aligned ys xs := by
  induction xs generalizing ys with
  | nil => exact iff_of_true (nofun) (nil_right ys)
  | cons x xs ih =>
    cases ys with
    | nil => exact iff_of_true (nil_right _) (nofun)
    | cons y ys => rw [cons_iff, cons_iff, ih, eq_comm]

end Aligned

/-! ### Where a list was read from -/

section Sources
variable {α β : Type} {p q : α → Bool} {x : α} {later : List α}

/-- What a list is read as comes from the elements that give something, in their order. -/
theorem map_some_filterMap (f : α → Option β) (l : List α) :
    (l.filterMap f).map some = (l.findIdxs fun x => (f x).isSome).map fun n => l[n]?.bind f := by
  induction l with
  | nil => rfl
  | cons x rest ih =>
    have hshift : ((rest.findIdxs (fun x => (f x).isSome) 1).map fun n => (x :: rest)[n]?.bind f) =
        (rest.filterMap f).map some := by
      rw [List.findIdxs_start, List.map_map, ih]
      rfl
    rw [List.filterMap_cons, List.findIdxs_cons]
    cases hx : f x with
    | none => exact hshift.symm
    | some y =>
      rw [Option.isSome_some, if_pos rfl, List.map_cons, List.map_cons, hshift,
        List.getElem?_cons_zero, Option.bind_some, hx]

/-- An element that is of the first kind alone shifts all that follow it. -/
theorem aligned_findIdxs_of_lone (hp : p x = true) (hq : q x = false) (start : Nat) :
    Aligned ((x :: later).findIdxs p start) ((x :: later).findIdxs q start) ↔
      ∀ y ∈ x :: later, q y = false := by
  rw [← List.findIdxs_eq_nil_iff (s := start)]
  have hfirst : (x :: later).findIdxs p start = start :: later.findIdxs p (start + 1) := by
    rw [List.findIdxs_cons, if_pos hp]
  have hsecond : (x :: later).findIdxs q start = later.findIdxs q (start + 1) := by
    rw [List.findIdxs_cons, hq]
    rfl
  rw [hfirst, hsecond]
  cases hlater : later.findIdxs q (start + 1) with
  | nil => exact iff_of_true (Aligned.nil_right _) rfl
  | cons n rest =>
    -- The second list goes on behind the element, and cannot agree with the first there.
    have hbehind : start + 1 ≤ n :=
      List.ge_of_mem_findIdxs n (hlater ▸ List.mem_cons_self)
    refine iff_of_false (fun h => ?_) nofun
    have hsame := (Aligned.cons_iff.mp h).1
    omega

theorem aligned_findIdxs_of_same (hpq : p x = q x) (start : Nat) :
    Aligned ((x :: later).findIdxs p start) ((x :: later).findIdxs q start) ↔
      Aligned (later.findIdxs p (start + 1)) (later.findIdxs q (start + 1)) := by
  rw [List.findIdxs_cons, List.findIdxs_cons, hpq]
  split
  · rw [Aligned.cons_iff]
    exact and_iff_right rfl
  · exact Iff.rfl

/-- Elements of both kinds or of neither, and behind them none of the one kind or none of
the other. -/
def InStep (p q : α → Bool) (l : List α) : Prop :=
  ∃ before after, l = before ++ after ∧ (∀ x ∈ before, p x = q x) ∧
    ((∀ x ∈ after, p x = false) ∨ ∀ x ∈ after, q x = false)

theorem inStep_cons_of_same (hpq : p x = q x) : InStep p q (x :: later) ↔ InStep p q later := by
  constructor
  · rintro ⟨before, after, hsplit, hbefore, hafter⟩
    cases before with
    | nil =>
      refine ⟨[], later, rfl, nofun, ?_⟩
      rw [List.nil_append] at hsplit
      rw [← hsplit] at hafter
      exact hafter.imp (fun h y hy => h y (List.mem_cons_of_mem x hy))
        (fun h y hy => h y (List.mem_cons_of_mem x hy))
    | cons z before =>
      obtain ⟨rfl, rfl⟩ := List.cons.inj hsplit
      exact ⟨before, after, rfl, fun y hy => hbefore y (List.mem_cons_of_mem _ hy), hafter⟩
  · rintro ⟨before, after, rfl, hbefore, hafter⟩
    exact ⟨x :: before, after, rfl, List.forall_mem_cons.mpr ⟨hpq, hbefore⟩, hafter⟩

theorem inStep_cons_of_lone (hp : p x = true) (hq : q x = false) :
    InStep p q (x :: later) ↔ ∀ y ∈ x :: later, q y = false := by
  constructor
  · rintro ⟨before, after, hsplit, hbefore, hafter⟩
    cases before with
    | nil =>
      rw [List.nil_append] at hsplit
      rw [← hsplit] at hafter
      refine hafter.resolve_left fun h => ?_
      exact absurd (h x List.mem_cons_self) (by rw [hp]; decide)
    | cons z before =>
      obtain ⟨rfl, -⟩ := List.cons.inj hsplit
      have hsame := hbefore x List.mem_cons_self
      rw [hp, hq] at hsame
      exact nomatch hsame
  · intro h
    exact ⟨[], x :: later, rfl, nofun, .inr h⟩

theorem InStep.symm {l : List α} (h : InStep p q l) : InStep q p l := by
  obtain ⟨before, after, hsplit, hbefore, hafter⟩ := h
  exact ⟨before, after, hsplit, fun y hy => (hbefore y hy).symm, hafter.symm⟩

/-- **Two lists read off one list stay aligned exactly while their sources are in step.** -/
theorem aligned_findIdxs_iff (l : List α) (start : Nat) :
    Aligned (l.findIdxs p start) (l.findIdxs q start) ↔ InStep p q l := by
  induction l generalizing start with
  | nil => exact iff_of_true (Aligned.nil_right _) ⟨[], [], rfl, nofun, .inl nofun⟩
  | cons x later ih =>
    by_cases hpq : p x = q x
    · rw [aligned_findIdxs_of_same hpq, inStep_cons_of_same hpq, ih]
    · cases hp : p x with
      | true =>
        have hq : q x = false := by rw [hp] at hpq; simpa using Ne.symm hpq
        rw [aligned_findIdxs_of_lone hp hq, inStep_cons_of_lone hp hq]
      | false =>
        have hq : q x = true := by rw [hp] at hpq; simpa using Ne.symm hpq
        rw [Aligned.comm, aligned_findIdxs_of_lone hq hp, ← inStep_cons_of_lone hq hp]
        exact ⟨InStep.symm, InStep.symm⟩

end Sources

/-! ### Addresses and masks -/

namespace AddressMessage

def ipv6Address? (m : AddressMessage) : Option SocketV6 := (m.address? .address).bind (·.v6?)

def ipv6Mask? (m : AddressMessage) : Option Ip.V6 :=
  ((m.address? .netmask).bind (·.v6?)).map (·.ip)

end AddressMessage

namespace Interface
variable (i : Interface)

/-- The address messages of the interface, in the order of the dump. -/
def messages : List AddressMessage :=
  match owner? i.data i.record with
  | some owner => ownMessages i.data owner.index i.record.stop i.stop
  | none => []

theorem extract_eq_filterMap (kind : AddressKind) :
    i.extract kind = i.messages.filterMap (·.address? kind) := by
  rw [extract, extractAddresses, messages]
  cases owner? i.data i.record <;> rfl

theorem ipv6Addresses_eq : i.ipv6Addresses = i.messages.filterMap (·.ipv6Address?) := by
  rw [ipv6Addresses, addresses, extract_eq_filterMap, List.filterMap_filterMap]
  rfl

theorem ipv6Netmasks_eq : i.ipv6Netmasks = i.messages.filterMap (·.ipv6Mask?) := by
  rw [ipv6Netmasks, extract_eq_filterMap, List.filterMap_filterMap, List.map_filterMap]
  rfl

/-- The numbers of the messages that the addresses are read from, address by address. -/
def addressSources : List Nat := i.messages.findIdxs (·.ipv6Address?.isSome)

/-- The numbers of the messages that the masks are read from, mask by mask. -/
def maskSources : List Nat := i.messages.findIdxs (·.ipv6Mask?.isSome)

/-- Wherever there is both an address and a mask at a position, they are of one message. -/
def MasksPaired : Prop := Aligned i.addressSources i.maskSources

end Interface

/-- **A mask stands beside the address of its own message exactly as long as the messages
carry both or neither**, or else the addresses or the masks have come to an end. -/
theorem masksPaired_iff (i : Interface) :
    (i.ipv6Addresses.map some =
        i.addressSources.map fun n => i.messages[n]?.bind (·.ipv6Address?)) ∧
      (i.ipv6Netmasks.map some = i.maskSources.map fun n => i.messages[n]?.bind (·.ipv6Mask?)) ∧
      (i.MasksPaired ↔
        InStep (·.ipv6Address?.isSome) (·.ipv6Mask?.isSome) i.messages) := by
  refine ⟨?_, ?_, aligned_findIdxs_iff i.messages 0⟩
  · rw [i.ipv6Addresses_eq, map_some_filterMap]
    rfl
  · rw [i.ipv6Netmasks_eq, map_some_filterMap]
    rfl

/-- An address message for fd00::1 on interface 19, without a mask. -/
def Sample.tunnelUnmasked : Bytes :=
  [48, 0, 5, 12, 32, 0, 0, 0, 0, 0, 0, 0, 19, 0, 0, 0, 0, 0, 0, 0, 28, 30, 0, 0, 0, 0, 0, 0,
   253, 0, 0, 0, 0, 0, 0, 0, 0, 0, 0, 0, 0, 0, 0, 1, 0, 0, 0, 0]

/-- A message without a mask in front of one with a mask: the mask of the second address,
64 bits long, stands beside the first. -/
theorem not_masksPaired :
    (Dump.mk (Sample.tunnelInterface ++ Sample.tunnelUnmasked ++
        Sample.tunnelGlobal)).interfaces.map (fun i =>
          (i.addressSources, i.maskSources, i.ipv6Addresses.map (byteAt ·.ip.octets 0),
            i.ipv6PrefixLengths)) = [([0, 1], [1], [0xfd, 0], [64])] ∧
      ¬ ∀ d : Dump, ∀ i ∈ d.interfaces, i.MasksPaired := by
  have hsources : (Dump.mk (Sample.tunnelInterface ++ Sample.tunnelUnmasked ++
      Sample.tunnelGlobal)).interfaces.map (fun i => (i.addressSources, i.maskSources)) =
        [([0, 1], [1])] := by decide +kernel
  refine ⟨by decide +kernel, fun hpaired => ?_⟩
  obtain ⟨i, rest, hlist, hi, -⟩ := List.map_eq_cons_iff.mp hsources
  obtain ⟨haddresses, hmasks⟩ := Prod.mk.inj hi
  have hfirst := hpaired _ i (hlist ▸ List.mem_cons_self)
  rw [Interface.MasksPaired, haddresses, hmasks] at hfirst
  exact nomatch (Aligned.cons_iff.mp hfirst).1

end InterfaceDump
