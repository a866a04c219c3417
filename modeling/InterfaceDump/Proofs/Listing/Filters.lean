import InterfaceDump.Dump.Basic
import InterfaceDump.Listing.Describe
import InterfaceDump.Message.Sample
import InterfaceDump.Proofs.Address.Prefix
import Mathlib.Data.List.Basic

/-! What the arguments leave of a description.

Below its header a description has lines for the link and one line for each internet
address. What stands in them is settled by the interface (`body`): also the prefix length
beside an IPv6 address, which is looked up by the place of the address among all of them.
The arguments say which lines pass (`Subject.Passes`), by the family that a line is about
and by the network that its address lies in. `filters_only_remove` says that a description
is the header and the lines that pass, in their order, so that a filter takes lines away and
does nothing else. -/
namespace InterfaceDump
open Bytes

/-! ### Networks -/

namespace Ip

/-- The addresses that start with the same bits as a base address. -/
structure Network where
  base : Bytes
  length : Nat

def Network.Contains (network : Network) (octets : Bytes) : Prop :=
  (bits octets).take network.length = (bits network.base).take network.length

instance Network.decidableContains (network : Network) (octets : Bytes) :
    Decidable (network.Contains octets) :=
  inferInstanceAs (Decidable (_ = _))

/-- Eight bits and some more, octet by octet. -/
theorem take_bits_cons {n : Nat} (h : n ≤ 8) (a b : UInt8) (rest : Bytes) :
    (bits (a :: b :: rest)).take (8 + n) = octetBits a ++ (octetBits b).take n := by
  rw [bits_cons, bits_cons, List.take_append, length_octetBits, Nat.add_sub_cancel_left,
    List.take_append_of_le_length (by rwa [length_octetBits]),
    List.take_of_length_le (by rw [length_octetBits]; exact Nat.le_add_right 8 n)]

/-- A network of nine to sixteen bits looks at two octets. -/
theorem Network.contains_cons_iff {n : Nat} (h : n ≤ 8) {a b x y : UInt8} {rest rest' : Bytes} :
    (Network.mk (x :: y :: rest') (8 + n)).Contains (a :: b :: rest) ↔
      octetBits a = octetBits x ∧ (octetBits b).take n = (octetBits y).take n := by
  rw [Contains, take_bits_cons h, take_bits_cons h,
    List.append_eq_append_iff_of_size_eq_left (by rw [length_octetBits, length_octetBits])]

/-- 169.254.0.0/16. -/
def V4.linkLocal : Network := ⟨[169, 254, 0, 0], 16⟩

/-- fe80::/10. -/
def V6.linkLocal : Network := ⟨[0xfe, 0x80, 0, 0, 0, 0, 0, 0, 0, 0, 0, 0, 0, 0, 0, 0], 10⟩

theorem exists_octets_cons {octets : Bytes} (h : 2 ≤ octets.length) :
    ∃ a b rest, octets = a :: b :: rest := by
  match octets, h with
  | a :: b :: rest, _ => exact ⟨a, b, rest, rfl⟩

theorem V4.isLinkLocal_iff_contains (ip : V4) :
    ip.isLinkLocal = true ↔ V4.linkLocal.Contains ip.octets := by
  have hfirst : ∀ b : UInt8, octetBits b = octetBits 169 ↔ b = 169 :=
    forall_octet (by decide +kernel)
  have hsecond : ∀ b : UInt8, (octetBits b).take 8 = (octetBits 254).take 8 ↔ b = 254 :=
    forall_octet (by decide +kernel)
  obtain ⟨a, b, rest, hoctets⟩ := exists_octets_cons (by rw [ip.length_octets]; decide)
  rw [isLinkLocal, hoctets, linkLocal, Network.contains_cons_iff (n := 8) (Nat.le_refl 8), hfirst,
    hsecond, byteAt_cons_succ, byteAt_cons_zero, byteAt_cons_zero, Bool.and_eq_true, beq_iff_eq,
    beq_iff_eq]

theorem V6.isLinkLocal_iff_contains (ip : V6) :
    ip.isLinkLocal = true ↔ V6.linkLocal.Contains ip.octets := by
  have hfirst : ∀ b : UInt8, octetBits b = octetBits 0xfe ↔ b = 0xfe :=
    forall_octet (by decide +kernel)
  have hsecond : ∀ b : UInt8,
      (octetBits b).take 2 = (octetBits 0x80).take 2 ↔ b &&& 0xc0 = 0x80 :=
    forall_octet (by decide +kernel)
  obtain ⟨a, b, rest, hoctets⟩ := exists_octets_cons (by rw [ip.length_octets]; decide)
  rw [isLinkLocal, hoctets, linkLocal, Network.contains_cons_iff (n := 2) (by decide), hfirst,
    hsecond, byteAt_cons_succ, byteAt_cons_zero, byteAt_cons_zero, Bool.and_eq_true, beq_iff_eq,
    beq_iff_eq]

end Ip

namespace Listing
variable {args : Arguments}

/-! ### Lines below the header -/

/-- What a line is about. -/
inductive Subject where
  | link
  | inet (a : SocketV4)
  | inet6 (a : SocketV6)
deriving DecidableEq

/-- The family is to be shown, and the address is not one that is to be hidden. -/
def Subject.Passes (args : Arguments) : Subject → Prop
  | link => args.family = .all ∨ args.family = .link
  | inet a => (args.family = .all ∨ args.family = .inet) ∧
      ¬ (args.skipLinkLocal = true ∧ Ip.V4.linkLocal.Contains a.ip.octets)
  | inet6 a => (args.family = .all ∨ args.family = .inet6) ∧
      ¬ (args.skipLinkLocal = true ∧ Ip.V6.linkLocal.Contains a.ip.octets)

instance Subject.decidablePasses (args : Arguments) : DecidablePred (Subject.Passes args)
  | link => inferInstanceAs (Decidable (_ ∨ _))
  | inet _ => inferInstanceAs (Decidable (_ ∧ _))
  | inet6 _ => inferInstanceAs (Decidable (_ ∧ _))

structure BodyLine where
  subject : Subject
  text : String
deriving DecidableEq

/-- Every line that there is below the header. -/
def body (i : Interface) : List BodyLine :=
  (linkLines i).map (⟨.link, ·⟩) ++ (i.ipv4Addresses.map fun a => ⟨.inet a, ipv4Line i a⟩) ++
    i.ipv6Addresses.mapIdx fun n a => ⟨.inet6 a, ipv6Line i a i.ipv6PrefixLengths[n]?⟩

/-- The texts of the lines that pass. -/
def kept (args : Arguments) (lines : List BodyLine) : List String :=
  (lines.filter fun line => line.subject.Passes args).map (·.text)

/-! ### Lines that pass -/

theorem kept_append (args : Arguments) (before later : List BodyLine) :
    kept args (before ++ later) = kept args before ++ kept args later := by
  rw [kept, List.filter_append, List.map_append]
  rfl

theorem kept_of_passes {line : BodyLine} (h : line.subject.Passes args) (later : List BodyLine) :
    kept args (line :: later) = line.text :: kept args later := by
  rw [kept, kept, List.filter_cons, if_pos (decide_eq_true h), List.map_cons]

/-- Of lines that are written for the elements of a list, those are kept that are written for
elements to be shown. -/
theorem kept_map {α : Type} {subject : α → Subject} {shown : α → Bool}
    (h : ∀ x, shown x = true ↔ (subject x).Passes args) (text : α → String) (l : List α) :
    kept args (l.map fun x => ⟨subject x, text x⟩) = (l.filter shown).map text := by
  have hshown : (fun x => decide ((subject x).Passes args)) = shown := by
    funext x
    rw [Bool.eq_iff_iff, decide_eq_true_iff, h]
  rw [kept, List.filter_map, List.map_map, ← hshown]
  rfl

theorem wantsLink_iff : args.wantsLink = true ↔ Subject.link.Passes args := by
  rw [Arguments.wantsLink, Subject.Passes]
  cases args.family <;> decide

theorem wants_iff (a : SockAddr) : args.wants a = true ↔
    args.family.shows a.family = true ∧
      ¬ (args.skipLinkLocal = true ∧ a.isLinkLocal = true) := by
  rw [Arguments.wants, Bool.and_eq_true, Bool.not_eq_true', Bool.eq_false_iff, ne_eq,
    Bool.and_eq_true]

theorem wants_v4_iff (a : SocketV4) :
    args.wants (.v4 a) = true ↔ (Subject.inet a).Passes args := by
  have hfamily : args.family.shows .inet = true ↔ args.family = .all ∨ args.family = .inet := by
    cases args.family <;> decide
  rw [wants_iff, Subject.Passes, ← hfamily, ← Ip.V4.isLinkLocal_iff_contains]
  rfl

theorem wants_v6_iff (a : SocketV6) :
    args.wants (.v6 a) = true ↔ (Subject.inet6 a).Passes args := by
  have hfamily : args.family.shows .inet6 = true ↔ args.family = .all ∨ args.family = .inet6 := by
    cases args.family <;> decide
  rw [wants_iff, Subject.Passes, ← hfamily, ← Ip.V6.isLinkLocal_iff_contains]
  rfl

theorem kept_linkLines (i : Interface) (args : Arguments) :
    kept args ((linkLines i).map (⟨.link, ·⟩)) = if args.wantsLink then linkLines i else [] := by
  have hpasses : ∀ _ : String, args.wantsLink = true ↔ Subject.link.Passes args :=
    fun _ => wantsLink_iff
  rw [kept_map hpasses fun line => line, List.map_id']
  cases args.wantsLink with
  | true => rw [List.filter_true, if_pos rfl]
  | false => rw [List.filter_false, if_neg Bool.false_ne_true]

theorem kept_ipv4Lines (i : Interface) (args : Arguments) :
    kept args (i.ipv4Addresses.map fun a => ⟨.inet a, ipv4Line i a⟩) =
      (i.ipv4Addresses.filter fun a => args.wants (.v4 a)).map (ipv4Line i) :=
  kept_map wants_v4_iff (ipv4Line i) i.ipv4Addresses

/-- The prefix lengths are looked up before any address is left out. -/
theorem ipv6Lines_eq (i : Interface) :
    (i.ipv6Addresses.mapIdx fun n a =>
      (⟨.inet6 a, ipv6Line i a i.ipv6PrefixLengths[n]?⟩ : BodyLine)) =
        (prefixedAddresses i).map fun p => ⟨.inet6 p.1, ipv6Line i p.1 p.2⟩ := by
  rw [prefixedAddresses, List.map_map, List.mapIdx_eq_zipIdx_map]
  rfl

theorem map_fst_prefixedAddresses (i : Interface) :
    (prefixedAddresses i).map (·.1) = i.ipv6Addresses := by
  rw [prefixedAddresses, List.map_map]
  exact List.zipIdx_map_fst 0 i.ipv6Addresses

theorem kept_ipv6Lines (i : Interface) (args : Arguments) :
    kept args (i.ipv6Addresses.mapIdx fun n a => ⟨.inet6 a, ipv6Line i a i.ipv6PrefixLengths[n]?⟩) =
      ((prefixedAddresses i).filter fun p => args.wants (.v6 p.1)).map fun p =>
        ipv6Line i p.1 p.2 := by
  have hpasses : ∀ p : SocketV6 × Option UInt8,
      args.wants (.v6 p.1) = true ↔ (Subject.inet6 p.1).Passes args := fun p => wants_v6_iff p.1
  rw [ipv6Lines_eq, kept_map hpasses]

/-- **A description is the header and the lines that pass.** -/
theorem descriptionLines_eq (i : Interface) (args : Arguments) :
    descriptionLines i args = headerLine i :: kept args (body i) := by
  rw [body, kept_append, kept_append, kept_linkLines, kept_ipv4Lines, kept_ipv6Lines,
    descriptionLines]
  rfl

/-- What passes under wider arguments too keeps its order. -/
theorem kept_sublist {wider : Arguments} (h : ∀ s : Subject, s.Passes args → s.Passes wider)
    (lines : List BodyLine) : (kept args lines).Sublist (kept wider lines) := by
  refine (List.monotone_filter_right lines fun line hline => ?_).map (·.text)
  exact decide_eq_true (h line.subject (of_decide_eq_true hline))

/-! ### Filters -/

/-- How a description of an interface depends on the arguments. -/
structure FiltersLines (i : Interface) : Prop where
  /-- The link comes first, then the addresses in their order, family by family. -/
  subjects : (body i).map (·.subject) = (linkLines i).map (fun _ => .link) ++
    i.ipv4Addresses.map .inet ++ i.ipv6Addresses.map .inet6
  /-- The place of an IPv6 address among all of them gives its prefix length. -/
  paired : ∀ n a, i.ipv6Addresses[n]? = some a →
    (body i)[(linkLines i).length + i.ipv4Addresses.length + n]? =
      some ⟨.inet6 a, ipv6Line i a i.ipv6PrefixLengths[n]?⟩
  described : ∀ args, describe i args = "\n".intercalate (headerLine i :: kept args (body i))
  /-- A line that passes stands unchanged between those of its neighbours that pass. -/
  inPlace : ∀ args before line later, body i = before ++ line :: later →
    line.subject.Passes args → descriptionLines i args =
      headerLine i :: kept args before ++ line.text :: kept args later
  narrowed : ∀ args wider : Arguments, (∀ s : Subject, s.Passes args → s.Passes wider) →
    (descriptionLines i args).Sublist (descriptionLines i wider)

theorem map_subject_body (i : Interface) :
    (body i).map (·.subject) = (linkLines i).map (fun _ => .link) ++
      i.ipv4Addresses.map .inet ++ i.ipv6Addresses.map .inet6 := by
  rw [body, ipv6Lines_eq, ← map_fst_prefixedAddresses]
  simp only [List.map_append, List.map_map]
  rfl

theorem getElem?_body {i : Interface} {n : Nat} {a : SocketV6} (h : i.ipv6Addresses[n]? = some a) :
    (body i)[(linkLines i).length + i.ipv4Addresses.length + n]? =
      some ⟨.inet6 a, ipv6Line i a i.ipv6PrefixLengths[n]?⟩ := by
  have hlength : ((linkLines i).map (fun line => (⟨.link, line⟩ : BodyLine)) ++
      i.ipv4Addresses.map fun a => (⟨.inet a, ipv4Line i a⟩ : BodyLine)).length =
        (linkLines i).length + i.ipv4Addresses.length := by
    rw [List.length_append, List.length_map, List.length_map]
  rw [body, List.getElem?_append_right (by rw [hlength]; exact Nat.le_add_right _ n), hlength,
    Nat.add_sub_cancel_left, List.getElem?_mapIdx, h, Option.map_some]

/-- **Filters only remove lines.** What a line says, and where it stands among the others, is
the same under all arguments that show it. -/
theorem filters_only_remove (i : Interface) : FiltersLines i where
  subjects := map_subject_body i
  paired _ _ h := getElem?_body h
  described args := by rw [describe, descriptionLines_eq]
  inPlace args before line later hbody hpasses := by
    rw [descriptionLines_eq, hbody, kept_append, kept_of_passes hpasses]
    rfl
  narrowed args wider h := by
    rw [descriptionLines_eq, descriptionLines_eq]
    exact (kept_sublist h (body i)).cons_cons _

/-- With the first address hidden, the second one still has its own prefix length. -/
example : (Dump.mk Sample.tunnel).interfaces.map
    (fun i => descriptionLines i { family := .inet6, skipLinkLocal := true }) =
      [["utun4: flags=8051<UP,POINTOPOINT,RUNNING,MULTICAST> index 19 mtu 1500",
        "\tinet6 32:2:3:4:5:6:7:8 prefixlen 64"]] := by
  decide +kernel

end Listing

end InterfaceDump
