import InterfaceDump.Proofs.Bytes

/-! Operations that can fail.

The definitions of this library are total: an octet past the end reads as zero, a
range is cut, numbers grow without bound. A program on a machine has none of this.
It stops at an index or a range that is not there, at a copy between ranges of
unequal lengths, at a sum or a difference that leaves its type; and it goes on
with a wrong value where a number is cut to an octet or a default stands in for a
field. Here each of these is a `Fault`, and a `Checked` computation ends with the
first one. Each operation comes with the condition under which it gives what its
total counterpart gives.

`loop` runs through an iterator that is such a computation itself. Where the
iterator is known to give the elements of a list (`Gives`), the loop computes what
`runUntil` computes from that list (`loop_eq`). -/
namespace InterfaceDump
open Bytes

inductive Fault where
  /-- An index or a range that is not there. -/
  | outOfRange
  /-- A copy between ranges of unequal lengths. -/
  | unequalLengths
  /-- A sum past the largest number of its type. -/
  | overflow
  /-- A difference below zero. -/
  | underflow
  /-- A number cut to an octet that cannot hold it. -/
  | truncated
  /-- A default that stands in for a field. -/
  | defaulted
  /-- An iterator that comes no closer to its end. -/
  | stuck
deriving DecidableEq

abbrev Checked (α : Type) : Type := Except Fault α

/-- What matters of a machine: the largest offset. It takes two octets at least. -/
structure Machine where
  largest : Nat
  le_largest : 65535 ≤ largest

def Machine.smallest : Machine := ⟨65535, Nat.le_refl _⟩

/-- Octets in the memory of a machine. -/
structure Machine.Buffer (M : Machine) where
  bytes : Bytes
  fits : bytes.length ≤ M.largest

namespace Checked

/-! ### Computations without a fault -/

section
variable {α β : Type}

@[simp] theorem pure_eq (a : α) : (pure a : Checked α) = .ok a := rfl

@[simp] theorem ok_bind (a : α) (f : α → Checked β) : (Except.ok a >>= f) = f a := rfl

@[simp] theorem map_ok (f : α → β) (a : α) : f <$> (Except.ok a : Checked α) = .ok (f a) := rfl

/-- A field that has to be there. -/
def present : Option α → Checked α
  | some a => .ok a
  | none => .error .defaulted

@[simp] theorem present_some (a : α) : present (some a) = .ok a := rfl

end

/-! ### Octets and ranges -/

section
variable {b source target : Bytes} {i n start stop : Nat}

def octet (b : Bytes) (i : Nat) : Checked UInt8 :=
  match b[i]? with
  | some x => .ok x
  | none => .error .outOfRange

theorem octet_eq (h : i < b.length) : octet b i = .ok (byteAt b i) := by
  rw [octet, getElem?_eq_byteAt h]

def slice (b : Bytes) (start stop : Nat) : Checked Bytes :=
  match slice? b start stop with
  | some octets => .ok octets
  | none => .error .outOfRange

theorem slice_eq (hlow : start ≤ stop) (hhigh : stop ≤ b.length) :
    slice b start stop = .ok (field b start (stop - start)) := by
  rw [slice, slice?, if_pos ⟨hlow, hhigh⟩, field_eq_take (by omega)]

def sliceTo (b : Bytes) (stop : Nat) : Checked Bytes := slice b 0 stop

theorem sliceTo_eq (h : stop ≤ b.length) : sliceTo b stop = .ok (b.take stop) := by
  rw [sliceTo, slice_eq (Nat.zero_le _) h, field_eq_take (by omega), List.drop_zero, Nat.sub_zero]

def sliceFrom (b : Bytes) (start : Nat) : Checked Bytes := slice b start b.length

theorem sliceFrom_eq (h : start ≤ b.length) : sliceFrom b start = .ok (b.drop start) := by
  rw [sliceFrom, slice_eq h (Nat.le_refl _), field_eq_take (by omega), ← List.length_drop,
    List.take_length]

theorem slice?_from_eq :
    slice? b start b.length = if start ≤ b.length then some (b.drop start) else none := by
  simp [slice?, ← List.length_drop]

/-- The first `n` octets of `target` overwritten by `source`. -/
def copyInto (target : Bytes) (n : Nat) (source : Bytes) : Checked Bytes := do
  let replaced ← sliceTo target n
  if source.length = replaced.length then .ok (source ++ target.drop n)
  else .error .unequalLengths

theorem copyInto_eq (hroom : n ≤ target.length) (hsource : source.length = n) :
    copyInto target n source = .ok (source ++ target.drop n) := by
  have hreplaced : source.length = (target.take n).length := by rw [List.length_take]; omega
  rw [copyInto, sliceTo_eq hroom, ok_bind, if_pos hreplaced]

def replaceAt (b : Bytes) (i : Nat) (x : UInt8) : Checked Bytes :=
  if i < b.length then .ok (b.set i x) else .error .outOfRange

theorem replaceAt_eq (h : i < b.length) (x : UInt8) : replaceAt b i x = .ok (b.set i x) := if_pos h

end

/-! ### Numbers -/

section
variable {limit m n : Nat}

def addUpTo (limit m n : Nat) : Checked Nat :=
  if m + n ≤ limit then .ok (m + n) else .error .overflow

theorem addUpTo_eq (h : m + n ≤ limit) : addUpTo limit m n = .ok (m + n) := if_pos h

def sub (m n : Nat) : Checked Nat := if n ≤ m then .ok (m - n) else .error .underflow

theorem sub_eq (h : n ≤ m) : sub m n = .ok (m - n) := if_pos h

def toOctet (n : Nat) : Checked UInt8 := if n < 256 then .ok (UInt8.ofNat n) else .error .truncated

theorem toOctet_eq (h : n < 256) : toOctet n = .ok (UInt8.ofNat n) := if_pos h

end

end Checked

namespace Machine
variable (M : Machine)

/-- The sum of two offsets. -/
def add (m n : Nat) : Checked Nat := Checked.addUpTo M.largest m n

theorem add_eq {m n : Nat} (h : m + n ≤ M.largest) : M.add m n = .ok (m + n) :=
  Checked.addUpTo_eq h

theorem add_eq_of_le {m n : Nat} (h : m + n ≤ 65535) : M.add m n = .ok (m + n) :=
  M.add_eq (Nat.le_trans h M.le_largest)

/-- The little-endian number in the `width` octets from `offset` on, if they are there. -/
def numberAt? (b : Bytes) (offset width : Nat) : Option Nat :=
  if offset + width ≤ M.largest then (slice? b offset (offset + width)).map ofLittleEndian
  else none

theorem numberAt?_eq {b : Bytes} {offset width : Nat} (h : offset + width ≤ 65535) :
    M.numberAt? b offset width =
      if offset + width ≤ b.length then some (ofLittleEndian (field b offset width)) else none := by
  rw [numberAt?, if_pos (Nat.le_trans h M.le_largest), slice?]
  by_cases hroom : offset + width ≤ b.length
  · rw [if_pos hroom, if_pos ⟨Nat.le_add_right _ _, hroom⟩, field_eq_take hroom,
      Nat.add_sub_cancel_left, Option.map_some]
  · rw [if_neg hroom, if_neg (fun h => hroom h.2), Option.map_none]

def u16At? (b : Bytes) (offset : Nat) : Option UInt16 := (M.numberAt? b offset 2).map .ofNat

def u32At? (b : Bytes) (offset : Nat) : Option UInt32 := (M.numberAt? b offset 4).map .ofNat

theorem u16At?_eq {b : Bytes} {offset : Nat} (h : offset + 2 ≤ 65535)
    (hroom : offset + 2 ≤ b.length) : M.u16At? b offset = some (u16le b offset) := by
  rw [u16At?, M.numberAt?_eq h, if_pos hroom, Option.map_some, u16le]

theorem u32At?_eq {b : Bytes} {offset : Nat} (h : offset + 4 ≤ 65535)
    (hroom : offset + 4 ≤ b.length) : M.u32At? b offset = some (u32le b offset) := by
  rw [u32At?, M.numberAt?_eq h, if_pos hroom, Option.map_some, u32le]

end Machine

/-! ### Loops -/

namespace Checked
variable {α β γ σ : Type}

/-- A loop over the elements of an iterator, which the body can leave early. The iterator
has to come closer to its end, of which `left` is the distance. -/
def loop (next : σ → Checked (Option (α × σ))) (left : σ → Nat)
    (body : α → β → Checked (ForInStep β)) (s : σ) (acc : β) : Checked β := do
  match ← next s with
  | none => pure acc
  | some (a, t) =>
    if left t < left s then
      match ← body a acc with
      | .done acc => pure acc
      | .yield acc => loop next left body t acc
    else .error .stuck
termination_by left s

/-- The iterator gives the elements of a list, and then ends. -/
inductive Gives (next : σ → Checked (Option (α × σ))) (left : σ → Nat) : σ → List α → Prop where
  | nil {s : σ} (h : next s = .ok none) : Gives next left s []
  | cons {s t : σ} {a : α} {rest : List α} (h : next s = .ok (some (a, t))) (hleft : left t < left s)
      (hrest : Gives next left t rest) : Gives next left s (a :: rest)

/-- The same loop over a list, with a body that has no fault. -/
def runUntil (step : α → β → ForInStep β) : List α → β → β
  | [], acc => acc
  | a :: rest, acc =>
    match step a acc with
    | .done acc => acc
    | .yield acc => runUntil step rest acc

variable {next : σ → Checked (Option (α × σ))} {left : σ → Nat}

/-- **A loop whose iterator and body have no fault has none itself.** -/
theorem loop_eq {body : α → β → Checked (ForInStep β)} {step : γ → β → ForInStep β} {f : γ → α}
    {items : List γ} {s : σ} {acc : β} (h : Gives next left s (items.map f))
    (hbody : ∀ c ∈ items, ∀ acc, body (f c) acc = .ok (step c acc)) :
    loop next left body s acc = .ok (runUntil step items acc) := by
  induction items generalizing s acc with
  | nil =>
    obtain ⟨hnext⟩ | _ := h
    rw [loop, hnext]
    rfl
  | cons c rest ih =>
    obtain _ | ⟨hnext, hleft, hrest⟩ := h
    have hstep := hbody c List.mem_cons_self acc
    have hlater := fun d hd => hbody d (List.mem_cons_of_mem c hd)
    rw [loop, hnext, ok_bind]
    simp only [hleft, if_true, hstep, ok_bind, runUntil]
    cases step c acc with
    | done acc => rfl
    | yield acc => exact ih hrest hlater

theorem runUntil_find (p : α → Bool) (f : α → β) (l : List α) :
    runUntil (fun a acc => if p a then .done (some (f a)) else .yield acc) l none =
      (l.find? p).map f := by
  induction l with
  | nil => rfl
  | cons a rest ih =>
    by_cases ha : p a = true
    · simp only [runUntil, ha, if_true, List.find?_cons_of_pos, Option.map_some]
    · simp only [runUntil, ha, if_false, List.find?_cons_of_neg, not_false_eq_true, ih,
        Bool.false_eq_true]

theorem runUntil_collect (stop : α → Bool) (f : α → Option β) (l : List α) (acc : List β) :
    runUntil (fun a acc => if stop a then .done acc else .yield (acc ++ (f a).toList)) l acc =
      acc ++ (l.takeWhile (!stop ·)).filterMap f := by
  induction l generalizing acc with
  | nil => exact (List.append_nil acc).symm
  | cons a rest ih =>
    by_cases ha : stop a = true
    · simp [runUntil, ha]
    · cases hf : f a with
      | none => simp [runUntil, ha, hf, ih]
      | some x => simp [runUntil, ha, hf, ih]

theorem runUntil_filterMap (f : α → Option β) (l : List α) (acc : List β) :
    runUntil (fun a acc => .yield (acc ++ (f a).toList)) l acc = acc ++ l.filterMap f := by
  induction l generalizing acc with
  | nil => exact (List.append_nil acc).symm
  | cons a rest ih =>
    cases hf : f a with
    | none => simp [runUntil, hf, ih]
    | some x => simp [runUntil, hf, ih]

end Checked

end InterfaceDump
