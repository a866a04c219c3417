import Mathlib.Data.List.GetD
import Mathlib.Data.List.Induction
import InterfaceDump.Dump.Session
import InterfaceDump.Proofs.Dump.Openings

/-! The two ways through a dump.

The cursor goes from offset to offset by `positionAfter`; the iterator takes one
interface after the other. `CursorAgrees` says that they come by the same
interfaces in the same order and both come to an end, and `Session.run_next` that
this is still so when the steps of both are mixed in any way: what the iterator
hands out depends on the number of times it was asked since it was last started,
and on nothing else. `walks_agree` is both. -/
namespace InterfaceDump

/-! ### The cursor -/

namespace Dump

/-- The cursor after `n` moves from the first interface. -/
def cursorAfter (d : Dump) : Nat → Nat
  | 0 => d.startPosition
  | n + 1 => d.positionAfter (d.cursorAfter n)

/-- The cursor comes by the interfaces, in their order, and then stays at the end. -/
structure CursorAgrees (d : Dump) : Prop where
  moves_le : d.interfaces.length ≤ d.bytes.length / InterfaceMessage.fixedLength
  increasing : (d.interfaces.map (·.position) ++ [d.endPosition]).Pairwise (· < ·)
  visits : ∀ n, d.cursorAfter n = (d.interfaces.map (·.position)).getD n d.endPosition
  /-- At the position of an interface there is that interface. -/
  looks : d.interfaces.map (fun i => d.interfaceAt? i.position) = d.interfaces.map some
  /-- From each position the cursor moves to the next one. -/
  follows : d.interfaces.map (fun i => d.positionAfter i.position) =
    (d.interfaces.map (·.position) ++ [d.endPosition]).tail
  stays : d.positionAfter d.endPosition = d.endPosition
  nothing : d.interfaceAt? d.endPosition = none

variable (d : Dump)

theorem length_interfaces_le :
    d.interfaces.length ≤ d.bytes.length / InterfaceMessage.fixedLength := by
  have h := length_openings_le (Nat.zero_le d.bytes.length)
  rw [← interfaces_eq_openings, Nat.zero_add] at h
  rwa [Nat.le_div_iff_mul_le (by decide), Nat.mul_comm]

theorem positions_increasing :
    (d.interfaces.map (·.position) ++ [d.endPosition]).Pairwise (· < ·) := by
  refine List.pairwise_append.mpr ⟨d.pairwise_positions, List.pairwise_singleton _ _, ?_⟩
  rintro position hposition stop hstop
  obtain ⟨i, hi, rfl⟩ := List.mem_map.mp hposition
  obtain rfl := List.mem_singleton.mp hstop
  have hbounds := interfaceAt?_bounds (interfaceAt?_of_mem_interfacesFrom hi)
  simp only [InterfaceMessage.fixedLength, Interface.position] at hbounds ⊢
  omega

theorem map_interfaceAt?_position :
    d.interfaces.map (fun i => d.interfaceAt? i.position) = d.interfaces.map some :=
  List.map_congr_left fun _ hi => interfaceAt?_of_mem_interfacesFrom hi

theorem map_positionAfter_position :
    d.interfaces.map (fun i => d.positionAfter i.position) =
      (d.interfaces.map (·.position) ++ [d.endPosition]).tail := by
  have hstop : d.interfaces.map (fun i => d.positionAfter i.position) =
      d.interfaces.map (·.stop) :=
    List.map_congr_left fun _ hi =>
      positionAfter_of_interfaceAt? (interfaceAt?_of_mem_interfacesFrom hi)
  rw [hstop, ← startPosition_cons_map_stop, List.tail_cons]

theorem positionAfter_endPosition : d.positionAfter d.endPosition = d.endPosition := by
  have hnone : interfaceRecord? d.bytes d.endPosition = none := by
    rw [interfaceRecord?, endPosition, List.drop_eq_nil_of_le (Nat.le_refl _)]
    rfl
  rw [positionAfter, hnone]

theorem getD_concat {α : Type} (l : List α) (a : α) (n : Nat) :
    (l ++ [a]).getD n a = l.getD n a := by
  rcases Nat.lt_or_ge n l.length with hn | hn
  · exact List.getD_append _ _ _ _ hn
  · rw [List.getD_append_right _ _ _ _ hn, List.getD_eq_default _ _ hn]
    cases n - l.length <;> rfl

theorem cursorAfter_eq (n : Nat) :
    d.cursorAfter n = (d.interfaces.map (·.position)).getD n d.endPosition := by
  rw [← getD_concat]
  induction n with
  | zero => rw [← startPosition_cons_map_stop, List.getD_cons_zero, cursorAfter]
  | succ n ih =>
    have hfollows : (d.interfaces.map (·.position)).map d.positionAfter =
        (d.interfaces.map (·.position) ++ [d.endPosition]).tail := by
      rw [List.map_map]
      exact d.map_positionAfter_position
    calc d.cursorAfter (n + 1)
        = d.positionAfter ((d.interfaces.map (·.position)).getD n d.endPosition) := by
          rw [cursorAfter, ih, getD_concat]
      _ = ((d.interfaces.map (·.position)).map d.positionAfter).getD n d.endPosition := by
          rw [← List.getD_map _ _ d.positionAfter, d.positionAfter_endPosition]
      _ = (d.interfaces.map (·.position) ++ [d.endPosition]).getD (n + 1) d.endPosition := by
          rw [hfollows, List.getD_eq_getElem?_getD, List.getElem?_tail,
            ← List.getD_eq_getElem?_getD]

theorem cursorAgrees : d.CursorAgrees where
  moves_le := d.length_interfaces_le
  increasing := d.positions_increasing
  visits := d.cursorAfter_eq
  looks := d.map_interfaceAt?_position
  follows := d.map_positionAfter_position
  stays := d.positionAfter_endPosition
  nothing := d.interfaceAt?_endPosition

end Dump

/-! ### The iterator among other steps -/

namespace Session

/-- How often the iterator was asked since it was last started. -/
def taken (steps : List Step) : Nat := (steps.reverse.takeWhile (· ≠ .rewind)).count .next

theorem taken_concat (steps : List Step) (step : Step) :
    taken (steps ++ [step]) =
      match step with
      | .next => taken steps + 1
      | .rewind => 0
      | _ => taken steps := by
  cases step <;> simp [taken]

theorem run_append (s : Session) (a b : List Step) :
    s.run (a ++ b) = (((s.run a).1.run b).1, (s.run a).2 ++ ((s.run a).1.run b).2) := by
  induction a generalizing s with
  | nil => rfl
  | cons step rest ih => simp only [List.cons_append, run, ih]

theorem length_answers (s : Session) (steps : List Step) :
    (s.run steps).2.length = steps.length := by
  induction steps generalizing s with
  | nil => rfl
  | cons step rest ih => simp only [run, List.length_cons, ih]

/-- The session walks `d`, and its iterator has the interfaces from the `k`-th on before it. -/
structure Walks (s : Session) (d : Dump) (k : Nat) : Prop where
  dump : s.dump = d
  upcoming : d.interfacesFrom s.upcoming = d.interfaces.drop k

variable {s : Session} {d : Dump} {k : Nat}

theorem start_walks (d : Dump) : (start d).Walks d 0 := ⟨rfl, rfl⟩

/-- Asked for its next interface, the iterator answers with the `k`-th and goes on. -/
theorem Walks.next (h : s.Walks d k) :
    (s.step .next).1.Walks d (k + 1) ∧ (s.step .next).2 = .seen d.interfaces[k]? := by
  obtain ⟨rfl, hupcoming⟩ := h
  have hk : s.dump.interfaces[k]? = (s.dump.interfacesFrom s.upcoming).head? := by
    rw [hupcoming, List.head?_drop]
  have hrest : s.dump.interfaces.drop (k + 1) = (s.dump.interfacesFrom s.upcoming).tail := by
    rw [hupcoming, List.tail_drop]
  rw [hk]
  cases hi : s.dump.interfaceAt? s.upcoming with
  | none =>
    rw [Dump.interfacesFrom_of_none hi] at hrest ⊢
    simp only [step, hi]
    refine ⟨⟨rfl, ?_⟩, rfl⟩
    rw [Dump.interfacesFrom_of_none hi, hrest, List.tail_nil]
  | some i =>
    rw [Dump.interfacesFrom_of_some hi] at hrest ⊢
    simp only [step, hi]
    exact ⟨⟨rfl, hrest.symm⟩, rfl⟩

/-- Every step leaves the iterator where the steps so far have brought it. -/
theorem walks_run (d : Dump) (steps : List Step) :
    ((start d).run steps).1.Walks d (taken steps) := by
  induction steps using List.reverseRecOn with
  | nil => exact start_walks d
  | append_singleton steps step ih =>
    rw [run_append, taken_concat]
    cases step with
    | next => exact ih.next.1
    | rewind => exact ⟨ih.dump, congrArg d.interfacesFrom (congrArg Dump.startPosition ih.dump)⟩
    | _ => exact ⟨ih.dump, ih.upcoming⟩

/-- **Whatever was done before and between, the iterator hands out the interfaces of the
dump one after the other**, and nothing when there are no more. -/
theorem run_next (d : Dump) (before after : List Step) :
    ((start d).run (before ++ .next :: after)).2[before.length]? =
      some (.seen d.interfaces[taken before]?) := by
  rw [run_append, List.getElem?_append_right (Nat.le_of_eq (length_answers _ _)), length_answers,
    Nat.sub_self]
  simp only [run, List.getElem?_cons_zero, (walks_run d before).next.2]

end Session

/-- **Cursor and iterator agree**, each on its own and in any order of steps. -/
theorem walks_agree (d : Dump) :
    d.CursorAgrees ∧ ∀ before after : List Session.Step,
      ((Session.start d).run (before ++ .next :: after)).2[before.length]? =
        some (.seen d.interfaces[Session.taken before]?) :=
  ⟨d.cursorAgrees, Session.run_next d⟩

end InterfaceDump
