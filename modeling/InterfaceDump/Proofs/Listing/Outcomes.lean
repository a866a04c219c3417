import InterfaceDump.Listing.Outcome
import InterfaceDump.Proofs.Dump.Identity
import InterfaceDump.Proofs.Message.Options
import InterfaceDump.Proofs.Text.Words

/-! A listing as a whole.

A run of the program succeeds with the descriptions of the interfaces that it was asked for,
or fails with one line that says why, and never does a bit of both. Which interfaces are
shown is settled before anything is printed (`Shows`): the first one that a selector names,
whatever else was asked for; without a selector, those that accept multicast or all of
them. `printing` is the same program with its effects in their order, where an error does
not take back what was printed before; it ends as `run` says (`run_eq_ending`), so no error
comes that late. `run_one_step` is the whole of it, for any answer to the query and any
arguments. -/
namespace InterfaceDump.Listing

/-! ### The interfaces that are shown -/

/-- The selector names the interface. -/
def Selector.Matches : Selector → Interface → Prop
  | byIndex index, i => i.index = index
  | byName name, i => i.name = name

/-- The interface is up (bit 0), running (bit 6) and accepts multicast (bit 15). -/
def AcceptsMulticast (i : Interface) : Prop :=
  i.options.bits.toNat.testBit 0 = true ∧ i.options.bits.toNat.testBit 6 = true ∧
    i.options.bits.toNat.testBit 15 = true

instance (i : Interface) : Decidable (AcceptsMulticast i) := instDecidableAnd

/-- These interfaces of the dump are the ones to be shown, in this order. -/
inductive Shows (d : Dump) (args : Arguments) : List Interface → Prop where
  /-- Of several interfaces that a selector names, the first one counts. -/
  | selected {selector : Selector} {before : List Interface} {i : Interface}
      {later : List Interface} (given : args.selector = some selector)
      (order : d.interfaces = before ++ i :: later)
      (first : ∀ j ∈ before, ¬ selector.Matches j) (found : selector.Matches i) :
      Shows d args [i]
  | multicast (free : args.selector = none) (wanted : args.multicast = true) :
      Shows d args (d.interfaces.filter (AcceptsMulticast ·))
  | all (free : args.selector = none) (unwanted : args.multicast = false) :
      Shows d args d.interfaces

/-- This selector is given, and it names no interface of the dump. -/
def Misses (d : Dump) (args : Arguments) (selector : Selector) : Prop :=
  args.selector = some selector ∧ ∀ i ∈ d.interfaces, ¬ selector.Matches i

variable {d : Dump} {args : Arguments}

/-- What a search for the selector compares. -/
def Selector.accepts : Selector → Interface → Bool
  | byIndex index, i => i.index == index
  | byName name, i => i.name == name

theorem Selector.accepts_iff {selector : Selector} {i : Interface} :
    selector.accepts i = true ↔ selector.Matches i := by
  cases selector <;> exact beq_iff_eq

theorem Selector.find?_eq (selector : Selector) :
    selector.find? d = d.interfaces.find? selector.accepts := by
  cases selector <;> rfl

theorem Selector.find?_eq_some_iff (selector : Selector) {i : Interface} :
    selector.find? d = some i ↔ selector.Matches i ∧ ∃ before later,
      d.interfaces = before ++ i :: later ∧ ∀ j ∈ before, ¬ selector.Matches j := by
  simp only [find?_eq, List.find?_eq_some_iff_append, Bool.not_eq_true', ← accepts_iff,
    Bool.not_eq_true]

theorem Selector.find?_eq_none_iff (selector : Selector) :
    selector.find? d = none ↔ ∀ i ∈ d.interfaces, ¬ selector.Matches i := by
  simp only [find?_eq, List.find?_eq_none, accepts_iff]

theorem contains_multicastOptions_iff {i : Interface} :
    i.options.contains Dump.multicastOptions = true ↔ AcceptsMulticast i := by
  rw [Dump.multicastOptions, Options.contains_union_iff, Options.contains_union_iff, and_assoc,
    Options.contains_bit_iff (n := 0) rfl, Options.contains_bit_iff (n := 6) rfl,
    Options.contains_bit_iff (n := 15) rfl]
  rfl

theorem multicastCapable_eq (d : Dump) :
    d.multicastCapable = d.interfaces.filter (AcceptsMulticast ·) := by
  apply List.filter_congr
  intro i _
  rw [Bool.eq_iff_iff, contains_multicastOptions_iff, decide_eq_true_iff]

theorem chosen_of_shows {is : List Interface} (h : Shows d args is) : chosen d args = .ok is := by
  cases h with
  | selected hgiven horder hfirst hfound =>
    have hfind := (Selector.find?_eq_some_iff _).mpr ⟨hfound, _, _, horder, hfirst⟩
    simp only [chosen, hgiven, hfind]
  | multicast hfree hwanted =>
    simp only [chosen, hfree, hwanted, if_true, multicastCapable_eq]
  | all hfree hunwanted =>
    simp only [chosen, hfree, hunwanted, Bool.false_eq_true, if_false]

theorem chosen_of_misses {selector : Selector} (h : Misses d args selector) :
    chosen d args = .error (.notFound selector) := by
  obtain ⟨hgiven, hnone⟩ := h
  simp only [chosen, hgiven, selector.find?_eq_none_iff.mpr hnone]

/-- A selector either finds an interface or misses; without one, there is always an answer. -/
theorem misses_or_shows (d : Dump) (args : Arguments) :
    (∃ selector, Misses d args selector) ∨ ∃ is, Shows d args is := by
  cases hselector : args.selector with
  | some selector =>
    cases hfind : selector.find? d with
    | some i =>
      obtain ⟨hfound, before, later, horder, hfirst⟩ := selector.find?_eq_some_iff.mp hfind
      exact .inr ⟨_, .selected hselector horder hfirst hfound⟩
    | none => exact .inl ⟨selector, hselector, selector.find?_eq_none_iff.mp hfind⟩
  | none =>
    cases hmulticast : args.multicast with
    | true => exact .inr ⟨_, .multicast hselector hmulticast⟩
    | false => exact .inr ⟨_, .all hselector hmulticast⟩

theorem Shows.unique {is js : List Interface} (his : Shows d args is) (hjs : Shows d args js) :
    is = js := by
  have hboth : Except.ok is = Except.ok js :=
    (chosen_of_shows his).symm.trans (chosen_of_shows hjs)
  exact Except.ok.inj hboth

/-! ### What a run leaves behind -/

/-- The run succeeds and prints the texts, each with a line end behind it. -/
structure Outcome.Prints (o : Outcome) (texts : List String) : Prop where
  exitCode : o.exitCode = 0
  stdout : o.stdout = String.join (texts.map (· ++ "\n"))
  stderr : o.stderr = ""

/-- The run fails with one line that says why, and prints nothing else. -/
structure Outcome.Fails (o : Outcome) (exitCode : UInt8) (message : String) : Prop where
  exitCode : o.exitCode = exitCode
  stdout : o.stdout = ""
  stderr : o.stderr = "error: " ++ message ++ "\n"
  oneLine : '\n' ∉ message.toList

/-- A selector is shown in one line, also if the name in it has several. -/
theorem Selector.not_mem_inspect (selector : Selector) : '\n' ∉ selector.inspect.toList := by
  cases selector with
  | byIndex index =>
    simp only [inspect, Text.Inspect.applied, String.toList_append, List.mem_append, not_or]
    exact ⟨⟨⟨by decide, by decide⟩, not_mem_decimal (by decide) _⟩, by decide⟩
  | byName name =>
    simp only [inspect, Text.Inspect.applied, String.toList_append, List.mem_append, not_or]
    exact ⟨⟨⟨by decide, by decide⟩, not_mem_quote name⟩, by decide⟩

theorem run_unavailable (args : Arguments) :
    (run .unavailable args).Fails 2 "interface enumeration is not supported on this platform" :=
  ⟨rfl, rfl, rfl, by decide⟩

theorem listing_ok (d : Dump) (args : Arguments) :
    listing (.ok d) args = (chosen d args).map fun is => is.map (describe · args) := by
  have hlisting : listing (.ok d) args = (do
      let interfaces ← chosen d args
      return interfaces.map (describe · args)) := rfl
  rw [hlisting]
  cases chosen d args <;> rfl

theorem run_of_misses {selector : Selector} (h : Misses d args selector) :
    (run (.ok d) args).Fails 3 ("no interface matches " ++ selector.inspect) := by
  have hlisting : listing (.ok d) args = .error (.notFound selector) := by
    rw [listing_ok, chosen_of_misses h]
    rfl
  rw [run, hlisting]
  refine ⟨rfl, rfl, rfl, ?_⟩
  rw [String.toList_append, List.mem_append, not_or]
  exact ⟨by decide, selector.not_mem_inspect⟩

theorem run_of_shows {is : List Interface} (h : Shows d args is) :
    (run (.ok d) args).Prints (is.map (describe · args)) := by
  have hlisting : listing (.ok d) args = .ok (is.map (describe · args)) := by
    rw [listing_ok, chosen_of_shows h]
    rfl
  rw [run, hlisting]
  exact ⟨rfl, rfl, rfl⟩

/-! ### One description after the other -/

/-- Prints a description for each of the interfaces, behind what was printed before. -/
def printEach (args : Arguments) (is : List Interface) :
    ExceptT ListingError (StateM String) Unit :=
  is.forM fun i => modify (· ++ (describe i args ++ "\n"))

/-- The program with its effects in their order. -/
def printing (query : Query) (args : Arguments) : ExceptT ListingError (StateM String) Unit := do
  let d ← ofExcept (query.mapError .failed)
  let interfaces ← ofExcept (chosen d args)
  printEach args interfaces

/-- How the program ends. An error does not take back what was printed before it. -/
def ending : Except ListingError Unit × String → Outcome
  | (.ok _, printed) => ⟨0, printed, ""⟩
  | (.error e, printed) => ⟨e.exitCode, printed, "error: " ++ e.message ++ "\n"⟩

/-- Nothing stops the loop, and it adds to what was printed. -/
theorem run_printEach (is : List Interface) (printed : String) :
    (printEach args is).run printed =
      (.ok (), printed ++ String.join ((is.map (describe · args)).map (· ++ "\n"))) := by
  -- What was printed grows from step to step, so the induction is for any beginning.
  induction is generalizing printed with
  | nil => simp only [List.map_nil, String.join_nil, String.append_empty]; rfl
  | cons i is ih =>
    rw [List.map_cons, List.map_cons, String.join_cons, ← String.append_assoc]
    exact ih (printed ++ (describe i args ++ "\n"))

theorem printing_ok (d : Dump) (args : Arguments) :
    printing (.ok d) args = (do printEach args (← ofExcept (chosen d args))) := rfl

theorem printing_of_chosen {is : List Interface} (h : chosen d args = .ok is) :
    printing (.ok d) args = printEach args is := by
  rw [printing_ok, h]
  rfl

theorem printing_of_error {e : ListingError} (h : chosen d args = .error e) (printed : String) :
    (printing (.ok d) args).run printed = (.error e, printed) := by
  rw [printing_ok, h]
  rfl

/-- **Nothing is printed before an error**: step by step, the program ends in the same way. -/
theorem run_eq_ending (query : Query) (args : Arguments) :
    run query args = ending ((printing query args).run "") := by
  cases query with
  | error failure => rfl
  | ok d =>
    cases hchosen : chosen d args with
    | error e => rw [run, listing_ok, printing_of_error hchosen, hchosen]; rfl
    | ok is =>
      rw [run, listing_ok, printing_of_chosen hchosen, run_printEach, hchosen,
        String.empty_append]
      rfl

/-! ### The whole run -/

/-- What a run of the program comes to. -/
structure OneStep (query : Query) (args : Arguments) : Prop where
  unsupported : query = .unavailable →
    (run query args).Fails 2 "interface enumeration is not supported on this platform"
  missed : ∀ d selector, query = .ok d → Misses d args selector →
    (run query args).Fails 3 ("no interface matches " ++ selector.inspect)
  shown : ∀ d is, query = .ok d → Shows d args is →
    (run query args).Prints (is.map (describe · args))
  /-- A dump leaves no third possibility, and only one list to show. -/
  total : ∀ d, query = .ok d →
    (∃ selector, Misses d args selector) ∨ ∃! is, Shows d args is
  /-- A run for an index succeeds if an arrival on that index has a name, and only then. -/
  arrival : ∀ index, args.selector = some (.byIndex index) →
    ((run query args).exitCode = 0 ↔ ∃ name, arrivalName query index = .ok name)
  stepwise : run query args = ending ((printing query args).run "")

theorem ListingError.exitCode_ne_zero (e : ListingError) : e.exitCode ≠ 0 := by
  unfold exitCode
  split <;> decide

theorem exitCode_eq_zero_iff {index : UInt32} (h : args.selector = some (.byIndex index))
    (query : Query) :
    (run query args).exitCode = 0 ↔ ∃ name, arrivalName query index = .ok name := by
  cases query with
  | error failure =>
    have hcode : (run (.error failure) args).exitCode = (ListingError.failed failure).exitCode :=
      rfl
    have hname : arrivalName (.error failure) index = .error failure := rfl
    simp only [hcode, ListingError.exitCode_ne_zero, hname, reduceCtorEq, exists_false]
  | ok d =>
    cases hfind : d.findByIndex? index with
    | none =>
      have hmisses : Misses d args (.byIndex index) :=
        ⟨h, (Selector.byIndex index).find?_eq_none_iff.mp hfind⟩
      have hcode := (run_of_misses hmisses).exitCode
      have hname := ((d.finds index).unnamed _).mpr ⟨hfind, rfl⟩
      refine iff_of_false (by rw [hcode]; decide) ?_
      rintro ⟨name, hnamed⟩
      rw [hname] at hnamed
      cases hnamed
    | some i =>
      obtain ⟨hfound, before, later, horder, hfirst⟩ :=
        (Selector.byIndex index).find?_eq_some_iff.mp hfind
      have hcode := (run_of_shows (.selected h horder hfirst hfound)).exitCode
      exact iff_of_true hcode ⟨i.name, ((d.finds index).named i.name).mpr ⟨i, hfind, rfl⟩⟩

/-- **A run selects, prints and fails as one step.** -/
theorem run_one_step (query : Query) (args : Arguments) : OneStep query args where
  unsupported := by
    rintro rfl
    exact run_unavailable args
  missed := by
    rintro d selector rfl h
    exact run_of_misses h
  shown := by
    rintro d is rfl h
    exact run_of_shows h
  total d _ := (misses_or_shows d args).imp id fun ⟨is, h⟩ => ⟨is, h, fun _ hjs => hjs.unique h⟩
  arrival _ h := exitCode_eq_zero_iff h query
  stepwise := run_eq_ending query args

/-- An interface that is not there is missed, whatever else is asked for. -/
example : run (.ok ⟨Sample.tunnel⟩) { selector := some (.byIndex 20), multicast := true } =
    ⟨3, "", "error: no interface matches Index(20)\n"⟩ := by decide +kernel

end InterfaceDump.Listing
