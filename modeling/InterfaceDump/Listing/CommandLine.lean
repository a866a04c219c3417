import InterfaceDump.Listing.Arguments

/-! The command line.

Words are read from left to right. An option takes its value from its own word,
after an equals sign or right behind its letter, or else from the next word; a
word that looks like an option is never taken for a value. Letters of switches
combine in one word, and an option's letter may come last among them. Nothing may
be given twice, and there are no arguments besides options.

A value in the option's own word is read at once. A value in a word of its own is
read only when the next option or the end of the line shows that it is complete,
so a later word that is no option at all is reported before it.

This is the outermost layer of a listing. What a listing shows depends on its arguments
(`Arguments`) and not on how they were written. -/
namespace InterfaceDump.Listing
open Diagnostics

/-! ### Errors -/

inductive UsageError where
  | badValue (error : ValueError)
  /-- An option without its value. -/
  | missingValue
  | unknownArgument
  /-- An option or switch given twice. -/
  | repeated
  /-- A switch with a value. -/
  | unexpectedValue
  /-- The usage text was asked for. -/
  | help
deriving DecidableEq

/-! ### Options -/

inductive Setting where
  | selector
  | family
  | verbosity
deriving DecidableEq

inductive Switch where
  | multicast
  | skipLinkLocal
deriving DecidableEq

inductive Flag where
  | setting (s : Setting)
  | switch (s : Switch)
  | help
deriving DecidableEq

def Flag.ofLetter? : Char → Option Flag
  | 'i' => some (.setting .selector)
  | 'f' => some (.setting .family)
  | 'm' => some (.switch .multicast)
  | 'h' => some .help
  | _ => none

def Flag.ofName? : String → Option Flag
  | "interface" => some (.setting .selector)
  | "family" => some (.setting .family)
  | "log-level" => some (.setting .verbosity)
  | "multicast" => some (.switch .multicast)
  | "skip-link-local" => some (.switch .skipLinkLocal)
  | "help" => some .help
  | _ => none

/-! ### Reading words -/

/-- What has been read so far. -/
structure Draft where
  selector : Option Selector := none
  family : Option FamilyFilter := none
  verbosity : Option Verbosity := none
  multicast : Bool := false
  skipLinkLocal : Bool := false
  /-- The last option, while its value has not been read: the value, if its word has come. -/
  waiting : Option (Setting × Option String) := none

namespace Draft

/-- A value, unless there is one already. -/
def once {α : Type} (old : Option α) (new : Except ValueError α) :
    Except UsageError (Option α) :=
  match old, new with
  | some _, _ => .error .repeated
  | none, .ok value => .ok (some value)
  | none, .error e => .error (.badValue e)

/-- Reads the value of an option. -/
def put (d : Draft) (s : Setting) (value : String) : Except UsageError Draft :=
  match s with
  | .selector => do return { d with selector := ← once d.selector (Selector.ofText value) }
  | .family => do return { d with family := ← once d.family (FamilyFilter.ofText value) }
  | .verbosity => do return { d with verbosity := ← once d.verbosity (levelOfText value) }

/-- Reads the value of the option that waits for it. -/
def settle (d : Draft) : Except UsageError Draft :=
  match d.waiting with
  | none => .ok d
  | some (_, none) => .error .missingValue
  | some (s, some value) => { d with waiting := none }.put s value

/-- An option with a value in its own word, or one whose value is to come. -/
def takeSetting (d : Draft) (s : Setting) (value? : Option String) : Except UsageError Draft := do
  let d ← d.settle
  match value? with
  | some value => d.put s value
  | none => .ok { d with waiting := some (s, none) }

def takeSwitch (d : Draft) (s : Switch) : Except UsageError Draft := do
  let d ← d.settle
  match s with
  | .multicast => if d.multicast then .error .repeated else .ok { d with multicast := true }
  | .skipLinkLocal =>
    if d.skipLinkLocal then .error .repeated else .ok { d with skipLinkLocal := true }

def takeHelp (d : Draft) : Except UsageError Draft := do
  let _ ← d.settle
  .error .help

/-- The letters after a single dash. -/
def takeLetters (d : Draft) : List Char → Except UsageError Draft
  | [] => .ok d
  | letter :: rest =>
    match Flag.ofLetter? letter with
    | none => .error .unknownArgument
    | some .help => d.takeHelp
    | some (.switch s) => do (← d.takeSwitch s).takeLetters rest
    | some (.setting s) =>
      match rest with
      | [] => d.takeSetting s none
      | '=' :: value => d.takeSetting s (some (String.ofList value))
      | value => d.takeSetting s (some (String.ofList value))

/-- A name after two dashes, with the text behind its equals sign. -/
def takeName (d : Draft) (name : String) (value? : Option String) : Except UsageError Draft :=
  match Flag.ofName? name, value? with
  | none, _ => .error .unknownArgument
  | some (.setting s), value? => d.takeSetting s value?
  | some _, some _ => .error .unexpectedValue
  | some (.switch s), none => d.takeSwitch s
  | some .help, none => d.takeHelp

/-- A word that is no option: the value of the option before it, if that waits for one. -/
def takePlain (d : Draft) (word : String) : Except UsageError Draft :=
  match d.waiting with
  | some (s, none) => .ok { d with waiting := some (s, some word) }
  | _ => .error .unknownArgument

def takeWord (d : Draft) (word : String) : Except UsageError Draft :=
  match word.toList with
  | '-' :: '-' :: text =>
    let name := String.ofList (text.takeWhile (· ≠ '='))
    match text.dropWhile (· ≠ '=') with
    | [] => d.takeName name none
    | _ :: value => d.takeName name (some (String.ofList value))
  | '-' :: letter :: letters => d.takeLetters (letter :: letters)
  | _ => d.takePlain word

/-- Two dashes end the options, and no word may follow them. -/
def takeWords (d : Draft) : List String → Except UsageError Draft
  | [] => d.settle
  | word :: rest =>
    if word = "--" then
      if rest = [] then d.settle else .error .unknownArgument
    else do (← d.takeWord word).takeWords rest

/-- What was not given has its usual value. -/
def finish (d : Draft) : Arguments where
  selector := d.selector
  family := d.family.getD .all
  multicast := d.multicast
  skipLinkLocal := d.skipLinkLocal
  verbosity := d.verbosity.getD (some .warn)

end Draft

/-- The arguments that the words after the program's name denote. -/
def Arguments.parse (words : List String) : Except UsageError Arguments :=
  (Draft.takeWords {} words).map (·.finish)

end InterfaceDump.Listing
