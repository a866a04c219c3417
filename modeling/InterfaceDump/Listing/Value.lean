import InterfaceDump.Address.Family
import InterfaceDump.Diagnostics.Level
import InterfaceDump.Text.Inspect
import InterfaceDump.Text.Quoted

/-! The values of command-line options.

An interface is given by index or by name, and a number is always an index. The
number may have a plus sign and leading zeros; a number too large for an index is
a name like any other text. Zero is no index and no name, because no interface
ever has it. -/
namespace InterfaceDump.Listing
open Diagnostics Text

inductive ValueError where
  | missingInterface
  | zeroIndex
  | unknownFamily (text : String)
  | unknownLevel
deriving DecidableEq

def ValueError.message : ValueError → String
  | missingInterface => "missing interface name or index"
  | zeroIndex => "interface index 0 is never assigned"
  | unknownFamily text => s!"invalid address family: {text}"
  | unknownLevel => "attempted to convert a string that doesn't match an existing log level"

/-! ### Selecting an interface -/

inductive Selector where
  | byIndex (index : UInt32)
  | byName (name : String)
deriving DecidableEq

/-- The number that decimal digits denote; there must be at least one. -/
def ofDigits? (digits : List Char) : Option Nat :=
  if digits ≠ [] ∧ digits.all (·.isDigit) then
    some (digits.foldl (fun n c => 10 * n + (c.toNat - '0'.toNat)) 0)
  else none

/-- The number a text denotes: digits after an optional plus sign, below 2^32. -/
def index? (s : String) : Option UInt32 := do
  let digits := match s.toList with
    | '+' :: rest => rest
    | digits => digits
  let n ← ofDigits? digits
  if n < UInt32.size then some (UInt32.ofNat n) else none

def Selector.ofText (s : String) : Except ValueError Selector :=
  if s = "" then .error .missingInterface
  else match index? s with
    | some index => if index = 0 then .error .zeroIndex else .ok (.byIndex index)
    | none => .ok (.byName s)

def Selector.inspect : Selector → String
  | byIndex index => Inspect.applied "Index" (toString index.toNat)
  | byName name => Inspect.applied "Name" (Quoted.quote name)

/-! ### Filtering by family -/

inductive FamilyFilter where
  | all
  | inet
  | inet6
  | link
deriving DecidableEq

namespace FamilyFilter

def ofText : String → Except ValueError FamilyFilter
  | "all" => .ok all
  | "inet" | "ipv4" | "4" => .ok inet
  | "inet6" | "ipv6" | "6" => .ok inet6
  | "link" | "ether" => .ok link
  | text => .error (.unknownFamily text)

def text : FamilyFilter → String
  | all => "All"
  | inet => "Inet"
  | inet6 => "Inet6"
  | link => "Link"

def shows : FamilyFilter → Family → Bool
  | all, _ => true
  | inet, family => family == .inet
  | inet6, family => family == .inet6
  | link, family => family == .link

end FamilyFilter

/-! ### Verbosity -/

def levelOfText (s : String) : Except ValueError Verbosity :=
  match Verbosity.ofText? s with
  | some verbosity => .ok verbosity
  | none => .error .unknownLevel

end InterfaceDump.Listing
