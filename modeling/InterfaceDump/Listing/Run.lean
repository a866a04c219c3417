import InterfaceDump.Listing.CommandLine
import InterfaceDump.Listing.Outcome

/-! The program, called with the words of a command line.

The words are either read as arguments, and the listing is what these ask for, or they are
answered with the usage text or an error. -/
namespace InterfaceDump.Listing

def usage : String := String.join (List.map (· ++ "\n")
  ["List network interfaces and their addresses",
   "",
   "Usage: lsif [OPTIONS]",
   "",
   "Options:",
   "  -i, --interface <INTERFACE>  Only show this interface, given by name or index",
   "  -f, --family <FAMILY>        Address families to show: all, inet, inet6 or link [default: all]",
   "  -m, --multicast              Only show interfaces that are up, running and multicast-capable",
   "      --skip-link-local        Hide link-local addresses (169.254.0.0/16, fe80::/10)",
   "      --log-level <LOG_LEVEL>  [default: warn]",
   "  -h, --help                   Print help"])

/-- What a usage error leaves behind; asking for the usage text is none. -/
def UsageError.outcome : UsageError → Outcome
  | help => ⟨0, usage, ""⟩
  | badValue e => ⟨2, "", "error: invalid value: " ++ e.message ++ "\n"⟩
  | missingValue => ⟨2, "", "error: a value is required but none was supplied\n"⟩
  | unknownArgument => ⟨2, "", "error: unexpected argument\n"⟩
  | repeated => ⟨2, "", "error: an argument cannot be used multiple times\n"⟩
  | unexpectedValue => ⟨2, "", "error: unexpected value\n"⟩

/-- What the program leaves behind when it is called with the given words. -/
def outcome (query : Query) (words : List String) : Outcome :=
  match Arguments.parse words with
  | .ok args => run query args
  | .error e => e.outcome

end InterfaceDump.Listing
