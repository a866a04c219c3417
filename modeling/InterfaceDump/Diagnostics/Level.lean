/-! Levels of diagnostic messages. -/
namespace InterfaceDump.Diagnostics

inductive Level where
  | error
  | warn
  | info
  | debug
  | trace
deriving DecidableEq

def Level.text : Level → String
  | error => "ERROR"
  | warn => "WARN"
  | info => "INFO"
  | debug => "DEBUG"
  | trace => "TRACE"

/-- The messages to be shown: none, or those up to a level. -/
abbrev Verbosity := Option Level

namespace Verbosity

def text : Verbosity → String
  | none => "OFF"
  | some level => level.text

/-- The choices, from silent to most verbose. -/
def all : List Verbosity := none :: [.error, .warn, .info, .debug, .trace].map some

/-- The choice with a given text, in letters of either case. -/
def ofText? (s : String) : Option Verbosity := all.find? fun v => v.text == s.toUpper

end Verbosity

end InterfaceDump.Diagnostics
