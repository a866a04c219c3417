import InterfaceDump.Text.Hex
import InterfaceDump.Text.Printable

/-! Quoted text.

A text is shown between double quotes. Quotes and backslashes inside it, line
and tab controls and NUL are written with a backslash; any other character
without a shape of its own is written by its code point in hexadecimal. An
apostrophe needs no escape. -/
namespace InterfaceDump.Text.Quoted

/-- One character as it stands between the quotes. -/
def escape (c : Char) : String :=
  match c with
  | '"' => "\\\""
  | '\\' => "\\\\"
  | '\n' => "\\n"
  | '\r' => "\\r"
  | '\t' => "\\t"
  | '\x00' => "\\0"
  | c => if Printable.isHidden c then "\\u\x7b" ++ Hex.ofNat c.toNat ++ "\x7d" else c.toString

def quote (s : String) : String := "\"" ++ String.join (s.toList.map escape) ++ "\""

end InterfaceDump.Text.Quoted
