/-! The inspection text of structured values.

A value that is a list, a constructor applied to arguments or a record with
named fields is shown on one line from the texts of its parts. -/
namespace InterfaceDump.Text.Inspect

/-- The texts `[a, b]` of a list. -/
def list (items : List String) : String := "[" ++ ", ".intercalate items ++ "]"

/-- The text `Name(a)` of a constructor with one argument. -/
def applied (name argument : String) : String := name ++ "(" ++ argument ++ ")"

/-- The text of a record: its name, then each field with its value, in order. -/
def record (name : String) (fields : List (String × String)) : String :=
  name ++ " \x7b " ++ ", ".intercalate (fields.map fun f => f.1 ++ ": " ++ f.2) ++ " \x7d"

end InterfaceDump.Text.Inspect
