import InterfaceDump.Dump.Basic

/-! Walking a dump in steps.

A session holds a cursor, which can be set to any offset, and an iterator, which
hands out the interfaces one after the other and can be started afresh. Neither
moves the other. -/
namespace InterfaceDump

structure Session where
  dump : Dump
  cursor : Nat
  /-- Where the iterator looks for its next interface. -/
  upcoming : Nat
deriving DecidableEq

namespace Session

/-- Cursor and iterator both at the first interface. -/
def start (d : Dump) : Session := ⟨d, d.startPosition, d.startPosition⟩

inductive Step where
  | toStart
  | toEnd
  | seek (offset : Nat)
  /-- Move the cursor to the interface after it. -/
  | after
  /-- Look at the interface at the cursor. -/
  | look
  /-- Take the iterator's next interface. -/
  | next
  /-- Start the iterator afresh. -/
  | rewind
deriving DecidableEq

inductive Answer where
  | moved (position : Nat)
  | seen (interface? : Option Interface)
  | rewound
deriving DecidableEq

def moveTo (s : Session) (position : Nat) : Session × Answer :=
  ({ s with cursor := position }, .moved position)

def step (s : Session) : Step → Session × Answer
  | .toStart => s.moveTo s.dump.startPosition
  | .toEnd => s.moveTo s.dump.endPosition
  | .seek offset => s.moveTo offset
  | .after => s.moveTo (s.dump.positionAfter s.cursor)
  | .look => (s, .seen (s.dump.interfaceAt? s.cursor))
  | .next =>
    match s.dump.interfaceAt? s.upcoming with
    | some i => ({ s with upcoming := i.stop }, .seen (some i))
    | none => (s, .seen none)
  | .rewind => ({ s with upcoming := s.dump.startPosition }, .rewound)

/-- The answers to a list of steps, and the session after them. -/
def run (s : Session) : List Step → Session × List Answer
  | [] => (s, [])
  | step :: rest =>
    let (s, answer) := s.step step
    let (s, answers) := s.run rest
    (s, answer :: answers)

end Session

end InterfaceDump
