/-!
# Writing to a sink

A sink takes octets up to some number and then fails, in a way that is its own. What it has taken is
always the start of what was written to it. Whoever writes goes on until the sink fails.
-/

namespace JsonPath.Output

/-- Why a sink takes no more. That a writer was interrupted is no such reason: it tries again. -/
inductive Failure where
  /-- nobody reads what is written -/
  | brokenPipe
  /-- anything else, told apart by numbers -/
  | other (kind : Nat := 0)
deriving Repr, DecidableEq

/-- Where octets are written to. -/
structure Sink where
  /-- what it has taken -/
  octets : Array UInt8
  /-- how many more it takes, if there is a limit -/
  room : Option Nat
  /-- why it takes no more after that -/
  failure : Failure
deriving Repr, DecidableEq

namespace Sink

/-- A sink that takes everything. -/
def unlimited : Sink := ⟨#[], none, .other⟩

/-- A sink that takes so many octets. -/
def limited (room : Nat) (failure : Failure) : Sink := ⟨#[], some room, failure⟩

/-- The octets that the sink still takes of those that are written. -/
def accepted (s : Sink) (octets : List UInt8) : List UInt8 :=
  match s.room with
  | none => octets
  | some n => octets.take n

/-- The sink when octets have been written to it. -/
def take (s : Sink) (octets : List UInt8) : Sink :=
  { s with octets := s.octets ++ s.accepted octets, room := s.room.map (· - octets.length) }

/-- Whether the sink takes all of the octets. -/
def fits (s : Sink) (octets : List UInt8) : Bool := s.room.all (octets.length ≤ ·)

end Sink

/-- Writing to a sink, which may fail. -/
abbrev Write := ExceptT Failure (StateM Sink)

/-- The octets of a text. -/
def encode (text : List Char) : List UInt8 := text.flatMap String.utf8EncodeChar

/-- Writes a text. -/
def put (text : List Char) : Write Unit := do
  let s ← get
  set (s.take (encode text))
  unless s.fits (encode text) do throw s.failure

end JsonPath.Output
