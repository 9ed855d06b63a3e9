import BrokerRouting.Refusal
import BrokerRouting.Segment
import BrokerRouting.Text.Printable

namespace BrokerRouting

/-!
# Addresses

An address keeps the text it was read from beside its segments.  The text is
its identity wherever addresses are looked up; the segments decide what it
covers.
-/

/-- The text of an address and the segments it stands for. -/
structure Address where
  raw : String
  segments : Segments
  deriving Repr, DecidableEq, Inhabited

/--
The two kinds of addresses: those that name one place, and those that cover
many.
-/
inductive Side where
  | concrete
  | pattern
  deriving Repr, DecidableEq

namespace Side

/-- The other kind. -/
def opposite : Side → Side
  | .concrete => .pattern
  | .pattern => .concrete

@[simp]
theorem opposite_opposite (side : Side) : side.opposite.opposite = side := by
  cases side <;> rfl

end Side

namespace Address

/-- The whole text taken as one given word; only the empty text is refused. -/
def literal (raw : String) : Except Refusal Address :=
  if raw = "" then .error (.malformed raw .emptySegment)
  else .ok { raw, segments := [.literal raw] }

/-- Whether some segment leaves its words open. -/
def hasWildcard (address : Address) : Bool :=
  address.segments.hasWildcard

/-- Patterns leave some segment open, concrete addresses none. -/
def side (address : Address) : Side :=
  if address.hasWildcard then .pattern else .concrete

/-- Whether the address, taken as a pattern, covers another. -/
def covers (pattern candidate : Address) : Bool :=
  pattern.segments.covers candidate.segments

/-- Whether two addresses are looked up under the same text. -/
def sameText (first second : Address) : Bool :=
  first.raw = second.raw

/-- The text of an address for a reader who has to see every character. -/
def inspect (address : Address) : String :=
  "Address(" ++ Text.quoted address.raw ++ ")"

end Address

end BrokerRouting
