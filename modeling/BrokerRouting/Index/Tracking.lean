import BrokerRouting.Address.Basic
import BrokerRouting.TextMap

namespace BrokerRouting

/-!
# Tracked addresses and their links

Concrete addresses and patterns are tracked on two sides.  A pattern and a
concrete address it covers are linked, and both keep the link.  Links are
computed when an address is first tracked and cut when either end is forgotten.
-/

/-- What is kept under the text of a tracked address. -/
structure Tracked where
  segments : Segments
  /-- The texts linked to it on the other side. -/
  links : TextSet := ∅
  deriving Repr, DecidableEq

/-- An address text on one side. -/
structure Place where
  side : Side
  name : String
  deriving Repr, DecidableEq

/-- The place where an address is tracked. -/
def Address.place (address : Address) : Place where
  side := address.side
  name := address.raw

/--
Whether an address is linked to segments of the other side: the pattern covers
the concrete.
-/
def Address.meets
    (address : Address)
    (other : Segments) :
    Bool :=
  match address.side with
  | .pattern => address.segments.covers other
  | .concrete => other.covers address.segments

/-- All tracked addresses. -/
structure Tracking where
  concrete : TextMap Tracked := ∅
  patterns : TextMap Tracked := ∅
  /-- Concrete addresses first tracked because something was sent there. -/
  routed : TextSet := ∅
  deriving Repr, DecidableEq

namespace Tracking

/-- The tracked addresses of one side. -/
def on (tracking : Tracking) : Side → TextMap Tracked
  | .concrete => tracking.concrete
  | .pattern => tracking.patterns

/-- Replace the tracked addresses of one side. -/
def update
    (tracking : Tracking)
    (side : Side)
    (entries : TextMap Tracked) :
    Tracking :=
  match side with
  | .concrete => { tracking with concrete := entries }
  | .pattern => { tracking with patterns := entries }

@[simp]
theorem on_update_same
    (tracking : Tracking)
    (side : Side)
    (entries : TextMap Tracked) :
    (tracking.update side entries).on side = entries := by
  cases side <;> rfl

@[simp]
theorem on_update_opposite
    (tracking : Tracking)
    (side : Side)
    (entries : TextMap Tracked) :
    (tracking.update side entries).on side.opposite =
      tracking.on side.opposite := by
  cases side <;> rfl

/-- Whether a place is tracked. -/
def tracks
    (tracking : Tracking)
    (place : Place) :
    Bool :=
  (tracking.on place.side).contains place.name

/-- The texts linked to a place; none if it is not tracked. -/
def links
    (tracking : Tracking)
    (place : Place) :
    TextSet :=
  match (tracking.on place.side)[place.name]? with
  | some entry => entry.links
  | none => ∅

/-- The places linked to a place. -/
def neighbours
    (tracking : Tracking)
    (place : Place) :
    List Place :=
  (tracking.links place).toList.map fun name => ⟨place.side.opposite, name⟩

/-- The number of tracked addresses. -/
def size (tracking : Tracking) : Nat :=
  tracking.concrete.size + tracking.patterns.size

/-- The number of links, each counted once. -/
def linkCount (tracking : Tracking) : Nat :=
  tracking.concrete.contents.foldr
    (fun entry total => entry.links.size + total) 0

/-- Whether some tracked pattern covers a row of segments. -/
def covers
    (tracking : Tracking)
    (segments : Segments) :
    Bool :=
  tracking.patterns.contents.any fun pattern => pattern.segments.covers segments

/--
Track an address, linked to all that it meets.  Nothing changes if it is
tracked already.
-/
def track
    (tracking : Tracking)
    (address : Address) :
    Tracking :=
  if tracking.tracks address.place then tracking
  else
    let others := tracking.on address.side.opposite
    let links := others.namesWhere fun other => address.meets other.segments
    let own :=
      (tracking.on address.side).insert address.raw
        { segments := address.segments, links }
    let met := others.map fun _ other =>
      if address.meets other.segments then
        { other with links := other.links.insert address.raw }
      else
        other
    (tracking.update address.side own).update address.side.opposite met

/--
Remember that something was sent to a concrete address before anyone was bound
there.
-/
def markRouted
    (tracking : Tracking)
    (raw : String) :
    Tracking :=
  { tracking with routed := tracking.routed.insert raw }

/-- Stop tracking a place and cut its links. -/
def forget
    (tracking : Tracking)
    (place : Place) :
    Tracking :=
  let own := (tracking.on place.side).erase place.name
  let cut := (tracking.on place.side.opposite).map fun name other =>
    if name ∈ tracking.links place then
      { other with links := other.links.erase place.name }
    else
      other
  { (tracking.update place.side own).update place.side.opposite cut with
    routed := tracking.routed.erase place.name }

/-- Forgetting a tracked place leaves fewer tracked addresses. -/
theorem size_forget_lt
    {tracking : Tracking}
    {place : Place}
    (tracked : tracking.tracks place = true) :
    (tracking.forget place).size < tracking.size := by
  obtain ⟨side, name⟩ := place
  cases side with
  | concrete =>
      have fewer :
          (tracking.concrete.erase name).size < tracking.concrete.size :=
        TextMap.size_erase_lt tracked
      simp only [forget, update, on, size, Side.opposite,
        Std.ExtTreeMap.size_map]
      omega
  | pattern =>
      have fewer :
          (tracking.patterns.erase name).size < tracking.patterns.size :=
        TextMap.size_erase_lt tracked
      simp only [forget, update, on, size, Side.opposite,
        Std.ExtTreeMap.size_map]
      omega

end Tracking

end BrokerRouting
