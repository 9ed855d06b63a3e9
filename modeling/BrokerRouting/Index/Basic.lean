import BrokerRouting.Address.Parser
import BrokerRouting.Index.Eviction
import BrokerRouting.Table

namespace BrokerRouting

/-!
# The wildcard index

The index keeps a flat table and the tracked addresses with their links in
step: whatever can be reached at a tracked concrete address is in its own
binding set.  An address nobody is bound to begins to be tracked when
something is sent there and a pattern covers it.

A call that follows links is told in which order to visit the linked texts;
they are visited in the order of code points where no order is named.
-/

/-- Sizes of an index at one moment. -/
structure IndexSizes where
  /-- Live bindings. -/
  bindings : Nat := 0
  /-- Address texts with a binding set. -/
  occupied : Nat := 0
  /-- Tracked concrete addresses. -/
  concrete : Nat := 0
  /-- Tracked patterns. -/
  patterns : Nat := 0
  /-- Links, each counted once. -/
  links : Nat := 0
  deriving Repr, DecidableEq, Inhabited

/-- The number of tracked addresses of both sides. -/
def IndexSizes.tracked (sizes : IndexSizes) : Nat :=
  sizes.concrete + sizes.patterns

/-- A table whose patterns are resolved through tracked links. -/
structure Index where
  tokens : Tokens := {}
  table : Table := {}
  tracking : Tracking := {}
  deriving Repr, DecidableEq

namespace Index

/-- Read an address with the tokens of the index. -/
def parse
    (index : Index)
    (raw : String) :
    Except Refusal Address :=
  Address.parse index.tokens raw

/-- The binding set of an address text. -/
def lookup?
    (index : Index)
    (raw : String) :
    Option Bindings :=
  index.table.lookup? raw

/-- The live binding of a name. -/
def find?
    (index : Index)
    (name : String) :
    Option Binding :=
  index.table.find? name

/-- Whether an address text is tracked on either side. -/
def contains
    (index : Index)
    (raw : String) :
    Bool :=
  index.tracking.tracks ⟨.concrete, raw⟩ ||
    index.tracking.tracks ⟨.pattern, raw⟩

/--
The texts linked to an address text; where both sides track it, those of the
concrete side.
-/
def linked
    (index : Index)
    (raw : String) :
    TextSet :=
  if index.tracking.tracks ⟨.concrete, raw⟩ then
    index.tracking.links ⟨.concrete, raw⟩
  else
    index.tracking.links ⟨.pattern, raw⟩

/-- The sizes of the index. -/
def sizes (index : Index) : IndexSizes where
  bindings := index.table.bindingCount
  occupied := index.table.addressCount
  concrete := index.tracking.concrete.size
  patterns := index.tracking.patterns.size
  links := index.tracking.linkCount

/-- The concrete address a text stands for, if a tracked pattern covers it. -/
def covered?
    (index : Index)
    (raw : String) :
    Option Address :=
  match index.parse raw with
  | .error _ => none
  | .ok address =>
      if !address.hasWildcard && index.tracking.covers address.segments then
        some address
      else
        none

/-- Whether sending to a text would begin to track it. -/
def needsTracking
    (index : Index)
    (raw : String) :
    Bool :=
  !index.table.occupied raw && (index.covered? raw).isSome

/--
The bindings that reach a text, where they can be told without a change: an
occupied text has them in its set, and a text that would not begin to be
tracked has none.
-/
def peek?
    (index : Index)
    (raw : String) :
    Option Bindings :=
  match index.lookup? raw with
  | some bindings => some bindings
  | none => if index.needsTracking raw then none else some ∅

/-- Make a binding live; also says whether its address was occupied before. -/
def bind
    (index : Index)
    (binding : Binding)
    (visiting : Visiting := .ascending) :
    Except Refusal (Bool × Index) :=
  match index.table.add binding with
  | .error refusal => .error refusal
  | .ok (existed, table) =>
      let place := binding.address.place
      let tracking := index.tracking.track binding.address
      let links := visiting.order (tracking.links place)
      let filled :=
        match place.side with
        | .pattern => table.spread binding links
        | .concrete =>
            if index.tracking.tracks place then table
            else table.drawIn place.name links
      .ok (existed, { index with table := filled, tracking })

/--
End the binding of a name.  On a pattern it leaves the linked concrete
addresses as well; on a concrete address that is kept by nothing else the
bindings drawn in leave with it.  Then addresses left without bindings are
evicted.
-/
def unbind
    (index : Index)
    (name : String)
    (visiting : Visiting := .ascending) :
    Except Refusal (Binding × Index) :=
  match index.table.remove name with
  | .error refusal => .error refusal
  | .ok (binding, table) =>
      let place := binding.address.place
      let links := visiting.order (index.tracking.links place)
      let cleared :=
        match place.side with
        | .pattern => table.retract name links
        | .concrete =>
            if place.name ∈ index.tracking.routed ||
                table.ownsBinding place.name
            then table
            else table.release place.name links
      .ok (binding,
        { index with
          table := cleared
          tracking := index.tracking.evict cleared.occupied [place] })

/--
The bindings that reach a text, tracking it from now on if only patterns cover
it.
-/
def route
    (index : Index)
    (raw : String)
    (visiting : Visiting := .ascending) :
    Bindings × Index :=
  match index.lookup? raw with
  | some bindings => (bindings, index)
  | none =>
      match index.covered? raw with
      | none => (∅, index)
      | some address =>
          let tracking := index.tracking.track address
          let links := visiting.order (tracking.links ⟨.concrete, raw⟩)
          let table := index.table.drawIn raw links
          (table.bindingsAt raw,
            { index with table, tracking := tracking.markRouted raw })

/-- End every binding and stop tracking every address. -/
def clear (index : Index) : Index :=
  { index with table := index.table.clear, tracking := {} }

end Index

end BrokerRouting
