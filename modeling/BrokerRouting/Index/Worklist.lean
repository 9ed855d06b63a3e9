import BrokerRouting.Index.Basic

namespace BrokerRouting

/-!
# Eviction by a worklist

Eviction can also be carried out with a stack of pending places and nothing
else to remember.  Every pass takes the top place off.  If the place is vacant
its entry goes, and its neighbours are visited in whatever order they come:
each loses its link back and is pushed.  The graph is pruned while it is
walked, and a place may be pending many times.
-/

namespace Tracking

/--
Drop the entry of a place.  The links that lead to it stay, and so does its
text if routed.
-/
def drop
    (tracking : Tracking)
    (place : Place) :
    Tracking :=
  tracking.update place.side ((tracking.on place.side).erase place.name)

/--
Cut the link to a place that a name across from it keeps; nothing if that name
is untracked.
-/
def cut
    (place : Place)
    (tracking : Tracking)
    (name : String) :
    Tracking :=
  tracking.update place.side.opposite
    ((tracking.on place.side.opposite).modify name fun other =>
      { other with links := other.links.erase place.name })

/-- Forget that something was sent to a text. -/
def unmarkRouted
    (tracking : Tracking)
    (raw : String) :
    Tracking :=
  { tracking with routed := tracking.routed.erase raw }

end Tracking

/-- An eviction under way. -/
structure Worklist where
  index : Index
  /-- The places to be looked at, the top of the stack first. -/
  pending : List Place
  deriving Repr, DecidableEq

namespace Worklist

/-- Change what is tracked and leave the rest as it is. -/
def retrack
    (worklist : Worklist)
    (change : Tracking → Tracking) :
    Worklist :=
  { worklist with
    index :=
      { worklist.index with tracking := change worklist.index.tracking } }

/-- Visit one neighbour of a place: cut its link back and push it. -/
def visit
    (place : Place)
    (worklist : Worklist)
    (name : String) :
    Worklist :=
  { worklist.retrack fun tracking => tracking.cut place name with
    pending := ⟨place.side.opposite, name⟩ :: worklist.pending }

/-- Forget a place, visiting its neighbours in some order. -/
def forget
    (worklist : Worklist)
    (place : Place)
    (order : List String) :
    Worklist :=
  let dropped := worklist.retrack fun tracking => tracking.drop place
  let visited := order.foldl (visit place) dropped
  visited.retrack fun tracking => tracking.unmarkRouted place.name

/-- One pass: what becomes of the place on top of the stack. -/
inductive Pass : Worklist → Worklist → Prop where
  /-- The place has a binding set and stays. -/
  | occupied
      {index : Index}
      {place : Place}
      {rest : List Place} :
      index.table.occupied place.name = true →
      Pass ⟨index, place :: rest⟩ ⟨index, rest⟩
  /-- The place is not tracked, perhaps no longer. -/
  | untracked
      {index : Index}
      {place : Place}
      {rest : List Place} :
      index.table.occupied place.name = false →
      index.tracking.tracks place = false →
      Pass ⟨index, place :: rest⟩ ⟨index, rest⟩
  /--
  The place is vacant and is forgotten.  Any order of its neighbours will do.
  -/
  | vacant
      {index : Index}
      {place : Place}
      {rest : List Place}
      {order : List String} :
      index.table.occupied place.name = false →
      index.tracking.tracks place = true →
      order.Perm (index.tracking.links place).toList →
      Pass ⟨index, place :: rest⟩ (forget ⟨index, rest⟩ place order)

/-- A number of passes, one after another. -/
inductive Passes : Nat → Worklist → Worklist → Prop where
  | none (worklist : Worklist) : Passes 0 worklist worklist
  | next
      {count : Nat}
      {first second last : Worklist} :
      first.Pass second →
      Passes count second last →
      Passes (count + 1) first last

/-- The index with everything evicted that the pending places lead to. -/
def outcome (worklist : Worklist) : Index :=
  { worklist.index with
    tracking :=
      worklist.index.tracking.evict worklist.index.table.occupied
        worklist.pending }

/-- The number of tracked places, then that of pending ones. -/
def rank (worklist : Worklist) : Nat × Nat :=
  (worklist.index.tracking.size, worklist.pending.length)

/-- The places that are pending, and those that links may still make pending. -/
def budget (worklist : Worklist) : Nat :=
  worklist.pending.length + worklist.index.tracking.linkCount

end Worklist

/-- The eviction that starts from one address. -/
def Index.evictionFrom
    (index : Index)
    (address : Address) :
    Worklist where
  index := index
  pending := [address.place]

end BrokerRouting
