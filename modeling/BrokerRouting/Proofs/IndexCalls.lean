import BrokerRouting.History

namespace BrokerRouting

/-!
# What each call does to an index

Binding and unbinding are split into the refusal and the two halves of the
new state, the table and the tracked addresses.  Invariants are then proved
for each half on its own, and carried over a whole history once.
-/

namespace Index

variable
  {index : Index}
  {visiting : Visiting}

/-- The table once a binding is live and in its own set. -/
def added
    (index : Index)
    (binding : Binding) :
    Table :=
  { index.table with live := index.table.live.add binding }.put
    binding.address.raw binding

/-- The table once a new binding has also followed the links. -/
def filled
    (index : Index)
    (binding : Binding)
    (visiting : Visiting := .ascending) :
    Table :=
  let place := binding.address.place
  let links :=
    visiting.order ((index.tracking.track binding.address).links place)
  match place.side with
  | .pattern => (index.added binding).spread binding links
  | .concrete =>
      if index.tracking.tracks place then index.added binding
      else (index.added binding).drawIn place.name links

/-- The table once a binding has ended and left its own set. -/
def removed
    (index : Index)
    (name : String)
    (binding : Binding) :
    Table :=
  { index.table with live := index.table.live.erase name }.withdraw
    binding.address.raw name

/-- The table once an ended binding has also left the links. -/
def emptied
    (index : Index)
    (name : String)
    (binding : Binding)
    (visiting : Visiting := .ascending) :
    Table :=
  let place := binding.address.place
  let links := visiting.order (index.tracking.links place)
  let table := index.removed name binding
  match place.side with
  | .pattern => table.retract name links
  | .concrete =>
      if place.name ∈ index.tracking.routed || table.ownsBinding place.name
      then table
      else table.release place.name links

/-- The index once a new binding is in its table and its address tracked. -/
def bound
    (index : Index)
    (binding : Binding)
    (visiting : Visiting := .ascending) :
    Index :=
  { index with
    table := index.filled binding visiting
    tracking := index.tracking.track binding.address }

/-- The index once a binding has ended and what is vacant is evicted. -/
def ended
    (index : Index)
    (name : String)
    (binding : Binding)
    (visiting : Visiting := .ascending) :
    Index :=
  { index with
    table := index.emptied name binding visiting
    tracking :=
      index.tracking.evict (index.emptied name binding visiting).occupied
        [binding.address.place] }

/-- The index once a text is tracked because something was sent there. -/
def sentTo
    (index : Index)
    (raw : String)
    (address : Address)
    (visiting : Visiting := .ascending) :
    Index :=
  { index with
    table :=
      index.table.drawIn raw
        (visiting.order
          ((index.tracking.track address).links ⟨.concrete, raw⟩))
    tracking := (index.tracking.track address).markRouted raw }

/-- A binding is refused exactly for a taken name. -/
theorem bind_eq
    (index : Index)
    (binding : Binding)
    (visiting : Visiting) :
    index.bind binding visiting =
      if index.table.live.contains binding.name then
        .error (.nameTaken binding.name)
      else
        .ok (index.table.occupied binding.address.raw,
          index.bound binding visiting) := by
  unfold bind Table.add
  cases index.table.live.contains binding.name <;> rfl

/-- Unbinding is refused exactly for an unknown name. -/
theorem unbind_eq
    (index : Index)
    (name : String)
    (visiting : Visiting) :
    index.unbind name visiting =
      match index.table.live[name]? with
      | none => .error (.unknownName name)
      | some binding =>
          .ok (binding, index.ended name binding visiting) := by
  unfold unbind Table.remove
  cases index.table.live[name]? <;> rfl

theorem route_of_occupied
    {raw : String}
    {bindings : Bindings}
    (found : index.lookup? raw = some bindings) :
    index.route raw visiting = (bindings, index) := by
  simp [route, found]

/-- A text that no pattern covers and nobody is bound to reaches nothing. -/
theorem route_of_uncovered
    {raw : String}
    (vacant : index.lookup? raw = none)
    (uncovered : index.covered? raw = none) :
    index.route raw visiting = (∅, index) := by
  simp [route, vacant, uncovered]

/-- A covered text begins to be tracked. -/
theorem route_of_covered
    {raw : String}
    {address : Address}
    (vacant : index.lookup? raw = none)
    (covered : index.covered? raw = some address) :
    (index.route raw visiting).2 =
      index.sentTo raw address visiting := by
  simp [route, vacant, covered, sentTo]

/-- Whether tracked or not, a text is resolved by the set it ends up with. -/
theorem route_fst
    (index : Index)
    (raw : String)
    (visiting : Visiting) :
    (index.route raw visiting).1 =
      (index.route raw visiting).2.table.bindingsAt raw := by
  cases found : index.lookup? raw with
  | some bindings =>
      rw [route_of_occupied found]
      exact (congrArg (fun held => held.getD ∅) found).symm
  | none =>
      cases covered : index.covered? raw with
      | none =>
          rw [route_of_uncovered found covered]
          exact (congrArg (fun held => held.getD ∅) found).symm
      | some address =>
          simp [route, found, covered]

/--
What one call makes of an index, refused calls included.  Linked texts may be
visited in any order.
-/
inductive Step (index : Index) : Change → Index → Prop where
  | bindTaken (binding : Binding) :
      index.table.live.contains binding.name = true →
      Step index (.bind binding) index
  | bind (binding : Binding) (visiting : Visiting) :
      index.table.live[binding.name]? = none →
      Step index (.bind binding) (index.bound binding visiting)
  | unbindUnknown (name : String) :
      index.table.live[name]? = none →
      Step index (.unbind name) index
  | unbind {name : String} {binding : Binding} (visiting : Visiting) :
      index.table.live[name]? = some binding →
      Step index (.unbind name) (index.ended name binding visiting)
  | routeSettled (raw : String) :
      (index.lookup? raw = none → index.covered? raw = none) →
      Step index (.route raw) index
  | route {raw : String} {address : Address} (visiting : Visiting) :
      index.lookup? raw = none →
      index.covered? raw = some address →
      Step index (.route raw) (index.sentTo raw address visiting)
  | clear :
      Step index .clear index.clear

/-- Every call is one of the steps, whatever its order of visiting. -/
theorem step_make
    (index : Index)
    (call : Call) :
    Step index call.change (index.make call) := by
  rcases call with ⟨change, visiting⟩
  cases change with
  | bind binding =>
      cases taken : index.table.live.contains binding.name with
      | true =>
          have unchanged :
              index.make ⟨.bind binding, visiting⟩ = index := by
            simp [make, bind_eq, taken]
          rw [unchanged]
          exact .bindTaken binding taken
      | false =>
          simp only [make, bind_eq, taken, Bool.false_eq_true, ↓reduceIte]
          exact .bind binding visiting
            (Std.ExtTreeMap.getElem?_eq_none_of_contains_eq_false taken)
  | unbind name =>
      cases found : index.table.live[name]? with
      | none =>
          simp only [make, unbind_eq, found]
          exact .unbindUnknown name found
      | some binding =>
          simp only [make, unbind_eq, found]
          exact .unbind visiting found
  | route raw =>
      simp only [make]
      cases found : index.lookup? raw with
      | some bindings =>
          rw [route_of_occupied found]
          refine .routeSettled raw fun vacant => ?_
          cases vacant.symm.trans found
      | none =>
          cases covered : index.covered? raw with
          | none =>
              rw [route_of_uncovered found covered]
              exact .routeSettled raw fun _ => covered
          | some address =>
              rw [route_of_covered found covered]
              exact .route visiting found covered
  | clear =>
      exact .clear

theorem step_apply
    (index : Index)
    (change : Change) :
    Step index change (index.apply change) :=
  step_make index { change }

/-- A history can be interrupted anywhere. -/
theorem after_append
    (tokens : Tokens)
    (earlier later : History) :
    Index.after tokens (earlier ++ later) =
      later.foldl apply (Index.after tokens earlier) := by
  simp [after]

/-- A history is a list of calls that visit texts by code point. -/
theorem after_eq_afterCalls
    (tokens : Tokens)
    (history : History) :
    Index.after tokens history =
      afterCalls tokens (history.map fun change => { change }) := by
  rw [afterCalls, List.foldl_map]
  rfl

/-- What every step preserves, calls preserve in any order of visiting. -/
theorem afterCalls_of_invariant
    (Invariant : Index → Prop)
    (Allowed : Change → Prop)
    {tokens : Tokens}
    (start : Invariant { tokens })
    (preserved :
      ∀ {index next change},
        Step index change next →
        Invariant index →
        Allowed change →
        Invariant next)
    {calls : List Call}
    (allowed : ∀ call ∈ calls, Allowed call.change) :
    Invariant (afterCalls tokens calls) := by
  unfold afterCalls
  generalize ({ tokens } : Index) = index at start
  induction calls generalizing index with
  | nil =>
      exact start
  | cons call rest inductionHypothesis =>
      exact inductionHypothesis
        (fun later member => allowed later (by simp [member]))
        (index.make call)
        (preserved (step_make index call) start (allowed call (by simp)))

/-- What every step preserves, a whole history preserves. -/
theorem after_of_invariant
    (Invariant : Index → Prop)
    (Allowed : Change → Prop)
    {tokens : Tokens}
    (start : Invariant { tokens })
    (preserved :
      ∀ {index next change},
        Step index change next →
        Invariant index →
        Allowed change →
        Invariant next)
    {history : History}
    (allowed : ∀ change ∈ history, Allowed change) :
    Invariant (Index.after tokens history) := by
  rw [after_eq_afterCalls]
  apply afterCalls_of_invariant Invariant Allowed start preserved
  intro call member
  obtain ⟨change, listed, rfl⟩ := List.mem_map.mp member
  exact allowed change listed

end Index

end BrokerRouting
