import BrokerRouting.Router.Basic

namespace BrokerRouting

/-!
# Calls as sequences of writes

Binding and unbinding change several maps one after the other.  Here every
change is a write of its own, in the order in which it is made, and a refusal
takes nothing back that was written before it.
-/

/--
Writes that end in an answer, or in a refusal that keeps what was written so
far.
-/
abbrev Writes (State Answer : Type) := EStateM Refusal State Answer

namespace Writes

variable {Whole Part State Answer : Type}

/-- Carry writes to a part of a state out within the whole. -/
def within
    (writes : Writes Part Answer)
    (whole : Part → Whole)
    (part : Part) :
    EStateM.Result Refusal Whole Answer :=
  match writes part with
  | .ok answer next => .ok answer (whole next)
  | .error refusal left => .error refusal (whole left)

/--
The outcome of a call that is carried out, or else leaves the state as it was.
-/
def allOrNothing (state : State) :
    Except Refusal (Answer × State) → EStateM.Result Refusal State Answer
  | .ok (answer, next) => .ok answer next
  | .error refusal => .error refusal state

end Writes

namespace Table

/-- Make a binding live, then put it into the set of its own address. -/
def writeAdd (binding : Binding) : Writes Table Bool := do
  if (← get).live.contains binding.name then
    throw (.nameTaken binding.name)
  modify fun table => { table with live := table.live.add binding }
  let existed := (← get).occupied binding.address.raw
  modify fun table => table.put binding.address.raw binding
  return existed

/--
End the binding of a name, which may not exist, then take it out of the set of
its address.
-/
def writeRemove (name : String) : Writes Table Binding := do
  let found := (← get).live[name]?
  modify fun table => { table with live := table.live.erase name }
  match found with
  | none => throw (.unknownName name)
  | some binding =>
      modify fun table => table.withdraw binding.address.raw name
      return binding

end Table

namespace Index

/-- Write to the table of an index. -/
def onTable
    {Answer : Type}
    (writes : Writes Table Answer) :
    Writes Index Answer :=
  fun index => writes.within (fun table => { index with table }) index.table

/--
Write a binding to the table, track its address, then copy bindings along the
links.
-/
def writeBind
    (binding : Binding)
    (visiting : Visiting := .ascending) :
    Writes Index Bool := do
  let existed ← onTable (Table.writeAdd binding)
  let place := binding.address.place
  let tracked := (← get).tracking.tracks place
  modify fun index =>
    { index with tracking := index.tracking.track binding.address }
  let links := visiting.order ((← get).tracking.links place)
  match place.side with
  | .pattern =>
      modify fun index =>
        { index with table := index.table.spread binding links }
  | .concrete =>
      unless tracked do
        modify fun index =>
          { index with table := index.table.drawIn place.name links }
  return existed

/--
Remove a binding from the table, take copies out along the links, then evict.
-/
def writeUnbind
    (name : String)
    (visiting : Visiting := .ascending) :
    Writes Index Binding := do
  let binding ← onTable (Table.writeRemove name)
  let place := binding.address.place
  let links := visiting.order ((← get).tracking.links place)
  match place.side with
  | .pattern =>
      modify fun index =>
        { index with table := index.table.retract name links }
  | .concrete =>
      let index ← get
      unless place.name ∈ index.tracking.routed ||
          index.table.ownsBinding place.name do
        modify fun index =>
          { index with table := index.table.release place.name links }
  modify fun index =>
    { index with
      tracking := index.tracking.evict index.table.occupied [place] }
  return binding

end Index

namespace Router

/-- Read the address, then write the binding. -/
def writeBind (raw name target : String) : Writes Router Bool := fun router =>
  match router.parse raw with
  | .error refusal => .error refusal router
  | .ok address =>
      let binding : Binding := { name, address, target }
      match router with
      | .flat tokens table =>
          (Table.writeAdd binding).within (.flat tokens) table
      | .wildcard index =>
          (Index.writeBind binding).within .wildcard index

/-- Write the end of the binding of a name. -/
def writeUnbind (name : String) : Writes Router Binding
  | .flat tokens table =>
      (Table.writeRemove name).within (.flat tokens) table
  | .wildcard index =>
      (Index.writeUnbind name).within .wildcard index

end Router

end BrokerRouting
