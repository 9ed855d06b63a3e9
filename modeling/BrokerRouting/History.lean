import BrokerRouting.Index.Basic

namespace BrokerRouting

/-!
# Histories

A history lists the calls that can change what is bound or tracked.  Tables
and indexes both run histories from nothing; a call that is refused leaves
them as they were.  A call on an index may also come with the order in which
it visits linked texts.
-/

/-- One call that can change what is bound or tracked. -/
inductive Change where
  | bind (binding : Binding)
  | unbind (name : String)
  /-- Something is sent to an address text. -/
  | route (raw : String)
  | clear
  deriving Repr, DecidableEq

/-- Calls in the order in which they are made. -/
abbrev History := List Change

namespace Change

/--
Whether a binding is made for an address read with some tokens; other calls
always are.
-/
def ReadWith (tokens : Tokens) : Change → Prop
  | .bind binding =>
      Address.parse tokens binding.address.raw = .ok binding.address
  | _ => True

end Change

namespace Table

/-- Make one call.  Sending does not change a table. -/
def apply (table : Table) : Change → Table
  | .bind binding =>
      match table.add binding with
      | .ok (_, next) => next
      | .error _ => table
  | .unbind name =>
      match table.remove name with
      | .ok (_, next) => next
      | .error _ => table
  | .route _ => table
  | .clear => table.clear

/-- The table that a history leaves. -/
def after (history : History) : Table :=
  history.foldl apply {}

end Table

namespace Index

/-- One call on an index and the order in which it visits linked texts. -/
structure Call where
  change : Change
  visiting : Visiting := .ascending

/-- Make one call, visiting linked texts in its order. -/
def make
    (index : Index)
    (call : Call) :
    Index :=
  match call.change with
  | .bind binding =>
      match index.bind binding call.visiting with
      | .ok (_, next) => next
      | .error _ => index
  | .unbind name =>
      match index.unbind name call.visiting with
      | .ok (_, next) => next
      | .error _ => index
  | .route raw => (index.route raw call.visiting).2
  | .clear => index.clear

/-- Make one call. -/
def apply
    (index : Index)
    (change : Change) :
    Index :=
  index.make { change }

/-- The index that calls leave, each with its own order of visiting. -/
def afterCalls
    (tokens : Tokens)
    (calls : List Call) :
    Index :=
  calls.foldl make { tokens }

/-- The index that a history leaves. -/
def after
    (tokens : Tokens)
    (history : History) :
    Index :=
  history.foldl apply { tokens }

end Index

end BrokerRouting
