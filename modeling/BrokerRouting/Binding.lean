import BrokerRouting.Address.Basic
import BrokerRouting.TextMap

namespace BrokerRouting

/-!
# Bindings

A binding sends what reaches an address to a sink.  Its name is unique among
the live bindings.  Where a binding is reachable from further addresses it is
the same value there: it keeps the address it was made for.
-/

/-- A named binding of a sink to an address. -/
structure Binding where
  name : String
  address : Address
  /-- The name of the sink. -/
  target : String
  deriving Repr, DecidableEq, Inhabited

/-- Bindings by name. -/
abbrev Bindings := TextMap Binding

/-- The bindings kept for one address. -/
structure Roster where
  address : Address
  bindings : Bindings := ∅
  deriving Repr, DecidableEq

namespace Binding

/-- The line that shows what a binding is attached to. -/
def summary (binding : Binding) : String :=
  binding.name ++ " -> " ++ binding.address.raw

/-- The text of a binding for a reader who has to see every character. -/
def inspect (binding : Binding) : String :=
  "Binding \x7b unique_name: " ++ Text.quoted binding.name ++
    ", address: " ++ binding.address.inspect ++
    ", target: " ++ Text.quoted binding.target ++ " \x7d"

end Binding

namespace Bindings

/-- Put a binding in under its name, in place of any other of that name. -/
def add
    (bindings : Bindings)
    (binding : Binding) :
    Bindings :=
  bindings.insert binding.name binding

end Bindings

namespace Roster

/-- Put a binding in under its name, in place of any other of that name. -/
def add
    (roster : Roster)
    (binding : Binding) :
    Roster :=
  { roster with bindings := roster.bindings.add binding }

/-- The binding of a name. -/
def find?
    (roster : Roster)
    (name : String) :
    Option Binding :=
  roster.bindings[name]?

/-- Take the binding of a name out. -/
def remove
    (roster : Roster)
    (name : String) :
    Option Binding × Roster :=
  (roster.find? name, { roster with bindings := roster.bindings.erase name })

end Roster

end BrokerRouting
