import BrokerRouting.Binding

namespace BrokerRouting

/-!
# The flat table

The table keeps every live binding by name and, for every address text, the
set of bindings that can be reached there.  It gives no meaning to wildcards.
No set is empty: the first binding of a text opens its set, and the set is
dropped with its last binding.

Bindings are also copied from text to text.  The set of a concrete address
holds the bindings of the patterns linked to it, so that resolving an address
is one look-up.  A binding made on a pattern is spread to the linked concrete
addresses; a concrete address that begins to be tracked draws in the bindings
of its patterns.  Where several texts are visited, the order in which they are
given counts: of two bindings of one name the later stays.
-/

/-- Live bindings by name and binding sets by address text. -/
structure Table where
  /-- The binding set of each occupied address text. -/
  sets : TextMap Bindings := ∅
  /-- The live bindings. -/
  live : Bindings := ∅
  /-- How often a set was opened for each text since the table was made. -/
  opened : TextMap Nat := ∅
  deriving Repr, DecidableEq

namespace Table

/-- The binding set of an address text. -/
def lookup?
    (table : Table)
    (raw : String) :
    Option Bindings :=
  table.sets[raw]?

/-- The bindings that can be reached at an address text; none without a set. -/
def bindingsAt
    (table : Table)
    (raw : String) :
    Bindings :=
  (table.lookup? raw).getD ∅

/-- Whether an address text has a binding set. -/
def occupied
    (table : Table)
    (raw : String) :
    Bool :=
  table.sets.contains raw

/-- The live binding of a name. -/
def find?
    (table : Table)
    (name : String) :
    Option Binding :=
  table.live[name]?

/-- Put a binding into the set of a text, opening the set if there is none. -/
def put
    (table : Table)
    (raw : String)
    (binding : Binding) :
    Table :=
  { table with
    sets := table.sets.insert raw ((table.bindingsAt raw).add binding)
    opened :=
      if table.occupied raw then table.opened
      else table.opened.insert raw (table.opened.getD raw 0 + 1) }

/-- Only the set at the text changes, and the binding is in it by its name. -/
theorem lookup?_put
    (table : Table)
    (raw other : String)
    (binding : Binding) :
    (table.put raw binding).lookup? other =
      if raw = other then some ((table.bindingsAt raw).add binding)
      else table.lookup? other := by
  simp [put, lookup?, Std.ExtTreeMap.getElem?_insert]

@[simp]
theorem live_put
    (table : Table)
    (raw : String)
    (binding : Binding) :
    (table.put raw binding).live = table.live :=
  rfl

/--
Put several bindings into the set of an address text.  No two of them have one
name, so their order does not count.
-/
def putAll
    (table : Table)
    (raw : String)
    (bindings : Bindings) :
    Table :=
  bindings.contents.foldl (fun table binding => table.put raw binding) table

/-- Take a name out of the set of a text, dropping the set once it is empty. -/
def withdraw
    (table : Table)
    (raw : String)
    (name : String) :
    Table :=
  let left := (table.bindingsAt raw).erase name
  { table with
    sets :=
      if left.isEmpty then table.sets.erase raw
      else table.sets.insert raw left }

/-- Only the set at the text changes; it is gone if nothing is left in it. -/
theorem lookup?_withdraw
    (table : Table)
    (raw other name : String) :
    (table.withdraw raw name).lookup? other =
      if raw = other then
        if ((table.bindingsAt raw).erase name).isEmpty then none
        else some ((table.bindingsAt raw).erase name)
      else
        table.lookup? other := by
  unfold withdraw
  by_cases vacated : ((table.bindingsAt raw).erase name).isEmpty = true
  · simp only [lookup?, vacated, ↓reduceIte, Std.ExtTreeMap.getElem?_erase,
      Std.compare_eq_iff_eq]
  · simp only [lookup?, vacated, Bool.false_eq_true, ↓reduceIte,
      Std.ExtTreeMap.getElem?_insert, Std.compare_eq_iff_eq]

@[simp]
theorem live_withdraw
    (table : Table)
    (raw name : String) :
    (table.withdraw raw name).live = table.live :=
  rfl

/-- Take several names out of the set of an address text. -/
def withdrawAll
    (table : Table)
    (raw : String)
    (bindings : Bindings) :
    Table :=
  bindings.keys.foldl (fun table name => table.withdraw raw name) table

/--
Make a binding live at its own address; also says whether that address was
occupied before.
-/
def add
    (table : Table)
    (binding : Binding) :
    Except Refusal (Bool × Table) :=
  if table.live.contains binding.name then
    .error (.nameTaken binding.name)
  else
    .ok (table.occupied binding.address.raw,
      { table with live := table.live.add binding }.put
        binding.address.raw binding)

/--
End the binding of a name and take it out of the set of its own address.
-/
def remove
    (table : Table)
    (name : String) :
    Except Refusal (Binding × Table) :=
  match table.live[name]? with
  | none => .error (.unknownName name)
  | some binding =>
      .ok (binding,
        { table with live := table.live.erase name }.withdraw
          binding.address.raw name)

/-- End every binding.  The record of opened sets stays. -/
def clear (table : Table) : Table :=
  { table with sets := ∅, live := ∅ }

/-- Put a binding into the sets of several address texts. -/
def spread
    (table : Table)
    (binding : Binding)
    (addresses : List String) :
    Table :=
  addresses.foldl (fun table raw => table.put raw binding) table

/-- Take a name out of the sets of several address texts. -/
def retract
    (table : Table)
    (name : String)
    (addresses : List String) :
    Table :=
  addresses.foldl (fun table raw => table.withdraw raw name) table

/-- Copy all bindings of several patterns into the set of an address text. -/
def drawIn
    (table : Table)
    (raw : String)
    (patterns : List String) :
    Table :=
  patterns.foldl
    (fun table pattern => table.putAll raw (table.bindingsAt pattern)) table

/-- Take all bindings of several patterns out of the set of an address text. -/
def release
    (table : Table)
    (raw : String)
    (patterns : List String) :
    Table :=
  patterns.foldl
    (fun table pattern => table.withdrawAll raw (table.bindingsAt pattern))
    table

/-- Whether the set of a text holds a binding made for that very text. -/
def ownsBinding
    (table : Table)
    (raw : String) :
    Bool :=
  (table.bindingsAt raw).contents.any
    fun binding => binding.address.raw = raw

/-- The number of live bindings. -/
def bindingCount (table : Table) : Nat :=
  table.live.size

/-- The number of address texts with a binding set. -/
def addressCount (table : Table) : Nat :=
  table.sets.size

/-- The text that shows the size of a table. -/
def summary (table : Table) : String :=
  "RoutingTable \x7b addresses: " ++ toString table.addressCount ++
    ", bindings: " ++ toString table.bindingCount ++ " \x7d"

end Table

end BrokerRouting
