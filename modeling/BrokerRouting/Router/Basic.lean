import BrokerRouting.Index.Basic

namespace BrokerRouting

/-!
# Routers

A router resolves addresses for its callers, who name them by text.  With
wildcard routing it keeps the index; without, every text is one plain name and
the flat table is enough.  The index only gets addresses that were read with
its own tokens, so it makes no difference in which order it follows links.
-/

/-- How a router reads addresses. -/
structure RouterConfig where
  wildcardRouting : Bool := true
  tokens : Tokens := {}
  deriving Repr, DecidableEq, Inhabited

/-- Refuse tokens that cannot be told apart. -/
def Tokens.validate (tokens : Tokens) : Except Refusal Unit :=
  match tokens.conflict? with
  | some conflict => .error (.conflictingTokens conflict)
  | none => .ok ()

/--
Refuse tokens that cannot be told apart, unless nothing is read with them.
-/
def RouterConfig.validate (config : RouterConfig) : Except Refusal Unit :=
  if config.wildcardRouting then config.tokens.validate else .ok ()

/-- A table of plain names or an index of patterns. -/
inductive Router where
  | flat (tokens : Tokens) (table : Table)
  | wildcard (index : Index)
  deriving Repr, DecidableEq

namespace Router

/-- A router without bindings, whatever its tokens. -/
def empty (config : RouterConfig) : Router :=
  if config.wildcardRouting then .wildcard { tokens := config.tokens }
  else .flat config.tokens {}

/-- A router without bindings, for a configuration that passes its check. -/
def create (config : RouterConfig) : Except Refusal Router :=
  match config.validate with
  | .error refusal => .error refusal
  | .ok () => .ok (empty config)

/-- The configuration a router was made with. -/
def config : Router → RouterConfig
  | .flat tokens _ => { wildcardRouting := false, tokens }
  | .wildcard index => { wildcardRouting := true, tokens := index.tokens }

/-- The table that holds the bindings. -/
def table : Router → Table
  | .flat _ table => table
  | .wildcard index => index.table

/-- Read an address the way the router understands it. -/
def parse
    (router : Router)
    (raw : String) :
    Except Refusal Address :=
  match router with
  | .flat _ _ => Address.literal raw
  | .wildcard index => index.parse raw

/-- Make a binding live; also says whether its address was occupied before. -/
def bind
    (router : Router)
    (raw name target : String) :
    Except Refusal (Bool × Router) :=
  match router.parse raw with
  | .error refusal => .error refusal
  | .ok address =>
      let binding : Binding := { name, address, target }
      match router with
      | .flat tokens table =>
          (table.add binding).map
            fun (existed, next) => (existed, .flat tokens next)
      | .wildcard index =>
          (index.bind binding).map
            fun (existed, next) => (existed, .wildcard next)

/-- End the binding of a name. -/
def unbind
    (router : Router)
    (name : String) :
    Except Refusal (Binding × Router) :=
  match router with
  | .flat tokens table =>
      (table.remove name).map
        fun (binding, next) => (binding, .flat tokens next)
  | .wildcard index =>
      (index.unbind name).map
        fun (binding, next) => (binding, .wildcard next)

/--
The bindings that reach a text.  The index changes only where they cannot be
told otherwise.
-/
def route
    (router : Router)
    (raw : String) :
    Bindings × Router :=
  match router with
  | .flat _ table => (table.bindingsAt raw, router)
  | .wildcard index =>
      match index.peek? raw with
      | some bindings => (bindings, router)
      | none =>
          let (bindings, next) := index.route raw
          (bindings, .wildcard next)

/-- The live binding of a name. -/
def find?
    (router : Router)
    (name : String) :
    Option Binding :=
  router.table.find? name

/--
Whether an address text is known: occupied in the table, tracked in the index.
-/
def contains
    (router : Router)
    (raw : String) :
    Bool :=
  match router with
  | .flat _ table => table.occupied raw
  | .wildcard index => index.contains raw

/-- The texts linked to an address text; a flat table has no links. -/
def linked
    (router : Router)
    (raw : String) :
    TextSet :=
  match router with
  | .flat _ _ => ∅
  | .wildcard index => index.linked raw

/--
The sizes of the router; in a flat table every occupied text counts as
concrete.
-/
def sizes (router : Router) : IndexSizes :=
  match router with
  | .flat _ table =>
      { bindings := table.bindingCount
        occupied := table.addressCount
        concrete := table.addressCount }
  | .wildcard index => index.sizes

/-- End every binding. -/
def clear : Router → Router
  | .flat tokens table => .flat tokens table.clear
  | .wildcard index => .wildcard index.clear

end Router

end BrokerRouting
