import BrokerRouting.History
import BrokerRouting.Router.Request

namespace BrokerRouting

/-!
# The ledger of live bindings

The ledger is what a history means: the bindings made since the last clearing,
less those ended.  It has no sets, links or tracked addresses.  What reaches a
text is found by going through all live bindings.
-/

/-- Live bindings by name. -/
abbrev Ledger := Bindings

namespace Ledger

/-- Enter one call.  A name that is taken keeps its binding. -/
def record (ledger : Ledger) : Change → Ledger
  | .bind binding =>
      if ledger.contains binding.name then ledger else ledger.add binding
  | .unbind name => ledger.erase name
  | .route _ => ledger
  | .clear => ∅

/-- The live bindings that a history leaves. -/
def after (history : History) : Ledger :=
  history.foldl record ∅

/-- The live bindings made for exactly this text. -/
def boundTo
    (ledger : Ledger)
    (raw : String) :
    Bindings :=
  ledger.filter fun _ binding => binding.address.raw = raw

end Ledger

/--
Whether a binding reaches an address: it was made for the same text, or on a
pattern that covers the address while that is concrete.
-/
def Binding.reaches
    (binding : Binding)
    (address : Address) :
    Bool :=
  binding.address.sameText address ||
    (!address.hasWildcard && binding.address.hasWildcard &&
      binding.address.covers address)

/--
The live bindings that reach a text; none reaches a text that is no address.
-/
def Ledger.reaching
    (tokens : Tokens)
    (ledger : Ledger)
    (raw : String) :
    Bindings :=
  match Address.parse tokens raw with
  | .error _ => ∅
  | .ok address => ledger.filter fun _ binding => binding.reaches address

/--
Whether a binding reaches a text under a configuration: it was made for that
very text or, with wildcard routing, on a pattern that covers the concrete
address the text is read as.
-/
def RouterConfig.reaches
    (config : RouterConfig)
    (raw : String)
    (binding : Binding) :
    Bool :=
  binding.address.raw = raw ||
    (config.wildcardRouting &&
      match Address.parse config.tokens raw with
      | .error _ => false
      | .ok address =>
          !address.hasWildcard && binding.address.hasWildcard &&
            binding.address.covers address)

/-- The live bindings that reach a text under a configuration. -/
def Ledger.receivers
    (config : RouterConfig)
    (ledger : Ledger)
    (raw : String) :
    Bindings :=
  ledger.filter fun _ binding => config.reaches raw binding

namespace Router

/--
The call that a request makes on the index or table, if its address can be
read.
-/
def Request.change? (router : Router) : Request → Option Change
  | .bind raw name target =>
      match router.parse raw with
      | .ok address => some (.bind { name, address, target })
      | .error _ => none
  | .unbind name => some (.unbind name)
  | .route raw => some (.route raw)
  | .clear => some .clear
  | _ => none

end Router

end BrokerRouting
