import BrokerRouting.Router.Basic

namespace BrokerRouting.Router

/-!
# Requests to a router

What callers can ask of a router, one request after another, and what it
answers.  A refused request leaves the router as it was.
-/

/-- One call to a router. -/
inductive Request where
  | bind (address name target : String)
  | unbind (name : String)
  | route (address : String)
  | find (name : String)
  | contains (address : String)
  | linked (address : String)
  | sizes
  | clear
  | parse (address : String)
  | config
  deriving Repr, DecidableEq

/-- What a router answers to a request. -/
inductive Reply where
  | refused (refusal : Refusal)
  /-- The binding is live; tells whether its address was occupied before. -/
  | bound (existed : Bool)
  | unbound (binding : Binding)
  | routed (bindings : Bindings)
  | found (binding : Option Binding)
  | contained (known : Bool)
  | linked (addresses : TextSet)
  | sizes (sizes : IndexSizes)
  | cleared
  | parsed (address : Address)
  | config (config : RouterConfig)
  deriving Repr, DecidableEq

/-- Answer one request. -/
def answer (router : Router) : Request → Reply × Router
  | .bind address name target =>
      match router.bind address name target with
      | .error refusal => (.refused refusal, router)
      | .ok (existed, next) => (.bound existed, next)
  | .unbind name =>
      match router.unbind name with
      | .error refusal => (.refused refusal, router)
      | .ok (binding, next) => (.unbound binding, next)
  | .route address =>
      let (bindings, next) := router.route address
      (.routed bindings, next)
  | .find name => (.found (router.find? name), router)
  | .contains address => (.contained (router.contains address), router)
  | .linked address => (.linked (router.linked address), router)
  | .sizes => (.sizes router.sizes, router)
  | .clear => (.cleared, router.clear)
  | .parse address =>
      match router.parse address with
      | .error refusal => (.refused refusal, router)
      | .ok parsed => (.parsed parsed, router)
  | .config => (.config router.config, router)

/-- Answer requests in order; the replies come with the router they leave. -/
def run (router : Router) : List Request → List Reply × Router
  | [] => ([], router)
  | request :: rest =>
      let (reply, next) := router.answer request
      let (replies, final) := next.run rest
      (reply :: replies, final)

end BrokerRouting.Router
