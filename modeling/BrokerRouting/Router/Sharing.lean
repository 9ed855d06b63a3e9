import BrokerRouting.Router.Request

namespace BrokerRouting.Router

/-!
# Callers that share a router

Callers take turns, and in its turn a caller has the router to itself.  Sending
to a text may take two turns: in the first the router is only read, and where
that does not tell which bindings reach the text, the caller comes back in a
later turn that may change the router.  In between the other callers can have
done anything.
-/

/-- The bindings that reach a text, where they can be told without a change. -/
def peek?
    (router : Router)
    (raw : String) :
    Option Bindings :=
  match router with
  | .flat _ table => some (table.bindingsAt raw)
  | .wildcard index => index.peek? raw

/-- The bindings that reach a text, where the router may change. -/
def resolve
    (router : Router)
    (raw : String) :
    Bindings × Router :=
  match router with
  | .flat _ table => (table.bindingsAt raw, router)
  | .wildcard index =>
      let (bindings, next) := index.route raw
      (bindings, .wildcard next)

/-- One of the callers. -/
structure Caller where
  /-- The text it has to come back for. -/
  delayed : Option String := none
  /-- The requests it has yet to make. -/
  requests : List Request
  deriving Repr, DecidableEq

/-- The requests of a caller that are not answered yet. -/
def Caller.unanswered (caller : Caller) : List Request :=
  match caller.delayed with
  | some raw => .route raw :: caller.requests
  | none => caller.requests

/-- The reply to a request of some caller. -/
structure Answer where
  caller : Nat
  request : Request
  reply : Reply
  deriving Repr, DecidableEq

/-- A router and its callers by number. -/
structure Shared where
  router : Router
  callers : Nat → Caller

namespace Shared

/-- A router that callers with these requests begin to share. -/
def start
    (router : Router)
    (requests : Nat → List Request) :
    Shared where
  router := router
  callers name := { requests := requests name }

/-- Replace the router and one caller. -/
def update
    (shared : Shared)
    (router : Router)
    (name : Nat)
    (caller : Caller) :
    Shared where
  router := router
  callers other := if other = name then caller else shared.callers other

@[simp]
theorem router_update
    (shared : Shared)
    (router : Router)
    (name : Nat)
    (caller : Caller) :
    (shared.update router name caller).router = router :=
  rfl

@[simp]
theorem callers_update
    (shared : Shared)
    (router : Router)
    (name : Nat)
    (caller : Caller) :
    (shared.update router name caller).callers =
      fun other => if other = name then caller else shared.callers other :=
  rfl

/-- One turn of a caller and the answers it gets in it: one, or none. -/
def turn
    (shared : Shared)
    (name : Nat) :
    List Answer × Shared :=
  let caller := shared.callers name
  match caller.delayed with
  | some raw =>
      let (bindings, router) := shared.router.resolve raw
      ([⟨name, .route raw, .routed bindings⟩],
        shared.update router name { requests := caller.requests })
  | none =>
      match caller.requests with
      | [] => ([], shared)
      | .route raw :: rest =>
          match shared.router.peek? raw with
          | some bindings =>
              ([⟨name, .route raw, .routed bindings⟩],
                shared.update shared.router name { requests := rest })
          | none =>
              ([],
                shared.update shared.router name
                  { delayed := some raw, requests := rest })
      | request :: rest =>
          let (reply, router) := shared.router.answer request
          ([⟨name, request, reply⟩],
            shared.update router name { requests := rest })

/--
The answers given in some turns, in their order, and what the turns lead to.
-/
def run (shared : Shared) : List Nat → List Answer × Shared
  | [] => ([], shared)
  | name :: rest =>
      let (answers, next) := shared.turn name
      let (later, final) := next.run rest
      (answers ++ later, final)

end Shared

end BrokerRouting.Router
