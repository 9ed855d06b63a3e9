import BrokerRouting.Router.Request
import BrokerRouting.Sink

namespace BrokerRouting

/-!
# The broker

The broker hands each published message to the sink of every binding that
reaches its address, and counts what became of it.
-/

/--
What became of published messages.  The counters of a broker have 64 bits and
wrap around; here they are numbers, so fewer than `2 ^ 64` messages and copies
are supposed to be counted.
-/
structure DeliveryCounts where
  /-- Messages that reached at least one binding. -/
  routed : Nat := 0
  /-- Messages that reached no binding. -/
  unroutable : Nat := 0
  /-- Copies that a sink accepted. -/
  accepted : Nat := 0
  /-- Copies that a closed sink refused. -/
  refused : Nat := 0
  deriving Repr, DecidableEq, Inhabited

/-- The number of published messages. -/
def DeliveryCounts.messages (counts : DeliveryCounts) : Nat :=
  counts.routed + counts.unroutable

/--
A router, the sinks its bindings name, and the counters of published messages.
-/
structure Broker where
  router : Router
  sinks : Sinks := ∅
  counts : DeliveryCounts := {}
  deriving Repr, DecidableEq

namespace Broker

/--
Hand a message to every sink bound to its address; tells how many copies were
accepted.
-/
def publish
    (broker : Broker)
    (message : Message) :
    Nat × Broker :=
  let (bindings, router) := broker.router.route message.address
  let counts := broker.counts
  if bindings.isEmpty then
    (0,
      { broker with
        router
        counts := { counts with unroutable := counts.unroutable + 1 } })
  else
    let targets := bindings.contents.map Binding.target
    let handed := broker.sinks.handOver message targets
    (handed.accepted,
      { broker with
        router
        sinks := handed.sinks
        counts :=
          { counts with
            routed := counts.routed + 1
            accepted := counts.accepted + handed.accepted
            refused := counts.refused + handed.refused } })

end Broker

end BrokerRouting
