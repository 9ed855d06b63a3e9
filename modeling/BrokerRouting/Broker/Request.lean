import BrokerRouting.Broker.Basic

namespace BrokerRouting.Broker

/-!
# Requests to a broker

Callers talk to the router through the broker, publish messages, and use sinks
directly.
-/

/-- One call to a broker. -/
inductive Request where
  | router (request : Router.Request)
  | publish (message : Message)
  | deliver (sink : String) (message : Message)
  | drain (sink : String)
  | close (sink : String)
  | accepted (sink : String)
  | counts
  deriving Repr, DecidableEq

/-- What a broker answers to a request. -/
inductive Reply where
  | router (reply : Router.Reply)
  /-- The number of copies that were accepted. -/
  | published (copies : Nat)
  | delivered (taken : Bool)
  /-- The messages that waited; none if the sink is closed. -/
  | drained (messages : Option (List Message))
  | closed (wasOpen : Bool)
  | accepted (count : Nat)
  | counts (counts : DeliveryCounts)
  deriving Repr, DecidableEq

/-- Answer one request. -/
def answer (broker : Broker) : Request → Reply × Broker
  | .router request =>
      let (reply, router) := broker.router.answer request
      (.router reply, { broker with router })
  | .publish message =>
      let (copies, next) := broker.publish message
      (.published copies, next)
  | .deliver sink message =>
      let (taken, sinks) := broker.sinks.deliver sink message
      (.delivered taken, { broker with sinks })
  | .drain sink =>
      let (messages, sinks) := broker.sinks.drain sink
      (.drained messages, { broker with sinks })
  | .close sink =>
      let (wasOpen, sinks) := broker.sinks.close sink
      (.closed wasOpen, { broker with sinks })
  | .accepted sink => (.accepted (broker.sinks.get sink).accepted, broker)
  | .counts => (.counts broker.counts, broker)

/-- Answer requests in order; the replies come with the broker they leave. -/
def run (broker : Broker) : List Request → List Reply × Broker
  | [] => ([], broker)
  | request :: rest =>
      let (reply, next) := broker.answer request
      let (replies, final) := next.run rest
      (reply :: replies, final)

end BrokerRouting.Broker
