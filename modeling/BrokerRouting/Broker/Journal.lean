import BrokerRouting.Broker.Request

namespace BrokerRouting

/-!
# Journals

A journal tells what the counters of a broker do not keep apart: for each
request its reply, the bindings that a published message reached, and what
became of every single message that was offered to a sink, in the order of the
offers.
-/

/-- One message offered to one sink. -/
structure HandOff where
  sink : String
  message : Message
  taken : Bool
  deriving Repr, DecidableEq

/--
What became of a message at each of the sinks that it is offered to in order.
-/
def Sinks.handOffs
    (sinks : Sinks)
    (message : Message) :
    List String → List HandOff
  | [] => []
  | name :: rest =>
      let (taken, next) := sinks.deliver name message
      { sink := name, message, taken } :: handOffs next message rest

/-- The messages that one sink took, in order. -/
def HandOff.takenBy
    (name : String)
    (handOffs : List HandOff) :
    List Message :=
  (handOffs.filter fun handOff => handOff.taken && handOff.sink = name).map
    HandOff.message

namespace Broker

/-- One request and what it led to. -/
structure Entry where
  request : Request
  reply : Reply
  /-- The bindings that a published message reached. -/
  reaching : List Binding
  handOffs : List HandOff
  deriving Repr, DecidableEq

/-- What a run led to, request by request. -/
abbrev Journal := List Entry

/--
The bindings that the message of a request reaches, if it is to be published.
-/
def reachedBy (broker : Broker) : Request → List Binding
  | .publish message => (broker.router.route message.address).1.contents
  | _ => []

/-- What becomes of the messages that a request offers to sinks. -/
def handOffs
    (broker : Broker)
    (request : Request) :
    List HandOff :=
  match request with
  | .publish message =>
      broker.sinks.handOffs message
        ((broker.reachedBy request).map Binding.target)
  | .deliver sink message => broker.sinks.handOffs message [sink]
  | _ => []

/-- The entry of one request. -/
def enter
    (broker : Broker)
    (request : Request) :
    Entry where
  request
  reply := (broker.answer request).1
  reaching := broker.reachedBy request
  handOffs := broker.handOffs request

/-- The entries of requests that are answered in order. -/
def journal (broker : Broker) : List Request → Journal
  | [] => []
  | request :: rest =>
      broker.enter request :: journal (broker.answer request).2 rest

namespace Entry

/-- Whether a message was published. -/
def publishes (entry : Entry) : Bool :=
  match entry.request with
  | .publish _ => true
  | _ => false

/-- The copies of a published message that the broker says were accepted. -/
def copies (entry : Entry) : Nat :=
  match entry.reply with
  | .published copies => copies
  | _ => 0

/-- Whether a message that went straight to a sink was accepted there. -/
def deliversDirectly (entry : Entry) : Bool :=
  entry.reply = .delivered true

/--
The offers that a request calls for: a published message goes to each binding
it reached.
-/
def offers (entry : Entry) : List (String × Message) :=
  match entry.request with
  | .publish message =>
      entry.reaching.map fun binding => (binding.target, message)
  | .deliver sink message => [(sink, message)]
  | _ => []

/-- The messages that were read from a sink. -/
def drainedFrom
    (name : String)
    (entry : Entry) :
    List Message :=
  match entry.request, entry.reply with
  | .drain sink, .drained (some messages) =>
      if sink = name then messages else []
  | _, _ => []

end Entry

namespace Journal

/-- All offers of messages to sinks, in order. -/
def handOffs (journal : Journal) : List HandOff :=
  journal.flatMap Entry.handOffs

/-- The messages that a sink accepted, in order. -/
def taken
    (journal : Journal)
    (name : String) :
    List Message :=
  HandOff.takenBy name journal.handOffs

/-- The messages that were read from a sink, in order. -/
def drained
    (journal : Journal)
    (name : String) :
    List Message :=
  journal.flatMap (Entry.drainedFrom name)

/-- Whether a sink was asked to close. -/
def closes
    (journal : Journal)
    (name : String) :
    Bool :=
  journal.any fun entry => entry.request = .close name

/-- How many copies of published messages were refused. -/
def refusals (journal : Journal) : Nat :=
  (handOffs (journal.filter Entry.publishes)).countP
    fun handOff => !handOff.taken

end Journal

end Broker

end BrokerRouting
