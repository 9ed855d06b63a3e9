import BrokerRouting.TextMap

namespace BrokerRouting

/-!
# Messages and sinks

A message carries bytes to an address; the bytes are never looked at.  A sink
is a queue of messages with one reader.  While the reader is there every
message is accepted and waits in the order of arrival; once the reader is gone
nothing is accepted and nothing waits.
-/

/-- An address text and the bytes sent there. -/
structure Message where
  address : String
  payload : List UInt8
  deriving Repr, DecidableEq, Inhabited

/-- A queue of messages and the number it ever accepted. -/
structure Sink where
  isOpen : Bool := true
  /-- Accepted messages that were not read yet, oldest first. -/
  waiting : List Message := []
  /--
  A number where a broker has a 64-bit counter that wraps around: fewer than
  `2 ^ 64` messages are supposed to be accepted.
  -/
  accepted : Nat := 0
  deriving Repr, DecidableEq, Inhabited

namespace Sink

/-- Offer a message; says whether it was accepted. -/
def deliver
    (sink : Sink)
    (message : Message) :
    Bool × Sink :=
  if sink.isOpen then
    (true,
      { sink with
        waiting := sink.waiting ++ [message]
        accepted := sink.accepted + 1 })
  else
    (false, sink)

/--
Read all waiting messages; there is nobody to read them once the sink is
closed.
-/
def drain (sink : Sink) : Option (List Message) × Sink :=
  if sink.isOpen then (some sink.waiting, { sink with waiting := [] })
  else (none, sink)

/--
Take the reader away along with what waits for it; says whether there was one.
-/
def close (sink : Sink) : Bool × Sink :=
  (sink.isOpen, { sink with isOpen := false, waiting := [] })

end Sink

/-- Sinks by name.  A sink that was never used is open and empty. -/
abbrev Sinks := TextMap Sink

namespace Sinks

/-- The sink of a name. -/
def get
    (sinks : Sinks)
    (name : String) :
    Sink :=
  sinks.getD name {}

/-- Offer a message to the sink of a name. -/
def deliver
    (sinks : Sinks)
    (name : String)
    (message : Message) :
    Bool × Sinks :=
  let (taken, sink) := (sinks.get name).deliver message
  (taken, sinks.insert name sink)

/-- Read all messages that wait in the sink of a name. -/
def drain
    (sinks : Sinks)
    (name : String) :
    Option (List Message) × Sinks :=
  let (messages, sink) := (sinks.get name).drain
  (messages, sinks.insert name sink)

/-- Close the sink of a name. -/
def close
    (sinks : Sinks)
    (name : String) :
    Bool × Sinks :=
  let (wasOpen, sink) := (sinks.get name).close
  (wasOpen, sinks.insert name sink)

/-- How a message fared with several sinks, and the sinks afterwards. -/
structure Handover where
  accepted : Nat := 0
  refused : Nat := 0
  sinks : Sinks
  deriving Repr, DecidableEq

/-- Offer a message once for every name in a list. -/
def handOver
    (sinks : Sinks)
    (message : Message) :
    List String → Handover
  | [] => { sinks }
  | name :: rest =>
      let (taken, next) := sinks.deliver name message
      let handed := handOver next message rest
      if taken then { handed with accepted := handed.accepted + 1 }
      else { handed with refused := handed.refused + 1 }

end Sinks

end BrokerRouting
