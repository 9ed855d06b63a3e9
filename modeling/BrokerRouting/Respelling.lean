import BrokerRouting.Router.Request
import Mathlib.Logic.Equiv.Defs

namespace BrokerRouting

/-!
# Spelling with other characters

A respelling exchanges characters for one another, wherever they stand in the
text of an address or among the tokens.  The names of bindings and sinks are no
addresses and stay as they are.
-/

/-- A one-to-one exchange of characters. -/
abbrev Respelling := Equiv.Perm Char

namespace Respelling

variable (respelling : Respelling)

/-- Exchange every character of an address text. -/
def text (raw : String) : String :=
  raw.map respelling

/-- Exchange the characters that are tokens. -/
def tokens (tokens : Tokens) : Tokens where
  delimiter := respelling tokens.delimiter
  singleWord := respelling tokens.singleWord
  anyWords := respelling tokens.anyWords

/-- Exchange the characters of a given word; open words have none. -/
def segment : Segment → Segment
  | .literal word => .literal (respelling.text word)
  | .singleWord => .singleWord
  | .anyWords => .anyWords

def segments (segments : Segments) : Segments :=
  segments.map respelling.segment

def address (address : Address) : Address where
  raw := respelling.text address.raw
  segments := respelling.segments address.segments

/-- A refusal is the same but for the text of an address it shows. -/
def refusal : Refusal → Refusal
  | .malformed raw fault => .malformed (respelling.text raw) fault
  | refusal => refusal

/-- What reading a text comes to once the text is respelled. -/
def reading : Except Refusal Address → Except Refusal Address
  | .ok address => .ok (respelling.address address)
  | .error refusal => .error (respelling.refusal refusal)

/-- The binding keeps its name and its sink. -/
def binding (binding : Binding) : Binding :=
  { binding with address := respelling.address binding.address }

def bindings (bindings : Bindings) : Bindings :=
  bindings.map fun _ binding => respelling.binding binding

def texts (texts : TextSet) : TextSet :=
  .ofList (texts.toList.map respelling.text)

def config (config : RouterConfig) : RouterConfig :=
  { config with tokens := respelling.tokens config.tokens }

def request : Router.Request → Router.Request
  | .bind raw name target => .bind (respelling.text raw) name target
  | .unbind name => .unbind name
  | .route raw => .route (respelling.text raw)
  | .find name => .find name
  | .contains raw => .contains (respelling.text raw)
  | .linked raw => .linked (respelling.text raw)
  | .sizes => .sizes
  | .clear => .clear
  | .parse raw => .parse (respelling.text raw)
  | .config => .config

def reply : Router.Reply → Router.Reply
  | .refused refusal => .refused (respelling.refusal refusal)
  | .bound existed => .bound existed
  | .unbound binding => .unbound (respelling.binding binding)
  | .routed bindings => .routed (respelling.bindings bindings)
  | .found binding => .found (binding.map respelling.binding)
  | .contained known => .contained known
  | .linked addresses => .linked (respelling.texts addresses)
  | .sizes sizes => .sizes sizes
  | .cleared => .cleared
  | .parsed address => .parsed (respelling.address address)
  | .config config => .config (respelling.config config)

end Respelling

end BrokerRouting
