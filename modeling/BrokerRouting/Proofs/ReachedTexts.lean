import BrokerRouting.Ledger
import BrokerRouting.Proofs.BindingSets
import BrokerRouting.Proofs.TrackedPlaces
import BrokerRouting.Proofs.WrittenAddresses

namespace BrokerRouting

/-!
# Which bindings reach a text

What reaches a text is told from the live bindings alone.  For bindings read
with the same tokens the text decides the address, so a pattern is reached
by its own bindings only, and a concrete address by its own and those of the
patterns that cover it.
-/

namespace Binding

/-- The address of a binding was read from its text with these tokens. -/
def ReadWith
    (tokens : Tokens)
    (binding : Binding) :
    Prop :=
  Address.parse tokens binding.address.raw = .ok binding.address

/-- The text can be read as an address that the binding reaches. -/
def Reaches
    (binding : Binding)
    (tokens : Tokens)
    (raw : String) :
    Prop :=
  ∃ address,
    Address.parse tokens raw = .ok address ∧
      binding.reaches address = true

variable
  {binding : Binding}
  {tokens : Tokens}
  {raw : String}
  {address : Address}

/-- Only texts that can be read as addresses are reached. -/
theorem Reaches.parsed
    (reaches : binding.Reaches tokens raw) :
    ∃ address, Address.parse tokens raw = .ok address := by
  obtain ⟨address, parsed, _⟩ := reaches
  exact ⟨address, parsed⟩

theorem reaches_iff
    (parsed : Address.parse tokens raw = .ok address) :
    binding.Reaches tokens raw ↔
      binding.address.raw = raw ∨
        address.side = .concrete ∧
          binding.address.side = .pattern ∧
            binding.address.covers address = true := by
  have sameText : address.raw = raw := Address.raw_of_parse parsed
  simp [Reaches, parsed, reaches, Address.sameText, sameText,
    Address.side_eq_concrete_iff, Address.side_eq_pattern_iff, and_assoc]

theorem ReadWith.reaches_own
    (read : binding.ReadWith tokens) :
    binding.Reaches tokens binding.address.raw :=
  (reaches_iff read).mpr (Or.inl rfl)

/-- A binding on a concrete address reaches no other text. -/
theorem raw_eq_of_reaches_of_concrete
    (kind : binding.address.side = .concrete)
    (reaches : binding.Reaches tokens raw) :
    binding.address.raw = raw := by
  obtain ⟨address, parsed⟩ := reaches.parsed
  rcases (reaches_iff parsed).mp reaches with own | ⟨_, pattern, _⟩
  · exact own
  · simp [kind] at pattern

/-- Only its own bindings reach a pattern. -/
theorem raw_eq_of_reaches_pattern
    (parsed : Address.parse tokens raw = .ok address)
    (kind : address.side = .pattern)
    (reached : binding.Reaches tokens raw) :
    binding.address.raw = raw := by
  rcases (reaches_iff parsed).mp reached with own | ⟨concrete, _, _⟩
  · exact own
  · simp [kind] at concrete

end Binding

namespace Ledger

/-- A live binding was made for the text. -/
def Bound
    (ledger : Ledger)
    (raw : String) :
    Prop :=
  ∃ (name : String) (binding : Binding),
    ledger[name]? = some binding ∧ binding.address.raw = raw

/-- A live binding reaches the text. -/
def Reached
    (ledger : Ledger)
    (tokens : Tokens)
    (raw : String) :
    Prop :=
  ∃ (name : String) (binding : Binding),
    ledger[name]? = some binding ∧ binding.Reaches tokens raw

/-- A name reaches a text when its live binding does. -/
theorem getElem?_reaching
    {tokens : Tokens}
    {ledger : Ledger}
    {raw name : String}
    {binding : Binding} :
    (ledger.reaching tokens raw)[name]? = some binding ↔
      ledger[name]? = some binding ∧ binding.Reaches tokens raw := by
  unfold reaching Binding.Reaches
  cases parsed : Address.parse tokens raw with
  | error refusal =>
      simp
  | ok address =>
      simp [Option.filter_eq_some_iff]

end Ledger

end BrokerRouting
