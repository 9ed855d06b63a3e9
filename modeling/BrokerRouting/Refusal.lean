import BrokerRouting.Tokens

namespace BrokerRouting

/-!
# Refusals

Why a text is no address and why a request is refused, together with the text
shown for each cause.
-/

/-- What is wrong with the text of an address. -/
inductive AddressFault where
  /--
  Nothing stands between two delimiters, before the first or after the last.
  -/
  | emptySegment
  /-- A word follows the token for all words that are left. -/
  | anyWordsNotFinal
  deriving Repr, DecidableEq

/-- The cause of a refused request. -/
inductive Refusal where
  /-- No live binding has this name. -/
  | unknownName (name : String)
  /-- A live binding has this name already. -/
  | nameTaken (name : String)
  /-- The text cannot be read as an address. -/
  | malformed (raw : String) (fault : AddressFault)
  /-- The tokens of a configuration cannot be told apart. -/
  | conflictingTokens (conflict : TokenConflict)
  deriving Repr, DecidableEq

namespace TokenConflict

/-- The text of a conflict. -/
def reason : TokenConflict → String
  | .delimiterIsWildcard => "delimiter must differ from the wildcard tokens"
  | .wildcardsCoincide => "single-word and any-words tokens must differ"

end TokenConflict

namespace AddressFault

/-- The text of a fault. -/
def reason : AddressFault → String
  | .emptySegment => "empty segment"
  | .anyWordsNotFinal => "any-words token must be the final segment"

end AddressFault

namespace Refusal

/-- The text shown for a refusal. -/
def message : Refusal → String
  | .unknownName name => "Unknown binding: " ++ name
  | .nameTaken name => "Binding already exists: " ++ name
  | .malformed raw fault =>
      "Malformed address '" ++ raw ++ "': " ++ fault.reason
  | .conflictingTokens conflict =>
      "Invalid configuration: " ++ conflict.reason

end Refusal

end BrokerRouting
