namespace BrokerRouting

/-!
# Tokens

Three characters decide how an address is read: one separates its words, and
two stand for words that are left open.
-/

/--
The characters that separate the words of an address and stand for open words.
-/
structure Tokens where
  /-- Stands between two words. -/
  delimiter : Char := '.'
  /-- Stands for exactly one word. -/
  singleWord : Char := '*'
  /-- Stands for all words that are left, also for none. -/
  anyWords : Char := '#'
  deriving Repr, DecidableEq, Inhabited

/-- Two of the three characters that ought to differ and do not. -/
inductive TokenConflict where
  | delimiterIsWildcard
  | wildcardsCoincide
  deriving Repr, DecidableEq

namespace Tokens

/--
The first conflict among the characters: the delimiter against both wildcards
comes first.
-/
def conflict? (tokens : Tokens) : Option TokenConflict :=
  if tokens.delimiter = tokens.singleWord ∨
      tokens.delimiter = tokens.anyWords
  then
    some .delimiterIsWildcard
  else if tokens.singleWord = tokens.anyWords then
    some .wildcardsCoincide
  else
    none

/-- The three characters are pairwise different. -/
def Valid (tokens : Tokens) : Prop :=
  tokens.delimiter ≠ tokens.singleWord ∧
    tokens.delimiter ≠ tokens.anyWords ∧
      tokens.singleWord ≠ tokens.anyWords

instance (tokens : Tokens) : Decidable tokens.Valid :=
  inferInstanceAs (Decidable (_ ∧ _))

/--
No conflict is reported exactly when the characters are pairwise different.
-/
theorem conflict?_eq_none_iff {tokens : Tokens} :
    tokens.conflict? = none ↔ tokens.Valid := by
  unfold conflict? Valid
  split
  · rename_i clash
    constructor
    · simp
    · rintro ⟨notSingle, notAny, _⟩
      exact (clash.elim notSingle notAny).elim
  · split <;> simp_all

end Tokens

end BrokerRouting
