import BrokerRouting.Proofs.WrittenAddresses

namespace BrokerRouting

/-!
# Covering position by position

Covering is decided from left to right.  What it means needs no order: up to
the first any-words token of the pattern, or over its whole length if there
is none, every position of the row is accepted by the same position of the
pattern.  From this follow what concrete addresses cover and how much of an
address a pattern with a final any-words token looks at.
-/

namespace Segments

/-- One position of a row has the segment of the pattern, or any one word. -/
def AcceptsAt
    (pattern candidate : Segments)
    (position : Nat) :
    Prop :=
  pattern[position]? = some .singleWord ∨
    pattern[position]? = candidate[position]?

/-- The any-words token stands at a position and nowhere before. -/
def OpensAt
    (pattern : Segments)
    (position : Nat) :
    Prop :=
  pattern[position]? = some .anyWords ∧
    ∀ earlier < position, pattern[earlier]? ≠ some .anyWords

/-- Covering, told by positions only. -/
def CoversByPosition (pattern candidate : Segments) : Prop :=
  (∃ position,
      pattern.OpensAt position ∧
        position ≤ candidate.length ∧
          ∀ earlier < position, pattern.AcceptsAt candidate earlier) ∨
    .anyWords ∉ pattern ∧
      pattern.length = candidate.length ∧
        ∀ position < pattern.length, pattern.AcceptsAt candidate position

variable
  {first word : Segment}
  {pattern candidate rest : Segments}
  {position : Nat}

theorem acceptsAt_zero_iff :
    AcceptsAt (first :: pattern) (word :: rest) 0 ↔
      first = .singleWord ∨ first = word := by
  simp [AcceptsAt]

theorem acceptsAt_succ_iff :
    AcceptsAt (first :: pattern) (word :: rest) (position + 1) ↔
      AcceptsAt pattern rest position := by
  simp [AcceptsAt]

/-- All positions of a row but the first are those of the rest of it. -/
theorem forall_acceptsAt_succ_iff :
    (∀ earlier < position + 1,
        AcceptsAt (first :: pattern) (word :: rest) earlier) ↔
      (first = .singleWord ∨ first = word) ∧
        ∀ earlier < position, AcceptsAt pattern rest earlier := by
  rw [Nat.forall_lt_succ_left, acceptsAt_zero_iff]
  simp only [acceptsAt_succ_iff]

theorem opensAt_succ_iff
    (given : first ≠ .anyWords) :
    OpensAt (first :: pattern) (position + 1) ↔ OpensAt pattern position := by
  simp only [OpensAt, List.getElem?_cons_succ]
  rw [Nat.forall_lt_succ_left]
  simp [given]

theorem not_opensAt_zero
    (given : first ≠ .anyWords) :
    ¬OpensAt (first :: pattern) 0 := by
  simp [OpensAt, given]

/-- An empty pattern accepts no position. -/
theorem coversByPosition_nil_iff :
    CoversByPosition [] candidate ↔ candidate = [] := by
  simp [CoversByPosition, OpensAt, List.length_eq_zero_iff, eq_comm]

/-- A token for all words that are left asks for nothing more. -/
theorem coversByPosition_anyWords :
    CoversByPosition (.anyWords :: pattern) candidate := by
  refine Or.inl ⟨0, ⟨rfl, ?_⟩, Nat.zero_le _, ?_⟩
  · intro earlier before
    exact absurd before (Nat.not_lt_zero earlier)
  · intro earlier before
    exact absurd before (Nat.not_lt_zero earlier)

/-- Any other segment needs a word to accept. -/
theorem not_coversByPosition_of_nil
    (given : first ≠ .anyWords) :
    ¬CoversByPosition (first :: pattern) [] := by
  rintro (⟨position, opens, short, _⟩ | ⟨_, sameLength, _⟩)
  · have atStart : position = 0 := Nat.le_zero.mp short
    exact not_opensAt_zero given (atStart ▸ opens)
  · cases sameLength

/-- Up to the token, such a segment accepts the first word of the row. -/
theorem accepts_to_token_cons_iff
    (given : first ≠ .anyWords) :
    (∃ position,
        OpensAt (first :: pattern) position ∧
          position ≤ (word :: rest).length ∧
            ∀ earlier < position,
              AcceptsAt (first :: pattern) (word :: rest) earlier) ↔
      (first = .singleWord ∨ first = word) ∧
        ∃ position,
          OpensAt pattern position ∧
            position ≤ rest.length ∧
              ∀ earlier < position, AcceptsAt pattern rest earlier := by
  constructor
  · rintro ⟨position, opens, long, accepted⟩
    cases position with
    | zero =>
        exact (not_opensAt_zero given opens).elim
    | succ position =>
        obtain ⟨acceptsFirst, acceptsRest⟩ :=
          forall_acceptsAt_succ_iff.mp accepted
        exact ⟨acceptsFirst, position, (opensAt_succ_iff given).mp opens,
          Nat.le_of_succ_le_succ long, acceptsRest⟩
  · rintro ⟨acceptsFirst, position, opens, long, acceptsRest⟩
    exact ⟨position + 1, (opensAt_succ_iff given).mpr opens,
      Nat.succ_le_succ long,
      forall_acceptsAt_succ_iff.mpr ⟨acceptsFirst, acceptsRest⟩⟩

/-- Without a token it does so over the whole length. -/
theorem accepts_whole_cons_iff
    (given : first ≠ .anyWords) :
    (.anyWords ∉ first :: pattern ∧
        (first :: pattern).length = (word :: rest).length ∧
          ∀ position < (first :: pattern).length,
            AcceptsAt (first :: pattern) (word :: rest) position) ↔
      (first = .singleWord ∨ first = word) ∧
        .anyWords ∉ pattern ∧
          pattern.length = rest.length ∧
            ∀ position < pattern.length,
              AcceptsAt pattern rest position := by
  simp only [List.length_cons, forall_acceptsAt_succ_iff,
    List.mem_cons, not_or, Ne.symm given, not_false_eq_true, true_and,
    Nat.add_right_cancel_iff]
  constructor
  · rintro ⟨noAny, sameLength, acceptsFirst, acceptsRest⟩
    exact ⟨acceptsFirst, noAny, sameLength, acceptsRest⟩
  · rintro ⟨acceptsFirst, noAny, sameLength, acceptsRest⟩
    exact ⟨noAny, sameLength, acceptsFirst, acceptsRest⟩

/-- Such a segment accepts the first word, and the others accept the rest. -/
theorem coversByPosition_cons_iff
    (given : first ≠ .anyWords) :
    CoversByPosition (first :: pattern) (word :: rest) ↔
      (first = .singleWord ∨ first = word) ∧
        CoversByPosition pattern rest := by
  rw [CoversByPosition, accepts_to_token_cons_iff given,
    accepts_whole_cons_iff given, ← and_or_left]
  rfl

/-- Going from left to right decides the same as looking at positions. -/
theorem covers_iff_positions (pattern candidate : Segments) :
    pattern.covers candidate = true ↔
      pattern.CoversByPosition candidate := by
  induction pattern, candidate using covers.induct with
  | case1 candidate =>
      rw [coversByPosition_nil_iff, covers, List.isEmpty_iff]
  | case2 candidate pattern =>
      simp [covers, coversByPosition_anyWords]
  | case3 pattern =>
      simp [covers, not_coversByPosition_of_nil]
  | case4 text pattern =>
      simp [covers, not_coversByPosition_of_nil]
  | case5 pattern word rest inductionHypothesis =>
      rw [covers, inductionHypothesis,
        coversByPosition_cons_iff Segment.noConfusion]
      simp
  | case6 text pattern word rest inductionHypothesis =>
      rw [covers, Bool.and_eq_true, inductionHypothesis,
        coversByPosition_cons_iff Segment.noConfusion]
      simp [eq_comm]

/-- Every row covers itself, whatever it leaves open. -/
theorem covers_self (segments : Segments) :
    segments.covers segments = true := by
  induction segments with
  | nil =>
      rfl
  | cons first rest inductionHypothesis =>
      cases first <;> simp [covers, inductionHypothesis]

/-- A row that leaves nothing open covers itself only. -/
theorem covers_iff_eq
    (given : pattern.hasWildcard = false) :
    pattern.covers candidate = true ↔ pattern = candidate := by
  induction pattern generalizing candidate with
  | nil =>
      cases candidate <;> simp [covers]
  | cons first rest inductionHypothesis =>
      simp only [hasWildcard, List.any_cons, Bool.or_eq_false_iff] at given
      obtain ⟨firstGiven, restGiven⟩ := given
      cases first with
      | singleWord | anyWords =>
          cases firstGiven
      | literal text =>
          cases candidate with
          | nil =>
              simp [covers]
          | cons word later =>
              rw [covers, Bool.and_eq_true, decide_eq_true_eq,
                inductionHypothesis restGiven, List.cons.injEq,
                eq_comm (a := word)]

/-- Nothing behind the words before an any-words token is looked at. -/
theorem covers_append_anyWords (opening candidate : Segments) :
    covers (opening ++ [.anyWords]) candidate =
      opening.covers (candidate.take opening.length) := by
  induction opening generalizing candidate with
  | nil =>
      simp [covers]
  | cons first rest inductionHypothesis =>
      cases first <;> cases candidate <;> simp [covers, inductionHypothesis]

/-- Without an any-words token a pattern covers rows of its own length. -/
theorem length_eq_of_covers
    (noAny : .anyWords ∉ pattern)
    (covered : pattern.covers candidate = true) :
    candidate.length = pattern.length := by
  rcases (covers_iff_positions pattern candidate).mp covered with
    ⟨position, opens, _⟩ | ⟨_, sameLength, _⟩
  · exact absurd (List.mem_of_getElem? opens.1) noAny
  · exact sameLength.symm

end Segments

namespace Address

variable
  {tokens : Tokens}
  {pattern candidate : Address}

/-- A concrete address covers just the addresses with its own text. -/
theorem covers_iff_raw_eq
    (patternParsed : parse tokens pattern.raw = .ok pattern)
    (candidateParsed : parse tokens candidate.raw = .ok candidate)
    (given : pattern.hasWildcard = false) :
    pattern.covers candidate = true ↔ pattern.raw = candidate.raw := by
  rw [covers, Segments.covers_iff_eq given,
    segments_eq_iff_raw_eq patternParsed candidateParsed]

/-- A pattern is never covered by a concrete address. -/
theorem not_covers_of_wildcard
    (given : pattern.hasWildcard = false)
    (wildcard : candidate.hasWildcard = true) :
    pattern.covers candidate = false := by
  rw [Bool.eq_false_iff]
  intro covered
  have same := (Segments.covers_iff_eq given).mp covered
  rw [hasWildcard, same] at given
  exact Bool.noConfusion (given.symm.trans wildcard)

/-- In an address that was read the any-words token stands last. -/
theorem not_anyWords_of_parse
    (parsed : parse tokens pattern.raw = .ok pattern)
    {opening : Segments}
    (ending : pattern.segments = opening ++ [.anyWords]) :
    .anyWords ∉ opening := by
  have read := readParts_of_parse parsed
  rw [ending] at read
  exact Tokens.not_anyWords_of_readParts read

/-- A final any-words token leaves all but the words before it open. -/
theorem covers_iff_opening
    (parsed : parse tokens pattern.raw = .ok pattern)
    {opening : Segments}
    (ending : pattern.segments = opening ++ [.anyWords]) :
    pattern.covers candidate = true ↔
      opening.length ≤ candidate.segments.length ∧
        opening.covers (candidate.segments.take opening.length) = true := by
  rw [covers, ending, Segments.covers_append_anyWords]
  constructor
  · intro covered
    have sameLength :=
      Segments.length_eq_of_covers (not_anyWords_of_parse parsed ending)
        covered
    rw [List.length_take] at sameLength
    exact ⟨by omega, covered⟩
  · intro covered
    exact covered.2

end Address

/--
Covering is told by positions, for all rows of segments.  So among addresses
read with the same tokens a concrete one covers just the address of its own
text and no pattern, every address covers itself, and a pattern with a final
any-words token covers the concrete addresses whose first words are covered
by the segments before it.
-/
theorem covering_is_positional :
    (∀ pattern candidate : Segments,
        pattern.covers candidate = true ↔
          pattern.CoversByPosition candidate) ∧
      ∀ (tokens : Tokens) (pattern candidate : Address),
        Address.parse tokens pattern.raw = .ok pattern →
        Address.parse tokens candidate.raw = .ok candidate →
        (pattern.hasWildcard = false →
            (pattern.covers candidate = true ↔
              pattern.raw = candidate.raw) ∧
              (candidate.hasWildcard = true →
                pattern.covers candidate = false)) ∧
          pattern.covers pattern = true ∧
            ∀ opening : Segments,
              pattern.segments = opening ++ [.anyWords] →
              candidate.hasWildcard = false →
              (pattern.covers candidate = true ↔
                opening.length ≤ candidate.segments.length ∧
                  opening.covers
                    (candidate.segments.take opening.length) = true) := by
  constructor
  · exact Segments.covers_iff_positions
  · intro tokens pattern candidate patternParsed candidateParsed
    refine ⟨?_, ?_, ?_⟩
    · intro given
      constructor
      · exact Address.covers_iff_raw_eq patternParsed candidateParsed given
      · exact Address.not_covers_of_wildcard given
    · exact Segments.covers_self pattern.segments
    · intro opening ending _
      exact Address.covers_iff_opening patternParsed ending

/-- An any-words token covers also where no word is left for it. -/
theorem any_words_cover_none_left :
    let pattern : Address :=
      ⟨"*.eu.#", [.singleWord, .literal "eu", .anyWords]⟩
    let orders : Address :=
      ⟨"orders.eu", [.literal "orders", .literal "eu"]⟩
    Address.parse {} pattern.raw = .ok pattern ∧
      Address.parse {} orders.raw = .ok orders ∧
        orders.hasWildcard = false ∧
          pattern.covers orders = true ∧
            orders.covers pattern = false := by
  intro pattern orders
  have patternParsed : Address.parse {} pattern.raw = .ok pattern := by
    change Address.parse {} "*.eu.#" = _
    rfl
  have ordersParsed : Address.parse {} orders.raw = .ok orders := by
    change Address.parse {} "orders.eu" = _
    rfl
  have given : orders.hasWildcard = false := by
    rfl
  obtain ⟨_, forAddresses⟩ := covering_is_positional
  obtain ⟨_, _, byOpening⟩ :=
    forAddresses {} pattern orders patternParsed ordersParsed
  obtain ⟨byText, _, _⟩ :=
    forAddresses {} orders pattern ordersParsed patternParsed
  refine ⟨patternParsed, ordersParsed, given, ?_, ?_⟩
  · exact (byOpening [.singleWord, .literal "eu"] rfl given).mpr
      (by decide)
  · exact (byText given).2 rfl

end BrokerRouting
