import BrokerRouting.Proofs.WrittenAddresses

namespace BrokerRouting

/-!
# Which texts are addresses

The parts of a text can be judged one by one: a part is at fault if it is
empty or stands directly behind an any-words token.  A text is an address
exactly when none of its parts is at fault.  Otherwise the first part at
fault decides the refusal, and being empty is what is told of it first.
-/

/-- What is told of a part at fault. -/
def AddressFault.of (part : List Char) : AddressFault :=
  if part = [] then .emptySegment else .anyWordsNotFinal

/-- Faults are told apart by their texts. -/
theorem AddressFault.reason_injective :
    Function.Injective AddressFault.reason := by
  rintro (_ | _) (_ | _) sameReason
  · rfl
  · simp [reason] at sameReason
  · simp [reason] at sameReason
  · rfl

theorem AddressFault.reason_of (part : List Char) :
    (AddressFault.of part).reason =
      if part = [] then "empty segment"
      else "any-words token must be the final segment" := by
  unfold AddressFault.of
  split <;> rfl

namespace Tokens

/--
A part stands for all words that are left: it is the any-words token and that
is not the single-word token as well.
-/
def StandsForRest
    (tokens : Tokens)
    (part : List Char) :
    Prop :=
  part = [tokens.anyWords] ∧ tokens.singleWord ≠ tokens.anyWords

/--
An any-words token stands directly before a position.  Whether one stands
before the first position is told by a flag.
-/
def FollowsRest
    (tokens : Tokens)
    (afterAny : Bool)
    (parts : List (List Char)) : Nat → Prop
  | 0 => afterAny = true
  | position + 1 =>
      ∃ before, parts[position]? = some before ∧ tokens.StandsForRest before

/-- The part at a position is empty or stands behind an any-words token. -/
def FaultyAt
    (tokens : Tokens)
    (afterAny : Bool)
    (parts : List (List Char))
    (position : Nat) : Prop :=
  ∃ part,
    parts[position]? = some part ∧
      (part = [] ∨ tokens.FollowsRest afterAny parts position)

/-- A part is the first of several that is at fault. -/
structure FirstFault
    (tokens : Tokens)
    (afterAny : Bool)
    (parts : List (List Char))
    (position : Nat)
    (part : List Char) : Prop where
  stands : parts[position]? = some part
  faulty : tokens.FaultyAt afterAny parts position
  first : ∀ earlier < position, ¬tokens.FaultyAt afterAny parts earlier

variable
  {tokens : Tokens}
  {afterAny : Bool}
  {part stood : List Char}
  {parts rest : List (List Char)}
  {position : Nat}
  {fault : AddressFault}

/-- A delimiter ends a part and is in none. -/
theorem delimiter_not_mem_part
    {characters : List Char}
    (member : part ∈ characters.splitOn tokens.delimiter) :
    tokens.delimiter ∉ part := by
  induction characters generalizing part with
  | nil =>
      simp only [List.splitOn_nil, List.mem_singleton] at member
      simp [member]
  | cons character characters inductionHypothesis =>
      rw [List.splitOn_cons_eq_if_modifyHead] at member
      cases split : characters.splitOn tokens.delimiter with
      | nil =>
          exact (List.splitOn_ne_nil _ _ split).elim
      | cons first later =>
          rw [split] at member inductionHypothesis
          by_cases ends : character = tokens.delimiter
          · simp only [ends, beq_self_eq_true, ↓reduceIte,
              List.mem_cons] at member
            rcases member with rfl | inRest
            · simp
            · exact inductionHypothesis (List.mem_cons.mpr inRest)
          · simp only [beq_iff_eq, ends, ↓reduceIte, List.modifyHead_cons,
              List.mem_cons] at member
            rcases member with rfl | inRest
            · simp [Ne.symm ends, inductionHypothesis]
            · exact inductionHypothesis (by simp [inRest])

/-- The parts of a text are what delimiters join to the text. -/
theorem parts_eq_iff
    {raw : String} :
    tokens.parts raw = parts ↔
      parts ≠ [] ∧
        (∀ part ∈ parts, tokens.delimiter ∉ part) ∧
          String.ofList ([tokens.delimiter].intercalate parts) = raw := by
  constructor
  · rintro rfl
    refine ⟨List.splitOn_ne_nil _ _, fun part => delimiter_not_mem_part, ?_⟩
    rw [Tokens.parts, List.intercalate_splitOn, String.ofList_toList]
  · rintro ⟨nonempty, apart, rfl⟩
    rw [Tokens.parts, String.toList_ofList,
      List.splitOn_intercalate _ apart nonempty]

/-- The single-word token is tried first, which matters if both are the same. -/
theorem segment_eq_anyWords_iff :
    tokens.segment part = .anyWords ↔ tokens.StandsForRest part := by
  unfold segment StandsForRest
  by_cases single : part = [tokens.singleWord]
  · simp [single]
  · by_cases any : part = [tokens.anyWords]
    · subst any
      simp only [List.cons.injEq, and_true] at single
      simp [single, Ne.symm single]
    · simp [single, any]

theorem faultyAt_zero_iff :
    tokens.FaultyAt afterAny (part :: rest) 0 ↔
      part = [] ∨ afterAny = true := by
  simp [FaultyAt, FollowsRest]

/-- Once the first part is read, the others are judged on their own. -/
theorem faultyAt_succ_iff :
    tokens.FaultyAt afterAny (part :: rest) (position + 1) ↔
      tokens.FaultyAt (tokens.segment part = .anyWords) rest position := by
  cases position with
  | zero =>
      simp [FaultyAt, FollowsRest, segment_eq_anyWords_iff]
  | succ position =>
      simp [FaultyAt, FollowsRest]

/-- A part at fault ends the reading. -/
theorem readParts_of_faulty
    (faulty : tokens.FaultyAt afterAny (part :: rest) 0) :
    tokens.readParts afterAny (part :: rest) =
      .error (AddressFault.of part) := by
  rw [faultyAt_zero_iff] at faulty
  rw [readParts, AddressFault.of]
  by_cases empty : part = []
  · simp [empty]
  · have after : afterAny = true := faulty.resolve_left empty
    simp [empty, after]

/-- Behind a part that is not at fault the others decide. -/
theorem readParts_eq_error_iff_of_sound
    (sound : ¬tokens.FaultyAt afterAny (part :: rest) 0) :
    tokens.readParts afterAny (part :: rest) = .error fault ↔
      tokens.readParts (tokens.segment part = .anyWords) rest =
        .error fault := by
  rw [faultyAt_zero_iff, not_or] at sound
  simp only [readParts, sound, ↓reduceIte, Bool.false_eq_true]
  cases tokens.readParts (tokens.segment part = .anyWords) rest <;>
    simp [Except.map]

/-- No part stands before the first one, so that is where a fault ends it. -/
theorem exists_firstFault_cons_iff_of_faulty
    (faulty : tokens.FaultyAt afterAny (part :: rest) 0) :
    (∃ position stood,
        tokens.FirstFault afterAny (part :: rest) position stood ∧
          fault = AddressFault.of stood) ↔
      fault = AddressFault.of part := by
  constructor
  · rintro ⟨position, stood, found, isFault⟩
    have atStart : position = 0 :=
      Nat.eq_zero_of_not_pos fun later => found.first 0 later faulty
    subst atStart
    have same : part = stood := by
      simpa using found.stands
    exact same ▸ isFault
  · intro isFault
    refine ⟨0, part, ?_, isFault⟩
    exact
      { stands := rfl
        faulty := faulty
        first := fun earlier before => absurd before (Nat.not_lt_zero _) }

theorem firstFault_succ_iff_of_sound
    (sound : ¬tokens.FaultyAt afterAny (part :: rest) 0) :
    tokens.FirstFault afterAny (part :: rest) (position + 1) stood ↔
      tokens.FirstFault (tokens.segment part = .anyWords) rest position
        stood := by
  constructor
  · intro found
    exact
      { stands := by simpa using found.stands
        faulty := faultyAt_succ_iff.mp found.faulty
        first := fun earlier before faulty =>
          found.first (earlier + 1) (Nat.succ_lt_succ before)
            (faultyAt_succ_iff.mpr faulty) }
  · intro found
    refine
      { stands := by simpa using found.stands
        faulty := faultyAt_succ_iff.mpr found.faulty
        first := ?_ }
    intro earlier before
    cases earlier with
    | zero =>
        exact sound
    | succ earlier =>
        rw [faultyAt_succ_iff]
        exact found.first earlier (Nat.lt_of_succ_lt_succ before)

/-- Behind a part that is not at fault the first fault is one further on. -/
theorem exists_firstFault_cons_iff_of_sound
    (sound : ¬tokens.FaultyAt afterAny (part :: rest) 0) :
    (∃ position stood,
        tokens.FirstFault afterAny (part :: rest) position stood ∧
          fault = AddressFault.of stood) ↔
      ∃ position stood,
        tokens.FirstFault (tokens.segment part = .anyWords) rest position
            stood ∧
          fault = AddressFault.of stood := by
  constructor
  · rintro ⟨position, stood, found, isFault⟩
    cases position with
    | zero =>
        exact (sound found.faulty).elim
    | succ position =>
        exact ⟨position, stood,
          (firstFault_succ_iff_of_sound sound).mp found, isFault⟩
  · rintro ⟨position, stood, found, isFault⟩
    exact ⟨position + 1, stood,
      (firstFault_succ_iff_of_sound sound).mpr found, isFault⟩

/-- Reading fails with what is told of the first part at fault. -/
theorem readParts_eq_error_iff :
    tokens.readParts afterAny parts = .error fault ↔
      ∃ position stood,
        tokens.FirstFault afterAny parts position stood ∧
          fault = AddressFault.of stood := by
  induction parts generalizing afterAny with
  | nil =>
      constructor
      · intro failed
        cases failed
      · rintro ⟨position, stood, found, _⟩
        cases found.stands
  | cons part rest inductionHypothesis =>
      by_cases faulty : tokens.FaultyAt afterAny (part :: rest) 0
      · rw [readParts_of_faulty faulty,
          exists_firstFault_cons_iff_of_faulty faulty, Except.error.injEq,
          eq_comm]
      · rw [readParts_eq_error_iff_of_sound faulty, inductionHypothesis,
          exists_firstFault_cons_iff_of_sound faulty]

/-- Reading succeeds exactly when no part is at fault. -/
theorem readParts_isOk_iff :
    (∃ segments, tokens.readParts afterAny parts = .ok segments) ↔
      ∀ position, ¬tokens.FaultyAt afterAny parts position := by
  induction parts generalizing afterAny with
  | nil =>
      simp [readParts, FaultyAt]
  | cons part rest inductionHypothesis =>
      rw [← Nat.and_forall_add_one]
      simp only [readParts_cons_eq_ok_iff, faultyAt_zero_iff, not_or,
        Bool.not_eq_true, faultyAt_succ_iff, ← inductionHypothesis]
      constructor
      · rintro ⟨_, nonempty, first, later, read, _⟩
        exact ⟨⟨nonempty, first⟩, later, read⟩
      · rintro ⟨⟨nonempty, first⟩, later, read⟩
        exact ⟨_, nonempty, first, later, read, rfl⟩

/-- No part is at fault if none is empty and any-words tokens stand last. -/
theorem forall_not_faultyAt_iff :
    (∀ position, ¬tokens.FaultyAt false parts position) ↔
      (∀ part ∈ parts, part ≠ []) ∧
        ∀ position part,
          parts[position]? = some part →
          tokens.StandsForRest part →
          parts[position + 1]? = none := by
  constructor
  · intro sound
    constructor
    · rintro part member rfl
      obtain ⟨position, stands⟩ := List.mem_iff_getElem?.mp member
      exact sound position ⟨[], stands, Or.inl rfl⟩
    · intro position part stands isRest
      rw [Option.eq_none_iff_forall_ne_some]
      intro next standsNext
      exact sound (position + 1)
        ⟨next, standsNext, Or.inr ⟨part, stands, isRest⟩⟩
  · rintro ⟨nonempty, last⟩ position ⟨part, stands, isEmpty | follows⟩
    · exact nonempty part (List.mem_of_getElem? stands) isEmpty
    · cases position with
      | zero =>
          cases follows
      | succ position =>
          obtain ⟨before, standsBefore, isRest⟩ := follows
          rw [last position before standsBefore isRest] at stands
          cases stands

end Tokens

namespace Address

variable
  {tokens : Tokens}
  {raw : String}

/-- A text is an address exactly when its parts can be read. -/
theorem parse_isOk_iff :
    (∃ address, parse tokens raw = .ok address) ↔
      ∃ segments,
        tokens.readParts false (tokens.parts raw) = .ok segments := by
  unfold parse
  cases tokens.readParts false (tokens.parts raw) <;> simp

/-- What is refused is the whole text, for the fault met in its parts. -/
theorem parse_eq_error_iff
    {refusal : Refusal} :
    parse tokens raw = .error refusal ↔
      ∃ fault,
        tokens.readParts false (tokens.parts raw) = .error fault ∧
          refusal = .malformed raw fault := by
  unfold parse
  cases tokens.readParts false (tokens.parts raw) <;>
    simp [eq_comm (a := refusal)]

end Address

/--
Whatever the tokens, delimiters join the parts of a text, and the text is an
address exactly when none of its parts is empty and no any-words token is
followed by another part.  If it is refused, the refusal has the whole text
and the reason of the first part that is empty or stands behind an any-words
token: that it is empty, or else that the token before it is not final.
-/
theorem parsing_reports_first_fault
    (tokens : Tokens)
    (raw : String) :
    let parts := tokens.parts raw
    (parts ≠ [] ∧
        (∀ part ∈ parts, tokens.delimiter ∉ part) ∧
          String.ofList ([tokens.delimiter].intercalate parts) = raw) ∧
      ((∃ address, Address.parse tokens raw = .ok address) ↔
        (∀ part ∈ parts, part ≠ []) ∧
          ∀ position part,
            parts[position]? = some part →
            tokens.StandsForRest part →
            parts[position + 1]? = none) ∧
        ∀ refusal,
          Address.parse tokens raw = .error refusal ↔
            ∃ position part fault,
              tokens.FirstFault false parts position part ∧
                refusal = .malformed raw fault ∧
                  fault.reason =
                    if part = [] then "empty segment"
                    else "any-words token must be the final segment" := by
  intro parts
  refine ⟨Tokens.parts_eq_iff.mp rfl, ?_, ?_⟩
  · rw [Address.parse_isOk_iff, Tokens.readParts_isOk_iff,
      Tokens.forall_not_faultyAt_iff]
  · intro refusal
    rw [Address.parse_eq_error_iff]
    simp only [Tokens.readParts_eq_error_iff, ← AddressFault.reason_of]
    constructor
    · rintro ⟨fault, ⟨position, part, found, rfl⟩, refused⟩
      exact ⟨position, part, _, found, refused, rfl⟩
    · rintro ⟨position, part, fault, found, refused, sameReason⟩
      exact ⟨fault, ⟨position, part, found,
        AddressFault.reason_injective sameReason⟩, refused⟩

/-- An empty part counts before the token, and the token before a later one. -/
example :
    Address.parse {} "#..a" = .error (.malformed "#..a" .emptySegment) ∧
      Address.parse {} "#.a." =
        .error (.malformed "#.a." .anyWordsNotFinal) :=
  ⟨rfl, rfl⟩

end BrokerRouting
