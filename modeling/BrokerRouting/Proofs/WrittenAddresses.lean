import BrokerRouting.Address.Parser

namespace BrokerRouting

/-!
# Addresses and their written form

Writing the segments of an address that was read gives its text back,
whatever the tokens.  So two addresses read with the same tokens that have
the same segments are the same address.
-/

namespace Tokens

variable
  {tokens : Tokens}
  {afterAny : Bool}
  {part : List Char}
  {parts : List (List Char)}
  {segments : Segments}

/-- Each part is read as a segment that is written as this part. -/
theorem write_segment
    (tokens : Tokens)
    (part : List Char) :
    tokens.write (tokens.segment part) = part := by
  unfold segment
  split
  · rename_i single
    exact single.symm
  · split
    · rename_i any
      exact any.symm
    · exact String.toList_ofList

/-- After a first part is read, the rest is read on its own. -/
theorem readParts_cons_eq_ok_iff :
    tokens.readParts afterAny (part :: parts) = .ok segments ↔
      part ≠ [] ∧ afterAny = false ∧
        ∃ rest,
          tokens.readParts (tokens.segment part = .anyWords) parts =
              .ok rest ∧
            segments = tokens.segment part :: rest := by
  rw [readParts]
  by_cases empty : part = []
  · simp [empty]
  · cases afterAny with
    | true =>
        simp [empty]
    | false =>
        simp only [empty, Bool.false_eq_true, ↓reduceIte, ne_eq,
          not_false_eq_true, true_and]
        cases tokens.readParts (tokens.segment part = .anyWords) parts with
        | error fault =>
            simp [Except.map]
        | ok rest =>
            simp [Except.map, eq_comm]

/-- What is read are the segments of the parts one by one. -/
theorem segments_of_readParts
    (read : tokens.readParts afterAny parts = .ok segments) :
    segments = parts.map tokens.segment := by
  induction parts generalizing afterAny segments with
  | nil =>
      cases read
      rfl
  | cons part rest inductionHypothesis =>
      obtain ⟨_, _, later, readLater, rfl⟩ :=
        readParts_cons_eq_ok_iff.mp read
      rw [inductionHypothesis readLater, List.map_cons]

/-- Nothing can be read after the token for all words that are left. -/
theorem eq_nil_of_readParts_afterAny
    (read : tokens.readParts true parts = .ok segments) :
    segments = [] := by
  cases parts with
  | nil =>
      cases read
      rfl
  | cons part rest =>
      obtain ⟨_, impossible, _⟩ := readParts_cons_eq_ok_iff.mp read
      cases impossible

/-- The token for all words that are left is read at the end only. -/
theorem not_anyWords_of_readParts
    {opening : Segments}
    {last : Segment}
    (read : tokens.readParts afterAny parts = .ok (opening ++ [last])) :
    .anyWords ∉ opening := by
  induction opening generalizing afterAny parts with
  | nil =>
      simp
  | cons first rest inductionHypothesis =>
      cases parts with
      | nil =>
          cases read
      | cons part later =>
          obtain ⟨_, _, read, readLater, split⟩ :=
            readParts_cons_eq_ok_iff.mp read
          obtain ⟨rfl, rfl⟩ := List.cons.inj split
          have notAny : tokens.segment part ≠ .anyWords := by
            intro any
            simp only [any, decide_true] at readLater
            simpa using eq_nil_of_readParts_afterAny readLater
          simp only [List.mem_cons, not_or]
          exact ⟨Ne.symm notAny, inductionHypothesis readLater⟩

end Tokens

namespace Address

variable
  {tokens : Tokens}
  {raw : String}
  {address first second : Address}

theorem raw_of_parse
    (parsed : parse tokens raw = .ok address) :
    address.raw = raw := by
  unfold parse at parsed
  split at parsed
  · cases parsed
    rfl
  · cases parsed

theorem parse_raw
    (parsed : parse tokens raw = .ok address) :
    parse tokens address.raw = .ok address := by
  rw [raw_of_parse parsed, parsed]

/-- The text decides the address. -/
theorem eq_of_parse
    (firstParsed : parse tokens first.raw = .ok first)
    (secondParsed : parse tokens second.raw = .ok second)
    (same : first.raw = second.raw) :
    first = second := by
  rw [same, secondParsed] at firstParsed
  exact (Except.ok.inj firstParsed).symm

/-- The segments of an address were read from the parts of its text. -/
theorem readParts_of_parse
    (parsed : parse tokens raw = .ok address) :
    tokens.readParts false (tokens.parts raw) = .ok address.segments := by
  unfold parse at parsed
  split at parsed
  · rename_i segments read
    cases parsed
    exact read
  · cases parsed

/-- Writing what was read gives the text back. -/
theorem render_of_parse
    (parsed : parse tokens raw = .ok address) :
    tokens.render address.segments = raw := by
  have read := Tokens.segments_of_readParts (readParts_of_parse parsed)
  have written :
      address.segments.map tokens.write = tokens.parts raw := by
    rw [read, List.map_map]
    exact (List.map_congr_left fun part _ =>
      tokens.write_segment part).trans (List.map_id _)
  rw [Tokens.render, written, Tokens.parts, List.intercalate_splitOn,
    String.ofList_toList]

/-- The segments and the text of an address that was read decide each other. -/
theorem segments_eq_iff_raw_eq
    (firstParsed : parse tokens first.raw = .ok first)
    (secondParsed : parse tokens second.raw = .ok second) :
    first.segments = second.segments ↔ first.raw = second.raw := by
  constructor
  · intro same
    rw [← render_of_parse firstParsed, same, render_of_parse secondParsed]
  · intro sameText
    exact congrArg segments
      (eq_of_parse firstParsed secondParsed sameText)

end Address

end BrokerRouting
