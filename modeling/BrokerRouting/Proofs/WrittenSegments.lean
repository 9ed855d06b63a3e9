import BrokerRouting.Proofs.AddressGrammar

namespace BrokerRouting

/-!
# Segments and their written form

Segments are written as a text and read back as themselves when each of their
words stays one part and is no token, and when an any-words token comes last.
Nothing else can be read from a text at all.  As every text that is read is
the written form of its segments, addresses are the same by their texts
exactly when they are the same by their segments.
-/

namespace Tokens

/-- A given word that is neither split nor taken for a token once written. -/
structure WritableWord
    (tokens : Tokens)
    (word : String) :
    Prop where
  nonempty : word ≠ ""
  unsplit : tokens.delimiter ∉ word.toList
  notSingleWord : word ≠ String.singleton tokens.singleWord
  notAnyWords : word ≠ String.singleton tokens.anyWords

/-- Segments whose written form stands for nothing else. -/
structure Writable
    (tokens : Tokens)
    (segments : Segments) :
    Prop where
  nonempty : segments ≠ []
  words : ∀ word, .literal word ∈ segments → tokens.WritableWord word
  anyWordsLast : .anyWords ∉ segments.dropLast

variable
  {tokens : Tokens}
  {segment : Segment}
  {segments : Segments}
  {part : List Char}
  {word : String}

/-- A part that is read as a given word is this word and no token. -/
theorem segment_eq_literal_iff :
    tokens.segment part = .literal word ↔
      part = word.toList ∧
        part ≠ [tokens.singleWord] ∧ part ≠ [tokens.anyWords] := by
  have sameText : String.ofList part = word ↔ part = word.toList := by
    rw [← String.toList_inj, String.toList_ofList]
  unfold Tokens.segment
  by_cases single : part = [tokens.singleWord]
  · simp [single]
  · by_cases any : part = [tokens.anyWords]
    · subst any
      simp [single]
    · simp [single, any, sameText]

namespace Writable

/-- Once written, a segment is read as itself. -/
theorem segment_write
    (writable : Writable tokens segments)
    (valid : tokens.Valid)
    (member : segment ∈ segments) :
    tokens.segment (tokens.write segment) = segment := by
  cases segment with
  | singleWord =>
      simp [write, Tokens.segment]
  | anyWords =>
      rw [segment_eq_anyWords_iff]
      exact ⟨rfl, valid.2.2⟩
  | literal word =>
      have fits := writable.words word member
      rw [segment_eq_literal_iff]
      simp only [write, ← String.toList_singleton, ne_eq, String.toList_inj,
        true_and]
      exact ⟨fits.notSingleWord, fits.notAnyWords⟩

theorem write_ne_nil
    (writable : Writable tokens segments)
    (member : segment ∈ segments) :
    tokens.write segment ≠ [] := by
  cases segment with
  | singleWord | anyWords =>
      simp [write]
  | literal word =>
      simpa [write] using (writable.words word member).nonempty

theorem delimiter_not_mem_write
    (writable : Writable tokens segments)
    (valid : tokens.Valid)
    (member : segment ∈ segments) :
    tokens.delimiter ∉ tokens.write segment := by
  obtain ⟨notSingle, notAny, _⟩ := valid
  cases segment with
  | singleWord =>
      simpa [write] using notSingle
  | anyWords =>
      simpa [write] using notAny
  | literal word =>
      exact (writable.words word member).unsplit

/-- A written text is split where its segments were joined. -/
theorem parts_render
    (writable : Writable tokens segments)
    (valid : tokens.Valid) :
    tokens.parts (tokens.render segments) =
      segments.map tokens.write := by
  rw [parts_eq_iff]
  refine ⟨?_, ?_, rfl⟩
  · simpa using writable.nonempty
  · intro part member
    obtain ⟨segment, written, rfl⟩ := List.mem_map.mp member
    exact writable.delimiter_not_mem_write valid written

/-- Only the last segment is written as an any-words token. -/
theorem not_standsForRest_of_followed
    (writable : Writable tokens segments)
    (valid : tokens.Valid)
    {position : Nat}
    {first next : Segment}
    (stands : segments[position]? = some first)
    (followed : segments[position + 1]? = some next) :
    ¬tokens.StandsForRest (tokens.write first) := by
  intro isRest
  have isAny : first = .anyWords := by
    rw [← writable.segment_write valid (List.mem_of_getElem? stands)]
    exact segment_eq_anyWords_iff.mpr isRest
  have shorter : position < segments.length - 1 := by
    have inBounds := (List.getElem?_eq_some_iff.mp followed).1
    omega
  apply writable.anyWordsLast
  apply List.mem_of_getElem? (i := position)
  rw [List.getElem?_dropLast, if_pos shorter, stands, isAny]

/-- The written parts are read as the segments they were written for. -/
theorem readParts_map_write
    (writable : Writable tokens segments)
    (valid : tokens.Valid) :
    tokens.readParts false (segments.map tokens.write) = .ok segments := by
  have sound :
      ∀ position,
        ¬tokens.FaultyAt false (segments.map tokens.write) position := by
    rw [forall_not_faultyAt_iff]
    constructor
    · intro part member
      obtain ⟨segment, written, rfl⟩ := List.mem_map.mp member
      exact writable.write_ne_nil written
    · intro position part stands isRest
      rw [List.getElem?_map, Option.map_eq_some_iff] at stands
      obtain ⟨first, stands, rfl⟩ := stands
      rw [List.getElem?_map, Option.map_eq_none_iff,
        Option.eq_none_iff_forall_ne_some]
      intro next followed
      exact writable.not_standsForRest_of_followed valid stands followed
        isRest
  obtain ⟨found, read⟩ := readParts_isOk_iff.mpr sound
  have same : found = segments := by
    rw [segments_of_readParts read, List.map_map]
    exact (List.map_congr_left fun segment member =>
      writable.segment_write valid member).trans (List.map_id _)
  rw [read, same]

end Writable

/-- What is read from a text can be written again. -/
theorem writable_of_parse
    {raw : String}
    {address : Address}
    (parsed : Address.parse tokens raw = .ok address) :
    tokens.Writable address.segments := by
  have read := Address.readParts_of_parse parsed
  have fromParts := segments_of_readParts read
  have split : tokens.parts raw = tokens.parts raw := rfl
  obtain ⟨nonempty, apart, _⟩ := parts_eq_iff.mp split
  obtain ⟨noneEmpty, _⟩ :=
    forall_not_faultyAt_iff.mp (readParts_isOk_iff.mp ⟨_, read⟩)
  refine
    { nonempty := by simpa [fromParts] using nonempty
      words := ?_
      anyWordsLast := ?_ }
  · intro word member
    rw [fromParts] at member
    obtain ⟨part, isPart, isWord⟩ := List.mem_map.mp member
    obtain ⟨rfl, notSingle, notAny⟩ := segment_eq_literal_iff.mp isWord
    exact
      { nonempty := by simpa using noneEmpty _ isPart
        unsplit := apart _ isPart
        notSingleWord := by
          rintro rfl
          exact notSingle (String.toList_singleton _)
        notAnyWords := by
          rintro rfl
          exact notAny (String.toList_singleton _) }
  · have someSegment : address.segments ≠ [] := by
      simpa [fromParts] using nonempty
    rw [← List.dropLast_concat_getLast someSegment] at read
    exact not_anyWords_of_readParts read

end Tokens

namespace Address

variable
  {tokens : Tokens}
  {segments : Segments}

theorem hasWildcard_iff
    {address : Address} :
    address.hasWildcard = true ↔
      .singleWord ∈ address.segments ∨ .anyWords ∈ address.segments := by
  simp only [hasWildcard, Segments.hasWildcard, List.any_eq_true]
  constructor
  · rintro ⟨segment, member, isWildcard⟩
    cases segment with
    | literal word =>
        cases isWildcard
    | singleWord =>
        exact Or.inl member
    | anyWords =>
        exact Or.inr member
  · rintro (member | member)
    · exact ⟨_, member, rfl⟩
    · exact ⟨_, member, rfl⟩

/-- A written text is read as what it was written for. -/
theorem parse_render
    (valid : tokens.Valid)
    (writable : tokens.Writable segments) :
    parse tokens (tokens.render segments) =
      .ok ⟨tokens.render segments, segments⟩ := by
  rw [parse, writable.parts_render valid,
    writable.readParts_map_write valid]

end Address

/--
Whatever the tokens, writing the segments of an address gives back the text
it was read from, so two addresses have the same segments exactly when they
have the same text.  With tokens that differ, writing some segments gives a
text that is read as these segments exactly when they are writable.
-/
theorem reading_inverts_writing (tokens : Tokens) :
    (∀ raw address,
        Address.parse tokens raw = .ok address →
        address.raw = raw ∧ tokens.render address.segments = raw) ∧
      (∀ raw other first second,
        Address.parse tokens raw = .ok first →
        Address.parse tokens other = .ok second →
        (first.segments = second.segments ↔
          first.sameText second = true)) ∧
        (tokens.Valid →
          ∀ segments,
            tokens.Writable segments ↔
              ∃ address,
                Address.parse tokens (tokens.render segments) =
                    .ok address ∧
                  address.segments = segments ∧
                    (address.hasWildcard = true ↔
                      .singleWord ∈ segments ∨ .anyWords ∈ segments)) := by
  refine ⟨?_, ?_, ?_⟩
  · intro raw address parsed
    exact ⟨Address.raw_of_parse parsed, Address.render_of_parse parsed⟩
  · intro raw other first second firstParsed secondParsed
    rw [Address.sameText, decide_eq_true_eq]
    exact Address.segments_eq_iff_raw_eq (Address.parse_raw firstParsed)
      (Address.parse_raw secondParsed)
  · intro valid segments
    constructor
    · intro writable
      exact ⟨_, Address.parse_render valid writable, rfl,
        Address.hasWildcard_iff⟩
    · rintro ⟨address, parsed, rfl, _⟩
      exact Tokens.writable_of_parse parsed

/-- Under other tokens the usual ones are given words, alone or not. -/
theorem usual_tokens_are_written_as_words :
    let tokens : Tokens := { delimiter := '/', singleWord := '+' }
    let segments : Segments :=
      [.literal "*", .singleWord, .literal "a#", .anyWords]
    let first : Address := ⟨"*/+", [.literal "*", .singleWord]⟩
    let second : Address := ⟨"*/#", [.literal "*", .anyWords]⟩
    tokens.Valid ∧
      Address.parse tokens "*/+" = .ok first ∧
        Address.parse tokens "*/#" = .ok second ∧
          tokens.Writable segments ∧
            tokens.render first.segments = "*/+" ∧
              (first.segments = second.segments ↔
                first.sameText second = true) ∧
                ∃ address,
                  Address.parse tokens (tokens.render segments) =
                      .ok address ∧
                    address.segments = segments ∧
                      address.hasWildcard = true := by
  intro tokens segments first second
  have valid : tokens.Valid := by
    decide
  have firstParsed : Address.parse tokens "*/+" = .ok first := by
    rfl
  have secondParsed : Address.parse tokens "*/#" = .ok second := by
    rfl
  have writable : tokens.Writable segments := by
    refine
      { nonempty := List.cons_ne_nil _ _
        words := ?_
        anyWordsLast := by decide }
    intro word member
    simp only [segments, List.mem_cons, Segment.literal.injEq, reduceCtorEq,
      List.not_mem_nil, or_false, false_or] at member
    rcases member with rfl | rfl <;>
      exact ⟨by decide, by decide, by decide, by decide⟩
  obtain ⟨writtenBack, sameByText, readBack⟩ :=
    reading_inverts_writing tokens
  obtain ⟨address, parsed, sameSegments, wildcard⟩ :=
    (readBack valid segments).mp writable
  exact ⟨valid, firstParsed, secondParsed, writable,
    (writtenBack _ _ firstParsed).2,
    sameByText _ _ _ _ firstParsed secondParsed,
    address, parsed, sameSegments, wildcard.mpr (by decide)⟩

end BrokerRouting
