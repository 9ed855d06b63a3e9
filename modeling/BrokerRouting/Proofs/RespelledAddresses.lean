import BrokerRouting.Proofs.ReachedTexts
import BrokerRouting.Respelling

namespace BrokerRouting

/-!
# Addresses read alike under respelled tokens

Nothing in the reading of an address depends on which characters the tokens
are, as long as the text uses the same ones.  So a respelled text is split,
read and covered as the text was, and respelled bindings reach it as before.
-/

namespace Respelling

variable
  (respelling : Respelling)
  {raw other : String}

@[simp]
theorem text_inj :
    respelling.text raw = respelling.text other ↔ raw = other := by
  rw [text, text, ← String.toList_inj, String.toList_map, String.toList_map,
    List.map_inj_right fun _ _ same => respelling.injective same,
    String.toList_inj]

/-- Every text is the respelling of one. -/
theorem exists_text (raw : String) : ∃ own, respelling.text own = raw := by
  refine ⟨raw.map respelling.symm, ?_⟩
  rw [text, String.map_map, respelling.self_comp_symm, String.map_id]

theorem text_ofList (part : List Char) :
    String.ofList (part.map respelling) =
      respelling.text (String.ofList part) := by
  rw [text, ← String.toList_inj]
  simp

/-- Texts are split at the respelled delimiter into the respelled parts. -/
theorem splitOn_map
    (characters : List Char)
    (delimiter : Char) :
    (characters.map respelling).splitOn (respelling delimiter) =
      (characters.splitOn delimiter).map (List.map respelling) := by
  simp only [List.splitOn_eq_splitOnP]
  induction characters with
  | nil =>
      rfl
  | cons character rest inductionHypothesis =>
      rw [List.map_cons, List.splitOnP_cons_eq_if_modifyHead,
        List.splitOnP_cons_eq_if_modifyHead, inductionHypothesis]
      by_cases same : character = delimiter
      · simp [same]
      · simp only [beq_iff_eq, respelling.injective.eq_iff, same, ↓reduceIte]
        cases rest.splitOnP (· == delimiter) <;> rfl

theorem parts_eq
    (tokens : Tokens)
    (raw : String) :
    (respelling.tokens tokens).parts (respelling.text raw) =
      (tokens.parts raw).map (List.map respelling) := by
  rw [Tokens.parts, text, String.toList_map]
  exact respelling.splitOn_map raw.toList tokens.delimiter

/-- A part is the same token as before, or the respelled word. -/
theorem segment_eq
    (tokens : Tokens)
    (part : List Char) :
    (respelling.tokens tokens).segment (part.map respelling) =
      respelling.segment (tokens.segment part) := by
  have isToken (token : Char) :
      part.map respelling = [respelling token] ↔ part = [token] := by
    have respelled : [respelling token] = [token].map respelling := rfl
    rw [respelled, List.map_inj_right fun _ _ same => respelling.injective same]
  simp only [Tokens.segment, Respelling.tokens, isToken, text_ofList]
  split
  · rfl
  · split <;> rfl

@[simp]
theorem segment_eq_anyWords {segment : Segment} :
    respelling.segment segment = .anyWords ↔ segment = .anyWords := by
  cases segment <;> simp [Respelling.segment]

@[simp]
theorem segment_eq_literal
    {segment : Segment}
    {word : String} :
    respelling.segment segment = .literal (respelling.text word) ↔
      segment = .literal word := by
  cases segment <;> simp [Respelling.segment]

theorem readParts_eq
    (tokens : Tokens)
    (afterAny : Bool)
    (parts : List (List Char)) :
    (respelling.tokens tokens).readParts afterAny
        (parts.map (List.map respelling)) =
      (tokens.readParts afterAny parts).map respelling.segments := by
  induction parts generalizing afterAny with
  | nil =>
      rfl
  | cons part rest inductionHypothesis =>
      simp only [List.map_cons, Tokens.readParts, List.map_eq_nil_iff,
        segment_eq, segment_eq_anyWords, inductionHypothesis]
      split
      · rfl
      · split
        · rfl
        · cases tokens.readParts _ rest <;> rfl

/-- Reading a respelled text is respelling what the text reads as. -/
theorem parse_eq
    (tokens : Tokens)
    (raw : String) :
    Address.parse (respelling.tokens tokens) (respelling.text raw) =
      respelling.reading (Address.parse tokens raw) := by
  simp only [Address.parse, parts_eq, readParts_eq]
  cases tokens.readParts false (tokens.parts raw) <;> rfl

/-- Which words are given does not matter, only where they are the same. -/
@[simp]
theorem covers_eq (pattern candidate : Segments) :
    (respelling.segments pattern).covers (respelling.segments candidate) =
      pattern.covers candidate := by
  fun_induction Segments.covers pattern candidate with
  | case1 candidate =>
      cases candidate <;> rfl
  | case2 rest candidate =>
      rfl
  | case3 rest =>
      rfl
  | case4 word rest =>
      rfl
  | case5 pattern segment candidate inductionHypothesis =>
      exact inductionHypothesis
  | case6 text pattern word candidate inductionHypothesis =>
      change
        (decide (respelling.segment word = .literal (respelling.text text)) &&
          (respelling.segments pattern).covers
            (respelling.segments candidate)) = _
      simp only [segment_eq_literal, inductionHypothesis]

@[simp]
theorem hasWildcard_eq (address : Address) :
    (respelling.address address).hasWildcard = address.hasWildcard := by
  have sameKind :
      Segment.isWildcard ∘ respelling.segment = Segment.isWildcard := by
    funext segment
    cases segment <;> rfl
  simp only [Address.hasWildcard, Respelling.address, Segments.hasWildcard,
    Respelling.segments, List.any_map, sameKind]

@[simp]
theorem side_eq (address : Address) :
    (respelling.address address).side = address.side := by
  simp only [Address.side, hasWildcard_eq]

/-- Bindings reach respelled addresses as they reached the addresses. -/
theorem reaches_eq
    (binding : Binding)
    (address : Address) :
    (respelling.binding binding).reaches (respelling.address address) =
      binding.reaches address := by
  have sameText :
      (respelling.address binding.address).sameText
          (respelling.address address) =
        binding.address.sameText address := by
    simp [Address.sameText, Respelling.address]
  have sameCover :
      (respelling.address binding.address).covers
          (respelling.address address) =
        binding.address.covers address :=
    respelling.covers_eq binding.address.segments address.segments
  simp only [Binding.reaches, Respelling.binding, sameText, sameCover,
    hasWildcard_eq]

theorem meets_eq
    (address : Address)
    (other : Segments) :
    (respelling.address address).meets (respelling.segments other) =
      address.meets other := by
  simp only [Address.meets, side_eq]
  cases address.side <;> exact respelling.covers_eq ..

theorem reaches_iff
    {binding : Binding}
    {tokens : Tokens} :
    (respelling.binding binding).Reaches (respelling.tokens tokens)
        (respelling.text raw) ↔
      binding.Reaches tokens raw := by
  rw [Binding.Reaches, Binding.Reaches, parse_eq]
  cases Address.parse tokens raw with
  | error refusal =>
      simp [reading]
  | ok address =>
      simp [reading, reaches_eq]

end Respelling

end BrokerRouting
