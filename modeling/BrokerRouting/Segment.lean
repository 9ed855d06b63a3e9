namespace BrokerRouting

/-!
# Segments

An address is a row of segments.  A pattern covers another row when every
segment up to its any-words token, or up to its end, accepts the segment at the
same position.
-/

/-- One word of an address, given or left open. -/
inductive Segment where
  /-- A given word. -/
  | literal (text : String)
  /-- Any one word. -/
  | singleWord
  /-- All words that are left, also none. -/
  | anyWords
  deriving Repr, DecidableEq

/-- The segments of an address from first to last. -/
abbrev Segments := List Segment

namespace Segment

/-- Whether the segment leaves its words open. -/
def isWildcard : Segment → Bool
  | .literal _ => false
  | .singleWord | .anyWords => true

end Segment

namespace Segments

/-- Whether some segment leaves its words open. -/
def hasWildcard (segments : Segments) : Bool :=
  segments.any Segment.isWildcard

/--
Whether a pattern covers a row of segments.  An open segment of the row counts
as one more word, which no given word equals.
-/
def covers : Segments → Segments → Bool
  | [], candidate => candidate.isEmpty
  | .anyWords :: _, _ => true
  | .singleWord :: _, [] => false
  | .literal _ :: _, [] => false
  | .singleWord :: pattern, _ :: candidate => covers pattern candidate
  | .literal text :: pattern, word :: candidate =>
      word = .literal text && covers pattern candidate

end Segments

end BrokerRouting
