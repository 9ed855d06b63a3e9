import BrokerRouting.Address.Basic

namespace BrokerRouting

/-!
# Reading and writing addresses

A text is split at every delimiter first; each part is then a token if it is
exactly that one character, and a given word otherwise.  The single-word token
is tried before the any-words token, which matters only where the two are the
same character.  The first part that is empty or stands after an any-words
token is the fault reported.

The written form of a row of segments is each given word as it is, each open
segment as its token, and a delimiter between any two.
-/

namespace Tokens

/-- The segment that one part of a text stands for. -/
def segment
    (tokens : Tokens)
    (part : List Char) :
    Segment :=
  if part = [tokens.singleWord] then .singleWord
  else if part = [tokens.anyWords] then .anyWords
  else .literal (String.ofList part)

/-- The parts of a text between delimiters; an empty text is one empty part. -/
def parts
    (tokens : Tokens)
    (raw : String) :
    List (List Char) :=
  raw.toList.splitOn tokens.delimiter

/--
Read parts in order, told whether the part before them was the any-words
token.
-/
def readParts
    (tokens : Tokens)
    (afterAny : Bool) :
    List (List Char) → Except AddressFault Segments
  | [] => .ok []
  | part :: rest =>
      if part = [] then .error .emptySegment
      else if afterAny then .error .anyWordsNotFinal
      else
        let segment := tokens.segment part
        (tokens.readParts (segment = .anyWords) rest).map (segment :: ·)

/-- The characters that stand for one segment. -/
def write (tokens : Tokens) : Segment → List Char
  | .literal text => text.toList
  | .singleWord => [tokens.singleWord]
  | .anyWords => [tokens.anyWords]

/-- The text of a row of segments. -/
def render
    (tokens : Tokens)
    (segments : Segments) :
    String :=
  String.ofList ([tokens.delimiter].intercalate (segments.map tokens.write))

end Tokens

/-- Read a text as an address, or report its first fault. -/
def Address.parse
    (tokens : Tokens)
    (raw : String) :
    Except Refusal Address :=
  match tokens.readParts false (tokens.parts raw) with
  | .ok segments => .ok { raw, segments }
  | .error fault => .error (.malformed raw fault)

end BrokerRouting
