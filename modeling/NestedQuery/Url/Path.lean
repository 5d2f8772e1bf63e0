import NestedQuery.Text.Bytes

/-!
# Paths

A path is a list of segments, each with a slash before it.  Characters that may
not stand in a segment are escaped, and dot segments are resolved: one dot stands
for nothing, two dots take the segment before away.  A segment that names a
drive, a letter with a colon or a bar behind it, stays where it is.
-/

namespace NestedQuery.Path

/-- The characters that may not stand in a segment. -/
def reserved : List Char :=
  [' ', '"', '#', '<', '>', '?', '\x60', '\x7b', '\x7d']

def isDot (segment : List Char) : Bool :=
  [".", "%2e"].contains (String.ofList segment).toLower

def isDoubleDot (segment : List Char) : Bool :=
  ["..", ".%2e", "%2e.", "%2e%2e"].contains (String.ofList segment).toLower

/-- Whether a segment names a drive. -/
def isDrive : List Char → Bool
  | [letter, mark] => letter.isAlpha && (mark = ':' || mark = '|')
  | _ => false

/-- Whether a segment names a drive and perhaps goes on behind a backslash. -/
def startsWithDrive (segment : List Char) : Bool :=
  isDrive (segment.takeWhile (· ≠ '\\'))

/-- Resolves the dot segments; `kept` holds the segments so far, last first.  A
dot segment at the end leaves an empty one. -/
def resolveDots : List (List Char) → List (List Char) → List (List Char)
  | kept, [] => kept.reverse
  | kept, segment :: segments =>
      let isLast := segments.isEmpty
      if isDoubleDot segment then
        let left :=
          match kept with
          | before :: rest => if startsWithDrive before then kept else rest
          | [] => []
        if isLast then ([] :: left).reverse else resolveDots left segments
      else if isDot segment then
        if isLast then ([] :: kept).reverse else resolveDots kept segments
      else resolveDots (segment :: kept) segments

/-- The segments of a text whose slashes are known. -/
def segments (isSlash : Char → Bool) (text : List Char) : List (List Char) :=
  resolveDots [] ((text.splitOnP isSlash).map (Text.percentEncoded reserved))

/-- Writes the drive a list of segments starts with behind a colon. -/
def settleDrive : List (List Char) → List (List Char)
  | segment :: rest =>
      if isDrive segment then (segment.take 1 ++ [':']) :: rest else segment :: rest
  | [] => []

/-- Whether a list of segments starts with a drive. -/
def hasDrive (segments : List (List Char)) : Bool := segments.head?.any isDrive

/-- Takes away the empty segments a list starts with, but for the last one. -/
def dropEmpty : List (List Char) → List (List Char)
  | [] :: segment :: rest => dropEmpty (segment :: rest)
  | segments => segments

def text (segments : List (List Char)) : String :=
  String.ofList (segments.flatMap ('/' :: ·))

end NestedQuery.Path
