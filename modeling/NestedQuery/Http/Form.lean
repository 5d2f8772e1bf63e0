import NestedQuery.Sort
import NestedQuery.Text.Bytes

/-!
# Form data in a query string

A query string is a list of `name=value` parts between ampersands; empty parts
do not count and a part without an equals sign has an empty value.  A plus
stands for a blank, a percent sign with two hexadecimal digits for a byte; any
other percent sign stands for itself.
-/

namespace NestedQuery.Http.Form

/-- The text of an encoded name or value. -/
def decode (text : List Char) : String :=
  let spaced := text.map fun char => if char = '+' then ' ' else char
  String.ofList
    (Text.decodeLossy (Text.percentDecoded spaced))

/-- The name and the value of a part. -/
def entry (part : List Char) : String × String :=
  (decode (part.takeWhile (· ≠ '=')), decode ((part.dropWhile (· ≠ '=')).drop 1))

/-- The names and values of a query string, in order. -/
def entries (query : String) : List (String × String) :=
  ((query.toList.splitOn '&').filter (!·.isEmpty)).map entry

end Form

end NestedQuery.Http

namespace NestedQuery.SortRequest

/-- Takes the property and the direction from form entries.  Either may be
given once; other names are ignored. -/
def addEntries (sort : SortRequest) : List (String × String) → Option SortRequest
  | [] => some sort
  | (name, value) :: entries =>
      if name = "property" then
        match sort.property with
        | some _ => none
        | none => { sort with property := some value }.addEntries entries
      else if name = "direction" then
        match sort.direction with
        | some _ => none
        | none => { sort with direction := some value }.addEntries entries
      else sort.addEntries entries

/-- The sort a query string states, unless it repeats itself. -/
def ofQuery? (query : String) : Option SortRequest :=
  SortRequest.addEntries {} (Http.Form.entries query)

end NestedQuery.SortRequest
