/-!
# Media types

A media type is a type and a subtype, followed by parameters.  The subtype ends
at its last plus sign; what follows the plus is the structured suffix.  A body
is JSON when its type is `application` and either the subtype or the suffix is
`json`; letter case does not matter.
-/

namespace NestedQuery.Http.MediaType

/-- The characters of a token. -/
def isTokenChar (char : Char) : Bool :=
  char.isAlphanum || "!#$%&'*+-.^_|~".toList.contains char || char.toNat = 0x60

/-- The characters a quoted value may hold. -/
def isQuotedChar (char : Char) : Bool := 31 < char.toNat && char.toNat < 127

/-- The text behind the semicolon that ends a parameter, or nothing if the
parameter ends the text. -/
def following? : List Char → Option (List Char)
  | [] => some []
  | ';' :: text => some text
  | _ => none

/-- Reads a quoted value after its opening quote.  The first character belongs
to the value even if it is a quote. -/
def quotedValue? : List Char → Option (List Char)
  | [] => none
  | first :: text =>
      let value := first :: text.takeWhile (· ≠ '"')
      match text.dropWhile (· ≠ '"') with
      | _ :: rest =>
          if value.all isQuotedChar then following? (rest.dropWhile (· = ' '))
          else none
      | [] => none

/-- Reads a value, which is quoted, a token, or at the end nothing. -/
def value? : List Char → Option (List Char)
  | '"' :: text => quotedValue? text
  | [] => some []
  | text =>
      if (text.takeWhile isTokenChar).isEmpty then none
      else following? (text.dropWhile isTokenChar)

/-- Reads a parameter: a name, an equals sign and a value. -/
def parameter? (text : List Char) : Option (List Char) :=
  match text.dropWhile isTokenChar with
  | '=' :: value => if (text.takeWhile isTokenChar).isEmpty then none else value? value
  | _ => none

/-- Whether a text after a semicolon lists parameters, each after any number of
spaces.  A semicolon with no parameter behind it may end the list. -/
def areParameters : Nat → List Char → Bool
  | 0, _ => false
  | fuel + 1, text =>
      match text.dropWhile (· = ' ') with
      | [] => true
      | text =>
          match parameter? text with
          | none => false
          | some text => areParameters fuel text

/-- The subtype proper and the suffix behind its last plus sign, if any.  A plus
in first place belongs to the subtype. -/
def splitSuffix (subtype : List Char) : List Char × Option (List Char) :=
  let suffix := (subtype.reverse.takeWhile (· ≠ '+')).reverse
  if suffix.length + 1 < subtype.length then
    (subtype.take (subtype.length - suffix.length - 1), some suffix)
  else (subtype, none)

/-- Whether a media type is well formed and stands for JSON. -/
def isJson (mediaType : String) : Bool :=
  let text := mediaType.toList.map Char.toLower
  match text.dropWhile isTokenChar with
  | '/' :: rest =>
      let subtype := rest.takeWhile isTokenChar
      let wellFormed :=
        match rest.dropWhile isTokenChar with
        | [] => true
        | ';' :: text => !subtype.isEmpty && areParameters (text.length + 1) text
        | _ => false
      let (proper, suffix) := splitSuffix subtype
      wellFormed && text.takeWhile isTokenChar = "application".toList &&
        (proper = "json".toList || suffix = some "json".toList)
  | _ => false

end NestedQuery.Http.MediaType
