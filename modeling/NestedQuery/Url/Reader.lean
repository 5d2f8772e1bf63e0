import NestedQuery.Url.Basic

/-!
# Reading URLs

Blanks and control characters at the ends of a text do not count, nor do tabs
and line ends anywhere in it.  What follows the scheme depends on its kind.  The
schemes of the network always have a host, and take a backslash for a slash; so
does `file`, which may have a host and knows drives.  Any other scheme has an
authority behind two slashes, and may have a path that is not made of segments.
-/

namespace NestedQuery.Url

/-- What a scheme is for. -/
inductive Kind
  /-- The port is the one that need not be written. -/
  | network (port : UInt16)
  | file
  | other
  deriving DecidableEq

namespace Kind

def ofScheme : String → Kind
  | "http" | "ws" => .network 80
  | "https" | "wss" => .network 443
  | "ftp" => .network 21
  | "file" => .file
  | _ => .other

def isSlash (kind : Kind) (char : Char) : Bool :=
  char = '/' || (char = '\\' && kind ≠ .other)

/-- Reads a host that is not empty. -/
def readHost? : Kind → List Char → Option Host
  | .other, text => Host.ofText? text
  | _, text => Host.ofLookup? text

end Kind

/-- Splits a text before the first character of a sort. -/
def splitBefore (isEnd : Char → Bool) (text : List Char) : List Char × List Char :=
  (text.takeWhile (!isEnd ·), text.dropWhile (!isEnd ·))

/-- What stands before the query and the fragment. -/
def pathText (text : List Char) : List Char :=
  text.takeWhile fun char => char ≠ '?' && char ≠ '#'

/-- The part behind a mark. -/
def behind? (mark : Char) (text : List Char) : Option (List Char) :=
  match text.dropWhile (· ≠ mark) with
  | _ :: part => some part
  | [] => none

/-- The characters that may not stand in a fragment. -/
def fragmentReserved : List Char := [' ', '"', '<', '>', '\x60']

/-- The characters that may not stand in a query. -/
def queryReserved (kind : Kind) : List Char :=
  [' ', '"', '<', '>'] ++ if kind = .other then [] else ['\'']

/-- A URL that ends in the query and the fragment of a text. -/
def withTail (kind : Kind) (text : List Char) (url : Url) : Url :=
  let query := behind? '?' (text.takeWhile (· ≠ '#'))
  { url with
    query := query.map fun query =>
      String.ofList (Text.percentEncoded (queryReserved kind) query)
    fragment := (behind? '#' text).map fun fragment =>
      String.ofList (Text.percentEncoded fragmentReserved fragment) }

/-! ## Authorities -/

/-- The characters that may not stand in credentials. -/
def credentialsReserved : List Char :=
  Path.reserved ++ ['/', ':', ';', '=', '@', '[', '\\', ']', '^', '|']

def escapeCredential (text : List Char) : String :=
  String.ofList (Text.percentEncoded credentialsReserved text)

/-- The user and the password before the last at sign, and what follows it. -/
def splitCredentials (text : List Char) : Option (List Char) × List Char :=
  let last := (text.reverse.takeWhile (· ≠ '@')).reverse
  if last.length = text.length then (none, text)
  else (some (text.take (text.length - last.length - 1)), last)

/-- The user and the password; an empty password is none. -/
def readCredentials (text : List Char) : Authority :=
  { user := escapeCredential (text.takeWhile (· ≠ ':'))
    password := ((behind? ':' text).filter (!·.isEmpty)).map escapeCredential }

/-- Splits a host from its port; colons within brackets do not count. -/
def splitPort : Bool → List Char → List Char × Option (List Char)
  | _, [] => ([], none)
  | inBrackets, char :: rest =>
      if char = ':' ∧ !inBrackets then ([], some rest)
      else
        let isInside := char = '[' || (char ≠ ']' && inBrackets)
        let (host, port) := splitPort isInside rest
        (char :: host, port)

/-- A decimal port; an empty one is none. -/
def readPort? (text : List Char) : Option (Option UInt16) :=
  if text.isEmpty then some none
  else
    ((Text.natural? 10 text).filter fun port => port < UInt16.size).map fun port =>
      some port.toUInt16

/-- Reads an authority, and gives what a backslash behind the port starts. -/
def readAuthority? (kind : Kind) (text : List Char) : Option (Authority × List Char) := do
  let (credentials, text) := splitCredentials text
  let authority := (credentials.map readCredentials).getD {}
  let (host, port) := splitPort false text
  if host.isEmpty then
    let mayBeEmpty := kind = .other && port.isNone && authority.credentials.isEmpty &&
      credentials ≠ some []
    if mayBeEmpty then return (authority, []) else none
  else
    let host ← kind.readHost? host
    let (port, rest) := splitBefore (· = '\\') (port.getD [])
    let port ← readPort? port
    let isImplied := port.any fun port => kind = .network port
    return ({ authority with host, port := if isImplied then none else port }, rest)

/-- The path behind an authority. -/
def readPath (kind : Kind) (text : List Char) : String :=
  match text with
  | [] => if kind = .other then "" else "/"
  | char :: rest =>
      Path.text (Path.segments kind.isSlash
        (if kind.isSlash char then rest else text))

/-- Reads a URL with an authority. -/
def withAuthority? (scheme : String) (kind : Kind) (text : List Char) : Option Url := do
  let isEnd (char : Char) : Bool := kind.isSlash char || char = '?' || char = '#'
  let (authority, rest) := splitBefore isEnd text
  let (authority, path) ← readAuthority? kind authority
  return withTail kind rest
    { scheme, authority, path := readPath kind (path ++ pathText rest) }

/-! ## Files -/

/-- The path of a file.  A host does not go with a drive. -/
def fileUrl (host : Option Host) (text : List Char) : Url :=
  let segments := Path.segments Kind.file.isSlash text
  { scheme := "file"
    authority := some { host := if Path.hasDrive segments then none else host }
    path := Path.text (Path.dropEmpty (Path.settleDrive segments)) }

/-- Reads the host of a file; this host is not written. -/
def fileHost? (text : List Char) : Option (Option Host) :=
  if text.isEmpty then some none
  else (Host.ofLookup? text).map fun host =>
    if host = .name "localhost" then none else some host

def ofFile? (text : List Char) : Option Url :=
  let isSlash := Kind.file.isSlash
  match text with
  | first :: rest =>
      if !isSlash first then some (withTail .file text (fileUrl none (pathText text)))
      else if !rest.head?.any isSlash then
        some (withTail .file text (fileUrl none (pathText rest)))
      else
        let text := rest.drop 1
        let (host, path) :=
          splitBefore (fun char => isSlash char || char = '?' || char = '#') text
        if Path.isDrive host then
          some (withTail .file text (fileUrl none (pathText text)))
        else
          (fileHost? host).map fun host =>
            let named := if host.isSome then (pathText path).drop 1 else pathText path
            withTail .file path (fileUrl host named)
  | [] => some (fileUrl none [])

/-! ## URLs -/

/-- The path of a URL without an authority. -/
def freePath (text : List Char) : String :=
  match text with
  | '/' :: rest => Path.text (Path.segments Kind.other.isSlash rest)
  | text => String.ofList (Text.percentEncoded [] text)

/-- Reads what stands behind the colon of a scheme. -/
def ofRest? (scheme : String) (text : List Char) : Option Url :=
  match Kind.ofScheme scheme with
  | .network port =>
      let kind := Kind.network port
      withAuthority? scheme kind (text.dropWhile kind.isSlash)
  | .file => ofFile? text
  | .other =>
      match text with
      | '/' :: '/' :: rest => withAuthority? scheme .other rest
      | text => some (withTail .other text { scheme, path := freePath (pathText text) })

/-- A scheme starts with a letter and is written in small letters. -/
def readScheme? (text : List Char) : Option String :=
  let isPart (char : Char) : Bool := char.isAlphanum || "+-.".contains char
  if text.head?.any Char.isAlpha && text.all isPart then
    some (String.ofList text).toLower
  else none

/-- The text of a URL without the characters that do not count. -/
def cleaned (text : String) : List Char :=
  let isEdge (char : Char) : Bool := char.toNat ≤ 32
  let trimmed := ((text.toList.dropWhile isEdge).reverse.dropWhile isEdge).reverse
  trimmed.filter fun char => char ≠ '\t' ∧ char ≠ '\n' ∧ char ≠ '\r'

def parse? (text : String) : Option Url := do
  let (scheme, rest) := splitBefore (· = ':') (cleaned text)
  match rest with
  | [] => none
  | _ :: rest => ofRest? (← readScheme? scheme) rest

end NestedQuery.Url
