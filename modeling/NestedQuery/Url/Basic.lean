import NestedQuery.Text.Bytes
import NestedQuery.Url.Host
import NestedQuery.Url.Path

/-!
# URLs

A URL in normal form: every part is written the way it is printed, with its
escapes.  Behind the scheme come an authority, a path, a query and a fragment;
all but the path may be missing.
-/

namespace NestedQuery

/-- Who is asked for what the path names. -/
structure Authority where
  user : String := ""
  password : Option String := none
  /-- An authority may be empty. -/
  host : Option Host := none
  port : Option UInt16 := none
  deriving DecidableEq

namespace Authority

def credentials (authority : Authority) : String :=
  let text := authority.user ++
    match authority.password with
    | some password => ":" ++ password
    | none => ""
  if text.isEmpty then "" else text ++ "@"

def text (authority : Authority) : String :=
  authority.credentials ++ (authority.host.elim "" Host.text) ++
    authority.port.elim "" fun port => ":" ++ toString port.toNat

/-- What an escaped part stands for, if that is a text. -/
def meaning? (part : String) : Option String :=
  String.fromUTF8? ⟨(Text.percentDecoded part.toList).toArray⟩

/-- Takes the user and the password away if they stand for texts. -/
def withoutCredentials (authority : Authority) : Authority :=
  match meaning? authority.user with
  | none => authority
  | some user =>
      if user.isEmpty && (authority.password.bind meaning?).isNone then authority
      else { authority with user := "", password := none }

end Authority

structure Url where
  scheme : String
  authority : Option Authority := none
  /-- A path without an authority may be any text; else it is empty or starts
  with a slash. -/
  path : String
  query : Option String := none
  fragment : Option String := none
  deriving DecidableEq

namespace Url

def host? (url : Url) : Option Host := url.authority.bind Authority.host

/-- The path and the query. -/
def target (url : Url) : String :=
  url.path ++ url.query.elim "" ("?" ++ ·)

/-- A path that would pass for an authority has a dot segment before it. -/
def text (url : Url) : String :=
  let authority :=
    match url.authority with
    | some authority => "//" ++ authority.text
    | none => if "//".isPrefixOf url.path then "/." else ""
  url.scheme ++ ":" ++ authority ++ url.target ++ url.fragment.elim "" ("#" ++ ·)

def withoutCredentials (url : Url) : Url :=
  { url with authority := url.authority.map Authority.withoutCredentials }

end Url

end NestedQuery
