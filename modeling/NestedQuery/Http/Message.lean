/-!
# HTTP messages

Requests and responses as far as the service looks at them.  Header names
compare without regard to letter case, and of several headers with one name the
first counts.  The body of a request is whatever bytes the caller has sent.
-/

namespace NestedQuery.Http

/-- Whether a text may be the value of a header: the tab and every other
character but the controls below the space and the delete character. -/
def isHeaderValue (text : String) : Bool :=
  text.toList.all fun char =>
    char = '\t' || (32 ≤ char.toNat && char.toNat ≠ 127)

/-- A text is sent as its bytes in UTF-8. -/
instance textBytes : Coe String ByteArray := ⟨String.toUTF8⟩

structure Request where
  method : String := "GET"
  path : String
  /-- The part of the target behind the question mark. -/
  query : String := ""
  headers : List (String × String) := []
  body : ByteArray := .empty

namespace Request

def header? (request : Request) (name : String) : Option String :=
  (request.headers.find? (·.1.toLower == name)).map (·.2)

/-- The target without scheme and authority.  A target that is an authority alone
has no path; the asterisk stands for the whole server and is its own path. -/
def stripAuthority (target : List Char) : List Char :=
  match target with
  | '/' :: _ => target
  | _ =>
      match target.dropWhile (· ≠ ':') with
      | ':' :: '/' :: '/' :: rest =>
          match rest.dropWhile fun char => char ≠ '/' ∧ char ≠ '?' with
          | '/' :: path => '/' :: path
          | rest => '/' :: rest
      | _ => if target = ['*'] then target else []

/-- Puts the path and the query of a target into a request.  A fragment is
dropped. -/
def withTarget (request : Request) (target : String) : Request :=
  let text := stripAuthority (target.toList.takeWhile (· ≠ '#'))
  { request with
    path := String.ofList (text.takeWhile (· ≠ '?'))
    query := String.ofList ((text.dropWhile (· ≠ '?')).drop 1) }

end Request

structure Response where
  status : Nat
  headers : List (String × String) := []
  body : String := ""
  deriving DecidableEq

namespace Response

/-- The response with its headers alone. -/
def withoutBody (response : Response) : Response :=
  { response with body := "" }

end Response

end NestedQuery.Http
