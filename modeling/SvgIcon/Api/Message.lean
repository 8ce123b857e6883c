import SvgIcon.File.Encoding
import SvgIcon.Json.Writer
import SvgIcon.Text.Case
import SvgIcon.Text.Blank
import SvgIcon.Text.Scan
import SvgIcon.Text.Word

/-!
Requests to the service over HTTP, and its responses.
-/

namespace SvgIcon
namespace Api

structure Request where
  method : String
  /-- The path, with a query behind it if there is one. -/
  target : String
  headers : Assoc String := []
  body : ByteArray := .empty

inductive Content
  | json (v : Value)
  | text (s : String)
  deriving Repr, BEq

structure Response where
  status : Nat
  content : Content
  /-- The origin that browsers may show the response to. -/
  allowOrigin : Option String := none
  /-- Where the client is sent to. -/
  location : Option String := none
  deriving Repr, BEq

namespace Request

/-- A header; its name may be written in any case. -/
def header? (r : Request) (name : String) : Option String :=
  (r.headers.find? fun h => Text.lowered h.1 = Text.lowered name).map (·.2)

def hexByte? (a b : Char) : Option UInt8 := do
  let high ← hex? a
  let low ← hex? b
  return UInt8.ofNat (16 * high + low)
where
  hex? (c : Char) : Option Nat :=
    if Text.isAsciiDigit c then some (c.toNat - '0'.toNat)
    else if 'a' ≤ c && c ≤ 'f' then some (c.toNat - 'a'.toNat + 10)
    else if 'A' ≤ c && c ≤ 'F' then some (c.toNat - 'A'.toNat + 10)
    else none

def unescaped : List Char → List UInt8
  | '%' :: a :: b :: s =>
    match hexByte? a b with
    | some byte => byte :: unescaped s
    | none => UInt8.ofNat '%'.toNat :: unescaped (a :: b :: s)
  | c :: s => (String.singleton c).toUTF8.data.toList ++ unescaped s
  | [] => []

/-- The path without query and escapes; a path that is not UTF-8 names nothing. -/
def path (r : Request) : String :=
  let raw := r.target.toList.takeWhile fun c => c ≠ '?' && c ≠ '#'
  (String.fromUTF8? ⟨(unescaped raw).toArray⟩).getD ""

/-- The path leads to a place of that path; a line feed behind it does not matter. -/
def leadsTo (path place : String) : Bool := path = place || path = place ++ "\n"

/-- The type and subtype of the body in lower case; anything unclear counts as plain text. -/
def mediaType (contentType : String) : List Char × List Char :=
  let first := Text.lower (contentType.toList.takeWhile (· ≠ ';'))
  match Text.pieces '/' (Text.trim first) with
  | [kind, sub] => (kind, sub)
  | _ => ("text".toList, "plain".toList)

/-- The body is declared to be JSON. -/
def isJson (r : Request) : Bool :=
  match r.header? "content-type" with
  | none | some "" => false
  | some declared =>
    let (kind, sub) := mediaType declared
    kind = "application".toList && (sub = "json".toList || "+json".toList.isSuffixOf sub)

end Request

namespace Response

def json (status : Nat) (v : Value) : Response := { status, content := .json v }

/-- A response of the framework, which says in a word what is wrong. -/
def detail (status : Nat) (reason : String) : Response :=
  json status (.object [("detail", .text reason)])

def notFound : Response := detail 404 "Not Found"

def methodNotAllowed : Response := detail 405 "Method Not Allowed"

/-- The answer where answering broke down. -/
def brokenDown : Response := { status := 500, content := .text "Internal Server Error" }

/-- Send the client to another path with the same request. -/
def redirect (path : String) : Response :=
  { status := 307, content := .text "", location := some path }

end Response
end Api
end SvgIcon
