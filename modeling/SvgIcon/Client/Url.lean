import SvgIcon.Client.Address

/-!
Splitting URLs as far as the health check needs it: the scheme and the authority.
-/

namespace SvgIcon
namespace Client

open Text

/-- Characters that become `/`, `?`, `#`, `@` or `:`, alone or among others, when a host name is
brought into its compatibility form. -/
def delimiterLookalikes : List Nat := [
  0x2047, 0x2048, 0x2049, 0x2100, 0x2101, 0x2105, 0x2106, 0x2A74, 0xFE13, 0xFE16, 0xFE55, 0xFE56,
  0xFE5F, 0xFE6B, 0xFF03, 0xFF0F, 0xFF1A, 0xFF1F, 0xFF20]

/-- The parts of a URL that name a server. -/
structure Server where
  scheme : List Char
  authority : List Char
  deriving DecidableEq, Repr

def isSchemeChar (c : Char) : Bool :=
  isAsciiLetter c || isAsciiDigit c || c = '+' || c = '-' || c = '.'

/-- The scheme in lower case and the rest, if the text starts with a scheme. -/
def scheme (url : List Char) : List Char × List Char :=
  let name := url.takeWhile (· ≠ ':')
  if url.contains ':' && (name.head?.map isAsciiLetter).getD false && name.all isSchemeChar then
    (name.map Char.toLower, url.drop (name.length + 1))
  else ([], url)

/-- The text behind the last copy of a character, all of it if there is none. -/
def afterLast (c : Char) (s : List Char) : List Char := (s.reverse.takeWhile (· ≠ c)).reverse

/-- The host of an authority with brackets: behind the user, what the brackets hold, or what stands
before the port.  Brackets have nothing before them, and behind them only a port. -/
def bracketedHost? (authority : List Char) : Option (List Char) :=
  let server := afterLast '@' authority
  match server.takeWhile (· ≠ '['), server.dropWhile (· ≠ '[') with
  | host, [] => some (host.takeWhile (· ≠ ':'))
  | [], _ :: rest =>
    match rest.dropWhile (· ≠ ']') with
    | [] | [_] | _ :: ':' :: _ => some (rest.takeWhile (· ≠ ']'))
    | _ => none
  | _, _ => none

/-- An authority with brackets has both kinds of them, and its host is an address. -/
def bracketsFit (authority : List Char) : Bool :=
  if authority.contains '[' && authority.contains ']' then
    (bracketedHost? authority).any isBracketedHost
  else !authority.contains '[' && !authority.contains ']'

/-- Controls and spaces in front of a URL, and tabs and line breaks anywhere in it, are ignored. -/
def cleaned (url : List Char) : List Char :=
  (url.dropWhile fun c => c.toNat ≤ 32).filter fun c => c ≠ '\t' && c ≠ '\r' && c ≠ '\n'

/-- The server of a URL; `none` if its host cannot be one. -/
def server? (url : List Char) : Option Server :=
  let (name, rest) := scheme (cleaned url)
  match after? ['/', '/'] rest with
  | none => some ⟨name, []⟩
  | some rest =>
    let authority := rest.takeWhile fun c => c ≠ '/' && c ≠ '?' && c ≠ '#'
    if bracketsFit authority && !authority.any (delimiterLookalikes.contains ·.toNat) then
      some ⟨name, authority⟩
    else none

/-- Schemes whose URLs have an authority, if only an empty one. -/
def authoritySchemes : List String := [
  "ftp", "http", "gopher", "nntp", "telnet", "imap", "wais", "file", "mms", "https", "shttp",
  "snews", "prospero", "rtsp", "rtspu", "rsync", "svn", "svn+ssh", "sftp", "nfs", "git",
  "git+ssh", "ws", "wss"]

def Server.url (s : Server) (path : List Char) : List Char :=
  (if s.scheme = [] then [] else s.scheme ++ [':']) ++
    (if s.authority ≠ [] || authoritySchemes.contains (String.ofList s.scheme) then
      ['/', '/'] ++ s.authority
    else []) ++ path

/-- The URL of the health check on the server of a URL. -/
def healthUrl? (url : String) : Option String :=
  (server? url.toList).map fun s => String.ofList (s.url "/health".toList)

end Client
end SvgIcon
