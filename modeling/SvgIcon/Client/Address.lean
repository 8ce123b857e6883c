import SvgIcon.Text.Word
import SvgIcon.Text.Scan

/-!
Internet addresses in text form: which texts name an address that may stand in brackets.
-/

namespace SvgIcon
namespace Client

open Text

def isHexDigit (c : Char) : Bool :=
  isAsciiDigit c || (97 ≤ c.toNat && c.toNat ≤ 102) || (65 ≤ c.toNat && c.toNat ≤ 70)

/-- A number from 0 to 255 in decimal, without zeros in front. -/
def isOctet (s : List Char) : Bool :=
  !s.isEmpty && s.all isAsciiDigit && s.length ≤ 3 && (s = ['0'] || s.head? ≠ some '0') &&
    s.foldl (fun n c => 10 * n + (c.toNat - 48)) 0 ≤ 255

def isIPv4 (s : List Char) : Bool :=
  let octets := pieces '.' s
  octets.length = 4 && octets.all isOctet

def isGroup (s : List Char) : Bool := !s.isEmpty && s.length ≤ 4 && s.all isHexDigit

/-- The groups of an address, with an address of four octets at the end counted as two. -/
def groups? (s : List Char) : Option (List (List Char)) :=
  let parts := pieces ':' s
  let last := parts.getLastD []
  if parts.length < 3 then none
  else if last.contains '.' then
    if isIPv4 last then some (parts.dropLast ++ [['0'], ['0']]) else none
  else some parts

/-- Groups of an address.  An empty group between others stands for a run of zeros, of which
there may be one; an empty group at an end has to stand next to it. -/
def areGroups (parts : List (List Char)) : Bool :=
  let inner := (parts.drop 1).dropLast
  let high := inner.takeWhile (· ≠ [])
  match inner.dropWhile (· ≠ []) with
  | [] => parts.length = 8 && parts.all isGroup
  | _ :: low =>
    let front := parts.headD [] :: high
    let back := low ++ [parts.getLastD []]
    let front := if front.head? = some [] then front.drop 1 else front
    let back := if back.getLast? = some [] then back.dropLast else back
    parts.length ≤ 9 && low.all (· ≠ []) &&
      (parts.head? ≠ some [] || front.isEmpty) &&
      (parts.getLast? ≠ some [] || back.isEmpty) &&
      front.length + back.length ≤ 7 && front.all isGroup && back.all isGroup

/-- An address of eight groups.  A zone behind a percent sign must not be empty and holds no
other percent sign. -/
def isIPv6 (s : List Char) : Bool :=
  let zone := s.dropWhile (· ≠ '%')
  let zoneFits := zone.isEmpty || (2 ≤ zone.length && !(zone.drop 1).contains '%')
  zoneFits && match groups? (s.takeWhile (· ≠ '%')) with
    | some parts => areGroups parts
    | none => false

/-- An address of a later version: `v`, hexadecimal digits, a point and more. -/
def isFutureAddress (s : List Char) : Bool :=
  match s with
  | 'v' :: rest =>
    !(rest.takeWhile isHexDigit).isEmpty &&
      match rest.dropWhile isHexDigit with
      | '.' :: tail => !tail.isEmpty && !tail.contains '\n'
      | _ => false
  | _ => false

def isBracketedHost (s : List Char) : Bool :=
  if s.head? = some 'v' then isFutureAddress s else isIPv6 s

end Client
end SvgIcon
