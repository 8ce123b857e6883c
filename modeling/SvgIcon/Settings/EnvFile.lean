import SvgIcon.Text.Blank
import SvgIcon.Text.Scan
import SvgIcon.Value.Assoc

/-!
Environment files.  A line binds a name to a value: `NAME=value`, with `export` in front if one
likes.  A value may stand in quotes, with escapes; without quotes it ends at a comment or at the end of
the line.  `${NAME}` and `${NAME:-default}` in a value stand for another variable.  A name
alone is bound to nothing, and a line that follows no rule is skipped.
-/

namespace SvgIcon
namespace EnvFile

open Text

def isGap (c : Char) : Bool := isBlank c && c ≠ '\n' && c ≠ '\r'

def isLineEnd (c : Char) : Bool := c = '\n' || c = '\r'

def skipGaps (s : List Char) : List Char := s.dropWhile isGap

def afterLineEnd : List Char → List Char
  | '\r' :: '\n' :: s => s
  | c :: s => if isLineEnd c then s else c :: s
  | [] => []

def nextLine (s : List Char) : List Char := afterLineEnd (s.dropWhile fun c => !isLineEnd c)

def skipComment (s : List Char) : List Char :=
  match skipGaps s with
  | '#' :: rest => rest.dropWhile fun c => !isLineEnd c
  | _ => s

/-- The text behind the end of a line; `none` if something else stands there. -/
def endOfLine? (s : List Char) : Option (List Char) :=
  match skipGaps s with
  | [] => some []
  | c :: rest => if isLineEnd c then some (afterLineEnd (c :: rest)) else none

/-- The inside of quotes and what follows them.  A backslash takes the character behind it along,
unless that is a quote and no other quote follows. -/
def inside? (quote : Char) : List Char → Option (List Char × List Char)
  | [] => none
  | [c] => if c = quote then some ([], []) else none
  | c :: d :: s =>
    if c = quote then some ([], d :: s)
    else if c = '\\' then
      match inside? quote s with
      | some (value, rest) => some (c :: d :: value, rest)
      | none => if d = quote then some ([c], s) else none
    else (inside? quote (d :: s)).map fun (value, rest) => (c :: value, rest)

/-- The character that an escape in double quotes stands for. -/
def escapedInDouble? : Char → Option Char
  | '\\' => some '\\'
  | '\'' => some '\''
  | '"' => some '"'
  | 'a' => some '\x07'
  | 'b' => some '\x08'
  | 'f' => some '\x0c'
  | 'n' => some '\n'
  | 'r' => some '\r'
  | 't' => some '\t'
  | 'v' => some '\x0b'
  | _ => none

def escapedInSingle? : Char → Option Char
  | '\\' => some '\\'
  | '\'' => some '\''
  | _ => none

/-- The text with its escapes resolved; a backslash that makes none stays. -/
def unescape (escaped? : Char → Option Char) : List Char → List Char
  | '\\' :: c :: s =>
    match escaped? c with
    | some d => d :: unescape escaped? s
    | none => '\\' :: unescape escaped? (c :: s)
  | c :: s => c :: unescape escaped? s
  | [] => []

/-- The text before a comment.  A comment begins with a blank. -/
def beforeComment : List Char → List Char
  | [] => []
  | c :: s => if isBlank c && s.head? = some '#' then [] else c :: beforeComment s

/-- The value behind an equals sign and what follows it. -/
def value? (s : List Char) : Option (List Char × List Char) :=
  match skipGaps s with
  | '\'' :: rest => (inside? '\'' rest).map fun (v, more) => (unescape escapedInSingle? v, more)
  | '"' :: rest => (inside? '"' rest).map fun (v, more) => (unescape escapedInDouble? v, more)
  | _ =>
    some (trim (beforeComment (s.takeWhile fun c => !isLineEnd c)),
      s.dropWhile fun c => !isLineEnd c)

def isNameChar (c : Char) : Bool := c ≠ '=' && c ≠ '#' && !isBlank c

/-- The text behind `export` and a gap. -/
def skipExport (s : List Char) : List Char :=
  match after? "export".toList s with
  | some (c :: rest) => if isGap c then skipGaps rest else s
  | _ => s

/-- The name at the front and what follows it; a comment has none. -/
def name? (s : List Char) : Option (Option (List Char) × List Char) :=
  match s with
  | '#' :: _ => some (none, s)
  | '\'' :: rest =>
    let name := rest.takeWhile (· ≠ '\'')
    match rest.dropWhile (· ≠ '\'') with
    | _ :: more => if name = [] then none else some (some name, more)
    | [] => none
  | _ =>
    let name := s.takeWhile isNameChar
    if name = [] then none else some (some name, s.dropWhile isNameChar)

/-- A line: the name and the value it binds, where it does. -/
structure Binding where
  name : Option (List Char)
  value : Option (List Char)

/-- The value behind an equals sign and what follows it.  The error is where reading stopped. -/
def bound (s : List Char) : Except (List Char) (Option (List Char) × List Char) :=
  match skipGaps s with
  | '=' :: rest =>
    match value? rest with
    | some (v, more) => .ok (some v, more)
    | none => .error rest
  | other => .ok (none, other)

/-- The binding at the front, which is not blank, and what follows its line. -/
def binding (s : List Char) : Binding × List Char :=
  let front := skipExport s
  match name? front with
  | none => (⟨none, none⟩, nextLine front)
  | some (name, rest) =>
    match bound rest with
    | .error stopped => (⟨none, none⟩, nextLine stopped)
    | .ok (value, rest) =>
      let behind := skipComment rest
      match endOfLine? behind with
      | some more => (⟨name, value⟩, more)
      | none => (⟨none, none⟩, nextLine behind)

/-- The bindings of at most `fuel` lines. -/
def bindings : Nat → List Char → List Binding
  | 0, _ => []
  | fuel + 1, s =>
    match trimStart isBlank s with
    | [] => []
    | c :: rest =>
      let (b, more) := binding (c :: rest)
      b :: bindings fuel more

/-! ## Variables in values -/

/-- The variable at the front, by its name and default, and how long it is. -/
def reference? (s : List Char) : Option (List Char × List Char × Nat) := do
  let body ← after? "$\x7b".toList s
  let name := body.takeWhile fun c => c ≠ '\x7d' && c ≠ ':'
  match body.dropWhile fun c => c ≠ '\x7d' && c ≠ ':' with
  | '\x7d' :: _ => some (name, [], name.length + 3)
  | ':' :: '-' :: rest =>
    let default := rest.takeWhile (· ≠ '\x7d')
    match rest.dropWhile (· ≠ '\x7d') with
    | _ :: _ => some (name, default, name.length + default.length + 5)
    | [] => none
  | _ => none

/-- The value with its variables replaced by what they are bound to.  One that is bound to nothing
is empty; only one that is not bound at all takes its default. -/
def substitute (scope : Assoc (Option String)) : List Char → List Char :=
  rewrite fun s => (reference? s).map fun (name, default, length) =>
    (length,
      match scope.lookup (String.ofList name) with
      | some (some v) => v.toList
      | some none => []
      | none => default)

/-- The bindings one after another; a value sees the environment and the bindings before it. -/
def resolve (env : Assoc String) : Assoc (Option String) → List Binding → Assoc (Option String)
  | done, [] => done
  | done, b :: rest =>
    match b.name with
    | none => resolve env done rest
    | some name =>
      let scope := Assoc.update (env.map fun (k, v) => (k, some v)) done
      let value := b.value.map fun v => String.ofList (substitute scope v)
      resolve env (Assoc.put (String.ofList name) value done) rest

/-- What a file binds in an environment.  A byte-order mark in front does not count. -/
def read (env : Assoc String) (s : List Char) : Assoc (Option String) :=
  resolve env [] (bindings (s.length + 1) (withoutMark s))

end EnvFile
end SvgIcon
