import SvgIcon.Toml.Document

/-!
Reading settings texts (TOML 1.0).
-/

namespace SvgIcon
namespace Toml

open Text

/-- What follows a comment, if there is one. -/
def skipComment (s : List Char) : Except Error (List Char) :=
  match s with
  | '#' :: rest =>
    if (rest.takeWhile (· ≠ '\n')).any isControl then .error .malformed
    else .ok (rest.dropWhile (· ≠ '\n'))
  | _ => .ok s

/-- What follows blanks, line breaks and comments in a list.  The first argument bounds the count of
comments. -/
def skipFiller : Nat → List Char → Except Error (List Char)
  | 0, s => .ok s
  | bound + 1, s =>
    match s.dropWhile isSpaceOrBreak with
    | '#' :: rest => do skipFiller bound (← skipComment ('#' :: rest))
    | s => .ok s

/-- A value that is not made of others. -/
def simpleValue (s : List Char) : Except Error (Value × List Char) :=
  match s with
  | [] => .error .malformed
  | c :: _ =>
    if c = '"' || c = '\'' then (text true s).map fun (t, rest) => (.text (String.ofList t), rest)
    else
      match after? "true".toList s, after? "false".toList s with
      | some rest, _ => .ok (.bool true, rest)
      | _, some rest => .ok (.bool false, rest)
      | none, none =>
        match moment? s with
        | some answer => answer
        | none =>
          match based? s with
          | some answer => .ok answer
          | none =>
            match decimal? s with
            | some answer => answer
            | none =>
              match namedNumber? s with
              | some answer => .ok answer
              | none => .error .malformed

mutual
/-- A value at the front of a text.  The first argument bounds the nesting. -/
def value : Nat → List Char → Except Error (Value × List Char)
  | 0, _ => .error .malformed
  | bound + 1, s =>
    match s with
    | '[' :: rest => do
      match ← skipFiller rest.length rest with
      | ']' :: rest => return (.array [], rest)
      | rest =>
        let (items, rest) ← items bound rest
        return (.array items, rest)
    | '\x7b' :: rest =>
      match skipSpace rest with
      | '\x7d' :: rest => return (.object [], rest)
      | rest => do
        let (fields, rest) ← inlineFields bound [] [] rest
        return (.object fields, rest)
    | s => simpleValue s

/-- The values of a list up to its closing bracket, which a comma may precede. -/
def items : Nat → List Char → Except Error (List Value × List Char)
  | 0, _ => .error .malformed
  | bound + 1, s => do
    let (v, rest) ← value bound s
    match ← skipFiller rest.length rest with
    | ']' :: rest => return ([v], rest)
    | ',' :: rest =>
      match ← skipFiller rest.length rest with
      | ']' :: rest => return ([v], rest)
      | rest =>
        let (more, rest) ← items bound rest
        return (v :: more, rest)
    | _ => .error .malformed

/-- The fields of a table in place up to its closing brace. -/
def inlineFields : Nat → Fields → Seals → List Char → Except Error (Fields × List Char)
  | 0, _, _, _ => .error .malformed
  | bound + 1, fields, seals, s => do
    let (k, rest) ← key s.length s
    match rest with
    | '=' :: rest =>
      let (v, rest) ← value bound (skipSpace rest)
      let (fields, seals) ← writeInline fields seals k v
      match skipSpace rest with
      | '\x7d' :: rest => return (fields, rest)
      | ',' :: rest => inlineFields bound fields seals (skipSpace rest)
      | _ => .error .malformed
    | _ => .error .malformed
end

/-- One statement: a header, or a key and its value.  It answers what follows on the line. -/
def statement (d : Document) (s : List Char) : Except Error (Document × List Char) :=
  match s with
  | '[' :: '[' :: rest => do
    let (path, rest) ← key s.length (skipSpace rest)
    let d ← d.atHeader.openListed path
    match rest with
    | ']' :: ']' :: rest => return (d, rest)
    | _ => .error .malformed
  | '[' :: rest => do
    let (path, rest) ← key s.length (skipSpace rest)
    let d ← d.atHeader.openTable path
    match rest with
    | ']' :: rest => return (d, rest)
    | _ => .error .malformed
  | '#' :: _ => return (d, s)
  | s => do
    let (k, rest) ← key s.length s
    match rest with
    | '=' :: rest =>
      let (v, rest) ← value (2 * rest.length + 2) (skipSpace rest)
      return (← d.write k v, rest)
    | _ => .error .malformed

/-- The statements of a text, one to a line.  The first argument bounds the count of lines. -/
def statements : Nat → Document → List Char → Except Error Document
  | 0, d, _ => .ok d
  | bound + 1, d, s =>
    match skipSpace s with
    | [] => .ok d
    | '\n' :: rest => statements bound d rest
    | s => do
      let (d, rest) ← statement d s
      match ← skipComment (skipSpace rest) with
      | [] => return d
      | '\n' :: rest => statements bound d rest
      | _ => .error .malformed

def joinBreaks : List Char → List Char := replaceAll ['\r', '\n'] ['\n']

def read (s : List Char) : Except Error Fields :=
  let s := joinBreaks s
  (statements (s.length + 1) {} s).map (·.fields)

end Toml
end SvgIcon
