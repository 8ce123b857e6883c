import SvgIcon.Text.Scan
import SvgIcon.Text.Blank
import SvgIcon.Text.Word

/-!
Tags and their attributes.  A tag runs from `<` and an ASCII letter to the first `>` that
stands outside quotes; another `<` outside quotes, or a quote that is never closed, means
that there is no tag.  Attribute names are rewritten inside tags only.
-/

namespace SvgIcon
namespace Markup

open Text

/-- How many characters it takes to read past the end of a tag.  The first argument is the
quote that is open. -/
def tagEnd? : Option Char → List Char → Option Nat
  | _, [] => none
  | none, c :: s =>
    if c = '>' then some 1
    else if c = '<' then none
    else (tagEnd? (if c = '"' ∨ c = '\'' then some c else none) s).map (· + 1)
  | some quote, c :: s =>
    (tagEnd? (if c = quote then none else some quote) s).map (· + 1)

/-- The length of the tag at the front of the text. -/
def tagLength? : List Char → Option Nat
  | '<' :: c :: s => if isAsciiLetter c then (tagEnd? none s).map (· + 2) else none
  | _ => none

def mapTags (f : List Char → List Char) : List Char → List Char :=
  rewrite fun s => (tagLength? s).map fun n => (n, f (s.take n))

/-- An attribute in a tag, with the texts that it is written with: the blank before the name,
the name, the equals sign with any blanks before it, and the value with its quotes or braces
and any blanks before it. -/
structure Attribute where
  space : Char
  name : List Char
  equals : List Char
  value : List Char
  deriving DecidableEq, Repr

namespace Attribute

def text (a : Attribute) : List Char := a.space :: (a.name ++ a.equals ++ a.value)

def isNameChar (c : Char) : Bool := isWord c || c = ':' || c = '.' || c = '-'

/-- A character of a value that is written without quotes. -/
def isBareChar (c : Char) : Bool :=
  !(isBlank c || c = '"' || c = '\'' || c = '>' || c = '{' || c = '}')

/-- A value in quotes, in braces, or bare.  A value in braces ends with the first run of
closing braces. -/
def delimited? : List Char → Option (List Char)
  | [] => none
  | c :: s =>
    if c = '"' ∨ c = '\'' then
      if s.contains c then some (c :: s.takeWhile (· ≠ c) ++ [c]) else none
    else if c = '{' then
      if s.contains '}' then
        some (c :: s.takeWhile (· ≠ '}') ++ (s.dropWhile (· ≠ '}')).takeWhile (· = '}'))
      else none
    else if isBareChar c then some (c :: s.takeWhile isBareChar)
    else none

def read? : List Char → Option Attribute
  | space :: first :: s =>
    if isBlank space && isAsciiLetter first then
      match (s.dropWhile isNameChar).dropWhile isBlank with
      | '=' :: rest =>
        (delimited? (rest.dropWhile isBlank)).map fun value =>
          { space := space
            name := first :: s.takeWhile isNameChar
            equals := (s.dropWhile isNameChar).takeWhile isBlank ++ ['=']
            value := rest.takeWhile isBlank ++ value }
      | _ => none
    else none
  | _ => none

def rename (f : List Char → List Char) (a : Attribute) : Attribute := { a with name := f a.name }

end Attribute

/-- Every attribute name inside a tag put through a function. -/
def renameInTag (f : List Char → List Char) : List Char → List Char :=
  rewrite fun s => (Attribute.read? s).map fun a => (a.text.length, (a.rename f).text)

/-- Every attribute name of the markup put through a function. -/
def renameAttributes (f : List Char → List Char) : List Char → List Char :=
  mapTags (renameInTag f)

/-- Each dash before an ASCII lower-case letter dropped and the letter made a capital. -/
def camelize : List Char → List Char :=
  rewrite fun
    | '-' :: c :: _ => if 97 ≤ c.toNat && c.toNat ≤ 122 then some (2, [c.toUpper]) else none
    | _ => none

def className : List Char := "className".toList

/-- The property that an attribute becomes: `class` is `className`, and every other name loses
its dashes. -/
def propertyName (name : List Char) : List Char :=
  if name = "class".toList then className else camelize name

/-- `class` renamed to `className` in every tag. -/
def renameClass : List Char → List Char :=
  renameAttributes fun name => if name = "class".toList then className else name

def renameToProperties : List Char → List Char := renameAttributes propertyName

end Markup
end SvgIcon
