import SvgIcon.Console.Literal.Lexeme

/-!
Literals: numbers, texts in quotes, the names of a few values, and tuples, sets and dictionaries of
these.  Only whether a text is one matters here.
-/

namespace SvgIcon
namespace Console
namespace Literal

open Text

/-- A piece of a literal, by what it may be a piece of. -/
inductive Node
  | number (n : Number)
  /-- A number behind its sign. -/
  | signed (n : Number)
  /-- Any other value.  Sets, dictionaries and what holds one are not fixed. -/
  | value (isFixed : Bool)
  /-- The word that makes an empty set of a pair of parentheses.  It is no value. -/
  | setWord
  deriving DecidableEq, Repr

namespace Node

def isValue (n : Node) : Bool := n ≠ setWord

/-- A value that a set may hold and a dictionary may have as a key. -/
def isFixed : Node → Bool
  | value isFixed => isFixed
  | setWord => false
  | _ => true

/-- The node of several in parentheses; a single one is itself if no comma is there. -/
def ofGroup? (nodes : List Node) (comma : Bool) : Option Node :=
  match nodes, comma with
  | [node], false => some node
  | nodes, _ => if nodes.all isValue then some (value (nodes.all isFixed)) else none

/-- The sum of two nodes: a real number and an imaginary one, of which only the first has a sign of
its own. -/
def sum? : Node → Node → Option Node
  | number n, number .imaginary => if n.isSummand then some (value true) else none
  | signed n, number .imaginary => if n.isSummand then some (value true) else none
  | _, _ => none

end Node

/-- The letters of the word `set`, each with those that are the same letter in another form. -/
def setLetters : List String := [
  "sſˢₛｓ𝐬𝑠𝒔𝓈𝓼𝔰𝕤𝖘𝗌𝘀𝘴𝙨𝚜", "eᵉₑℯⅇｅ𝐞𝑒𝒆𝓮𝔢𝕖𝖊𝖾𝗲𝘦𝙚𝚎", "tᵗₜｔ𝐭𝑡𝒕𝓉𝓽𝔱𝕥𝖙𝗍𝘁𝘵𝙩𝚝"]

def isSetWord (word : List Char) : Bool :=
  word.length = setLetters.length && (word.zip setLetters).all fun (c, forms) => forms.toList.contains c

/-- A value that has a name, or the word for sets. -/
def ofWord? (word : List Char) : Option Node :=
  if ["True", "False", "None"].contains (String.ofList word) then some (.value true)
  else if isSetWord word then some .setWord
  else none

def isWordChar (c : Char) : Bool := c = '_' || isAsciiLetter c || isAsciiDigit c || 128 ≤ c.toNat

/-- How deep brackets may stand within each other. -/
def maxDepth : Nat := 200

/-- The rest of a text behind a bracket that has to be there. -/
def behind? (bracket : Char) : List Char → Option (List Char)
  | c :: s => if c = bracket then some s else none
  | [] => none

/-- What follows the texts that stand directly behind a text.  All consist of bytes, or none. -/
def moreTexts? (ofBytes : Bool) (depth : Nat) : Nat → List Char → Option (List Char)
  | 0, _ => none
  | steps + 1, s =>
    match text? (skipGap (0 < depth) s) with
    | some (alsoBytes, rest) =>
      if alsoBytes = ofBytes then moreTexts? ofBytes depth steps rest else none
    | none => some s

/-- A number, texts or a word, and what follows. -/
def simple? (depth : Nat) (s : List Char) : Option (Node × List Char) :=
  match text? s, number? s with
  | some (ofBytes, rest), _ => (moreTexts? ofBytes depth (s.length + 1) rest).map (.value true, ·)
  | none, some (n, rest) => some (.number n, rest)
  | none, none =>
    match after? "...".toList s with
    | some rest => some (.value true, rest)
    | none => (ofWord? (s.takeWhile isWordChar)).map (·, s.dropWhile isWordChar)

/-- The empty set if parentheses follow the word for sets; any other node as it is. -/
def called? (depth : Nat) : Node × List Char → Option (Node × List Char)
  | (.setWord, s) =>
    match behind? '(' (skipGap (0 < depth) s) with
    | some rest =>
      if depth < maxDepth then (behind? ')' (skipGap true rest)).map (.value false, ·) else none
    | none => some (.setWord, s)
  | found => some found

mutual

/-- A literal without an operator within so many brackets, and what follows.  The first argument
bounds the steps. -/
def operand? : Nat → Nat → List Char → Option (Node × List Char)
  | 0, _, _ => none
  | steps + 1, depth, s =>
    match s with
    | '(' :: rest => do
      if maxDepth ≤ depth then none
      let (nodes, comma, rest) := list steps (depth + 1) rest
      called? depth (← Node.ofGroup? nodes comma, ← behind? ')' rest)
    | '\x7b' :: rest => do
      if maxDepth ≤ depth then none
      let (nodes, comma, rest) := list steps (depth + 1) rest
      match nodes, comma, rest with
      | [key], false, ':' :: rest =>
        if key.isFixed then (entries? steps (depth + 1) rest).map (.value false, ·) else none
      | nodes, _, rest =>
        if nodes.all Node.isFixed then (behind? '\x7d' rest).map (.value false, ·) else none
    | s => (simple? depth s).bind (called? depth)

/-- A number with a sign, a sum of numbers or an operand. -/
def node? : Nat → Nat → List Char → Option (Node × List Char)
  | 0, _, _ => none
  | steps + 1, depth, s => do
    let gapless := skipGap (0 < depth)
    let unsigned := (after? ['-'] s).or (after? ['+'] s)
    let (operand, rest) ← operand? steps depth (gapless (unsigned.getD s))
    let first ←
      match unsigned, operand with
      | none, node => some node
      | some _, .number n => some (.signed n)
      | some _, _ => none
    match (after? ['-'] (gapless rest)).or (after? ['+'] (gapless rest)) with
    | none => return (first, rest)
    | some more =>
      let (second, rest) ← operand? steps depth (gapless more)
      return (← first.sum? second, rest)

/-- Nodes with commas between them, whether a comma stands behind the first, and what follows all of
them. -/
def list : Nat → Nat → List Char → List Node × Bool × List Char
  | 0, _, s => ([], false, s)
  | steps + 1, depth, s =>
    let s := skipGap (0 < depth) s
    match node? steps depth s with
    | none => ([], false, s)
    | some (node, rest) =>
      match skipGap (0 < depth) rest with
      | ',' :: more =>
        let (nodes, _, rest) := list steps depth more
        (node :: nodes, true, rest)
      | rest => ([node], false, rest)

/-- What follows a dictionary of which the first colon has been read. -/
def entries? : Nat → Nat → List Char → Option (List Char)
  | 0, _, _ => none
  | steps + 1, depth, s => do
    let (value, rest) ← node? steps depth (skipGap true s)
    if !value.isValue then none
    match skipGap true rest with
    | '\x7d' :: rest => return rest
    | ',' :: more =>
      match skipGap true more with
      | '\x7d' :: rest => return rest
      | more =>
        let (key, rest) ← node? steps depth more
        let rest ← behind? ':' (skipGap true rest)
        if key.isFixed then entries? steps depth rest else none
    | _ => none

end

/-- A literal, or several with commas between them, between lines that are empty or comments. -/
def isLiteral (s : List Char) : Bool :=
  let text := unifyLines s
  !text.contains '\x00' &&
    (fromFirstLine? false false false text).any fun s =>
      let (nodes, _, rest) := list (6 * s.length + 6) 0 s
      nodes ≠ [] && nodes.all Node.isValue && skipGap true rest = []

end Literal
end Console
end SvgIcon
