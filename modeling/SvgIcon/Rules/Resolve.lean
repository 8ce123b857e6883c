import SvgIcon.Rules.Catalogue
import SvgIcon.Value.Display

/-!
Which rules a rule set turns on or off.  Every plugin entry says something about some rules,
and for each rule the last word counts.
-/

namespace SvgIcon
namespace Rules

/-- A rule set with another one written over it.  A key of the second replaces the first one's
value as a whole. -/
def merge (base : RuleSet) (rules : Option RuleSet) : RuleSet :=
  match rules with
  | none => base
  | some rules => Assoc.update base rules

/-- The name of a plugin entry: the entry itself if it is a text, its `name` if it is an object
that has one.  Any value can be a name, if it can be written. -/
def pluginName? : Value → Except Fault (Option String)
  | .text s => .ok (some s)
  | .object fields =>
    match fields.lookup "name" with
    | some name => if name.truthy then name.toText.map some else .ok none
    | none => .ok none
  | _ => .ok none

/-- The name of a plugin entry can be written. -/
def hasShortName (entry : Value) : Bool :=
  ((entry.fields?.bind fun fields => fields.lookup "name").getD .null).isShort

/-- An entry is active unless it is an object whose `active` is false. -/
def isActive : Value → Bool
  | .object fields => ((fields.lookup "active").map (·.truthy)).getD true
  | _ => true

/-- The rules that a preset entry sets apart from the catalogue. -/
def overrides (entry : Value) : List (String × Bool) :=
  match (do ((← (← entry.fields?).lookup "params").fields?) : Option Fields) with
  | some params =>
    match params.lookup "overrides" with
    | some (.object rules) => rules.map fun (rule, on) => (rule, on.truthy)
    | _ => []
  | none => []

/-- What a plugin entry of this name says.  A preset says that every rule of the catalogue is on and
then what it sets apart; an inactive preset, and an entry without a name, says nothing. -/
def wordsOf (entry : Value) : Option String → List (String × Bool)
  | none => []
  | some name =>
    if name = "" then []
    else if name = preset then
      if isActive entry then catalogue.map (·, true) ++ overrides entry else []
    else [(name, isActive entry)]

/-- What one plugin entry says. -/
def statements (entry : Value) : Except Fault (List (String × Bool)) :=
  (pluginName? entry).map (wordsOf entry)

/-- The plugin entries of a rule set; anything but a list counts as none. -/
def plugins (rules : RuleSet) : List Value :=
  match rules.lookup "plugins" with
  | some (.array entries) => entries
  | _ => []

/-- The rules that the entries speak about, in the order in which they are first mentioned, with
the last word on each. -/
def resolve (entries : List Value) : Except Fault (Assoc Bool) := do
  return Assoc.ofPairs (← entries.mapM statements).flatten

/-- The rules of a rule set with whether each is on. -/
def enabled (rules : RuleSet) : Except Fault (Assoc Bool) := resolve (plugins rules)

end Rules
end SvgIcon
