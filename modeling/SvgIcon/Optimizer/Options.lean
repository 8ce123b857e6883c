import SvgIcon.Rules.Resolve

/-!
The options that the cleanup engine is run with.
-/

namespace SvgIcon
namespace Optimizer

open Rules

/-- An option that a rule sets; an inverted one is set to the opposite. -/
structure Switch where
  option : String
  inverted : Bool
  deriving DecidableEq, Repr

def switches : Assoc (List Switch) := [
  ("removeComments", [⟨"strip_comments", false⟩]),
  ("removeMetadata", [⟨"remove_metadata", false⟩]),
  ("removeTitle", [⟨"remove_titles", false⟩]),
  ("removeDesc", [⟨"remove_descriptions", false⟩]),
  ("removeXMLProcInst", [⟨"strip_xml_prolog", false⟩]),
  ("removeEditorsNSData", [⟨"keep_editor_data", true⟩]),
  ("cleanupIDs", [⟨"strip_ids", false⟩, ⟨"shorten_ids", false⟩]),
  ("convertColors", [⟨"simple_colors", false⟩]),
  ("collapseGroups", [⟨"group_collapse", false⟩]),
  ("moveElemsAttrsToGroup", [⟨"group_create", false⟩]),
  ("inlineStyles", [⟨"style_to_xml", false⟩]),
  ("removeUselessDefs", [⟨"keep_defs", true⟩])]

/-- The options that are set whatever the rules say, unless a layout is asked for. -/
def fixedOptions : Fields := [
  ("quiet", .bool true),
  ("newlines", .bool false),
  ("indent_type", .text "none"),
  ("strip_xml_space_attribute", .bool true)]

def ruleOptions (rule : String) (on : Bool) : Fields :=
  ((switches.lookup rule).getD []).map fun s => (s.option, .bool (on != s.inverted))

/-- The count of digits, if the rule set gives a positive one. -/
def precisionOptions (rules : RuleSet) : Fields :=
  match rules.lookup "floatPrecision" with
  | some v =>
    match v.whole? with
    | some n => if 0 < n then [("digits", v)] else []
    | none => []
  | none => []

/-- The layout, if the rule set asks for a readable one; two spaces unless it says how many. -/
def layoutOptions (rules : RuleSet) : Fields :=
  match rules.lookup "js2svg" with
  | some (.object layout) =>
    if ((layout.lookup "pretty").map (·.truthy)).getD false then
      [("newlines", .bool true), ("indent_type", .text "space"),
        ("indent_depth", .int ((((layout.lookup "indent").getD (.int 2)).whole?).getD 2))]
    else []
  | _ => []

/-- The options that resolved rules lead to, together with the rest of their rule set. -/
def optionsOf (resolved : Assoc Bool) (rules : RuleSet) : Fields :=
  Assoc.update fixedOptions
    (resolved.flatMap (fun (rule, on) => ruleOptions rule on) ++ precisionOptions rules ++
      layoutOptions rules)

def options (rules : RuleSet) : Except Fault Fields := do
  return optionsOf (← enabled rules) rules

end Optimizer
end SvgIcon
