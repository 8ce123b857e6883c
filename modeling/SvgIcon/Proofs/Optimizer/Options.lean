import SvgIcon.Optimizer.Options
import SvgIcon.Proofs.Rules.Merging
import SvgIcon.Proofs.Rules.Resolution

/-!
The options of the cleanup engine.  Each comes from one rule or from one key of the rule set, so it
can be told from what the rules and the keys are, whatever else is resolved and in whatever order.
-/

namespace SvgIcon
namespace Optimizer

open Rules Assoc

/-! ## What options a rule set leads to -/

/-- A positive whole number; `true` counts as one. -/
def IsPositive : Value → Prop
  | .int n => 0 < n
  | .bool b => b
  | _ => False

/-- The value is an object that asks for a readable layout: its `pretty` counts as true. -/
def AsksForLayout (layout : Option Value) : Prop :=
  ∃ fields pretty, layout = some (.object fields) ∧ fields.lookup "pretty" = some pretty ∧
    pretty.truthy

/-- The depth of indentation: the object's `indent` if that is a whole number, and else two. -/
def depthOf : Option Value → Int
  | some (.object fields) => ((fields.lookup "indent").bind Value.whole?).getD 2
  | _ => 2

/-- The options that are no switch of a rule. -/
def reserved : List String := fixedOptions.keys ++ ["digits", "indent_depth"]

/-- The options that are made of resolved rules, a number of digits and a layout: one for each
switch of a rule that is resolved, the digits if they are positive, the layout if it is asked for,
the fixed ones, and nothing else. -/
structure Derived (resolved : Assoc Bool) (precision layout : Option Value) (made : Fields) :
    Prop where
  nodup : made.keys.Nodup
  switched : ∀ e ∈ switches, ∀ s ∈ e.2,
    made.lookup s.option = (resolved.lookup e.1).map fun on => .bool (on ^^ s.inverted)
  digits : ∀ v, made.lookup "digits" = some v ↔ precision = some v ∧ IsPositive v
  readable : AsksForLayout layout → made.lookup "newlines" = some (.bool true) ∧
    made.lookup "indent_type" = some (.text "space") ∧
    made.lookup "indent_depth" = some (.int (depthOf layout))
  compact : ¬ AsksForLayout layout → made.lookup "newlines" = some (.bool false) ∧
    made.lookup "indent_type" = some (.text "none") ∧ made.lookup "indent_depth" = none
  fixed : made.lookup "quiet" = some (.bool true) ∧
    made.lookup "strip_xml_space_attribute" = some (.bool true)
  only : ∀ key ∈ made.keys, key ∈ reserved ∨ ∃ e ∈ switches, ∃ s ∈ e.2, key = s.option

/-! ## The switches -/

theorem notMem_reserved : ∀ e ∈ switches, ∀ s ∈ e.2, s.option ∉ reserved := by decide +kernel

/-- No two rules have a switch for the same option, and no rule has two. -/
theorem last?_flags : ∀ e ∈ switches, ∀ s ∈ e.2, ∀ other ∈ switches, ∀ on : Bool,
    last? s.option (other.2.map fun t => (t.option, on != t.inverted)) =
      if other.1 = e.1 then some (on ^^ s.inverted) else none := by
  decide +kernel

theorem last?_ruleOptions {e : String × List Switch} (he : e ∈ switches) {s : Switch} (hs : s ∈ e.2)
    (rule : String) (on : Bool) : last? s.option (ruleOptions rule on) =
      if rule = e.1 then some (.bool (on ^^ s.inverted)) else none := by
  rw [ruleOptions]
  cases hflips : switches.lookup rule with
  | none =>
    have hne : rule ≠ e.1 := by
      rintro rfl
      exact lookup_eq_none_iff.1 hflips (mem_keys_iff.2 ⟨e.2, he⟩)
    rw [if_neg hne]
    rfl
  | some flips =>
    have hflags := last?_flags e he s hs (rule, flips) (lookup_mem hflips) on
    have hmap := last?_map Value.bool s.option (flips.map fun t => (t.option, on != t.inverted))
    rw [List.map_map] at hmap
    refine hmap.trans ?_
    rw [hflags]
    split <;> rfl

/-- What the resolved rules say of an option is what its own rule says, wherever that stands. -/
theorem last?_switched {e : String × List Switch} (he : e ∈ switches) {s : Switch} (hs : s ∈ e.2)
    {resolved : Assoc Bool} (h : resolved.keys.Nodup) :
    last? s.option (resolved.flatMap fun (rule, on) => ruleOptions rule on) =
      (resolved.lookup e.1).map fun on => .bool (on ^^ s.inverted) := by
  induction resolved with
  | nil => rfl
  | cons r rest ih =>
    obtain ⟨hnew, hrest⟩ := List.nodup_cons.1 h
    rw [List.flatMap_cons, last?_append, ih hrest, last?_ruleOptions he hs, lookup_eq]
    by_cases heq : r.1 = e.1
    · have hnone : List.lookup e.1 rest = none := lookup_eq_none_iff.2 (heq ▸ hnew)
      rw [hnone, if_pos heq, if_pos heq.symm]
      rfl
    · rw [if_neg heq, if_neg (Ne.symm heq), Option.or_none]

theorem exists_of_mem_switched {resolved : Assoc Bool} {key : String}
    (h : key ∈ keys (resolved.flatMap fun (rule, on) => ruleOptions rule on)) :
    ∃ e ∈ switches, ∃ s ∈ e.2, key = s.option := by
  rw [keys, List.map_flatMap] at h
  obtain ⟨r, _, hr⟩ := List.mem_flatMap.1 h
  obtain ⟨o, ho, rfl⟩ := List.mem_map.1 hr
  obtain ⟨s, hs, rfl⟩ := List.mem_map.1 ho
  cases hflips : switches.lookup r.1 with
  | none => simp [hflips] at hs
  | some flips =>
    rw [hflips] at hs
    exact ⟨(r.1, flips), lookup_mem hflips, s, hs, rfl⟩

theorem last?_switched_of_reserved {resolved : Assoc Bool} {key : String} (h : key ∈ reserved) :
    last? key (resolved.flatMap fun (rule, on) => ruleOptions rule on) = none := by
  rw [last?_eq_none_iff]
  intro hmem
  obtain ⟨e, he, s, hs, rfl⟩ := exists_of_mem_switched hmem
  exact notMem_reserved e he s hs h

/-! ## Digits and layout -/

variable {rules : RuleSet} {key : String}

theorem isPositive_iff {v : Value} : IsPositive v ↔ ∃ n, v.whole? = some n ∧ 0 < n := by
  cases v with
  | int n => simp [IsPositive, Value.whole?]
  | bool b => cases b <;> simp [IsPositive, Value.whole?]
  | _ => simp [IsPositive, Value.whole?]

theorem precisionOptions_of_positive {v : Value} (h : rules.lookup "floatPrecision" = some v)
    (hv : IsPositive v) : precisionOptions rules = [("digits", v)] := by
  obtain ⟨n, hn, hpos⟩ := isPositive_iff.1 hv
  rw [precisionOptions, h]
  simp only [hn, if_pos hpos]

theorem precisionOptions_of_not_positive
    (h : ∀ v, rules.lookup "floatPrecision" = some v → ¬ IsPositive v) :
    precisionOptions rules = [] := by
  rw [precisionOptions]
  split
  · rename_i v hv
    split
    · rename_i n hn
      exact if_neg fun hpos => h v hv (isPositive_iff.2 ⟨n, hn, hpos⟩)
    · rfl
  · rfl

theorem last?_precisionOptions_eq_some_iff {v : Value} :
    last? key (precisionOptions rules) = some v ↔
      key = "digits" ∧ rules.lookup "floatPrecision" = some v ∧ IsPositive v := by
  by_cases hsome : ∃ own, rules.lookup "floatPrecision" = some own ∧ IsPositive own
  · obtain ⟨own, hown, hpos⟩ := hsome
    rw [precisionOptions_of_positive hown hpos, hown, last?_cons]
    constructor
    · intro h
      obtain ⟨hkey, hv⟩ : key = "digits" ∧ own = v := by simpa [last?] using h
      exact ⟨hkey, congrArg some hv, hv ▸ hpos⟩
    · rintro ⟨rfl, hv, _⟩
      rw [if_pos rfl, hv]
      rfl
  · rw [precisionOptions_of_not_positive fun own hown hpos => hsome ⟨own, hown, hpos⟩]
    constructor
    · intro h
      exact absurd h (by simp [last?])
    · rintro ⟨_, hv, hpos⟩
      exact absurd ⟨v, hv, hpos⟩ hsome

theorem layoutOptions_of_asked (h : AsksForLayout (rules.lookup "js2svg")) :
    layoutOptions rules = [("newlines", .bool true), ("indent_type", .text "space"),
      ("indent_depth", .int (depthOf (rules.lookup "js2svg")))] := by
  obtain ⟨fields, pretty, hlayout, hpretty, htruthy⟩ := h
  have hindent : (((fields.lookup "indent").getD (.int 2)).whole?).getD 2 =
      ((fields.lookup "indent").bind Value.whole?).getD 2 := by
    cases fields.lookup "indent" <;> rfl
  rw [layoutOptions, hlayout]
  simp only [hpretty, Option.map_some, Option.getD_some, htruthy, if_true, hindent, depthOf]

theorem layoutOptions_of_not_asked (h : ¬ AsksForLayout (rules.lookup "js2svg")) :
    layoutOptions rules = [] := by
  rw [layoutOptions]
  split
  · rename_i fields hlayout
    cases hpretty : fields.lookup "pretty" with
    | none => rfl
    | some pretty =>
      have hfalse : pretty.truthy = false := by
        rw [Bool.eq_false_iff]
        exact fun htruthy => h ⟨fields, pretty, hlayout, hpretty, htruthy⟩
      simp only [Option.map_some, Option.getD_some, hfalse, if_neg Bool.false_ne_true]
  · rfl

theorem last?_layoutOptions_of_notMem (h : key ∉ ["newlines", "indent_type", "indent_depth"]) :
    last? key (layoutOptions rules) = none := by
  rw [last?_eq_none_iff]
  by_cases hasked : AsksForLayout (rules.lookup "js2svg")
  · rw [layoutOptions_of_asked hasked]
    exact h
  · rw [layoutOptions_of_not_asked hasked]
    exact List.not_mem_nil

theorem last?_precisionOptions_of_ne (h : key ≠ "digits") :
    last? key (precisionOptions rules) = none := by
  rw [Option.eq_none_iff_forall_ne_some]
  exact fun v hv => h (last?_precisionOptions_eq_some_iff.1 hv).1

/-! ## All options together -/

section
variable {resolved : Assoc Bool}

theorem lookup_optionsOf (resolved : Assoc Bool) (rules : RuleSet) (key : String) : (optionsOf resolved rules).lookup key =
    (last? key (layoutOptions rules)).or ((last? key (precisionOptions rules)).or
      ((last? key (resolved.flatMap fun (rule, on) => ruleOptions rule on)).or
        (fixedOptions.lookup key))) := by
  rw [optionsOf, lookup_update, last?_append, last?_append, Option.or_assoc, Option.or_assoc]

/-- An option that no switch sets. -/
theorem lookup_optionsOf_of_reserved (h : key ∈ reserved) : (optionsOf resolved rules).lookup key =
    (last? key (layoutOptions rules)).or ((last? key (precisionOptions rules)).or
      (fixedOptions.lookup key)) := by
  rw [lookup_optionsOf, last?_switched_of_reserved h, Option.none_or]

/-- An option that is set by a switch or not at all. -/
theorem lookup_optionsOf_of_not_reserved (h : key ∉ reserved) : (optionsOf resolved rules).lookup key =
    last? key (resolved.flatMap fun (rule, on) => ruleOptions rule on) := by
  have hnames : ∀ name ∈ ["newlines", "indent_type", "indent_depth"], name ∈ reserved := by decide
  have hlayout : key ∉ ["newlines", "indent_type", "indent_depth"] := fun hmem => h (hnames _ hmem)
  have hdigits : key ≠ "digits" := by
    rintro rfl
    exact h (by decide)
  have hfixed : fixedOptions.lookup key = none :=
    lookup_eq_none_iff.2 fun hmem => h (List.mem_append_left _ hmem)
  rw [lookup_optionsOf, last?_layoutOptions_of_notMem hlayout, last?_precisionOptions_of_ne hdigits,
    hfixed, Option.none_or, Option.none_or, Option.or_none]

theorem lookup_optionsOf_of_switch (hresolved : resolved.keys.Nodup) {e : String × List Switch}
    (he : e ∈ switches) {s : Switch} (hs : s ∈ e.2) : (optionsOf resolved rules).lookup s.option =
      (resolved.lookup e.1).map fun on => .bool (on ^^ s.inverted) := by
  rw [lookup_optionsOf_of_not_reserved (notMem_reserved e he s hs), last?_switched he hs hresolved]

theorem mem_keys_optionsOf (h : key ∈ (optionsOf resolved rules).keys) :
    key ∈ reserved ∨ ∃ e ∈ switches, ∃ s ∈ e.2, key = s.option := by
  by_cases hreserved : key ∈ reserved
  · exact Or.inl hreserved
  · have hlookup : (optionsOf resolved rules).lookup key = _ := lookup_optionsOf_of_not_reserved hreserved
    by_cases hswitch : key ∈ keys (resolved.flatMap fun (rule, on) => ruleOptions rule on)
    · exact Or.inr (exists_of_mem_switched hswitch)
    · rw [last?_eq_none_iff.2 hswitch, lookup_eq_none_iff] at hlookup
      exact absurd h hlookup

theorem optionsOf_derived (hresolved : resolved.keys.Nodup) (rules : RuleSet) :
    Derived resolved (rules.lookup "floatPrecision") (rules.lookup "js2svg")
      (optionsOf resolved rules) where
  nodup := nodup_update (by decide)
  switched := fun e he s hs => lookup_optionsOf_of_switch hresolved he hs
  digits := by
    intro v
    rw [lookup_optionsOf_of_reserved (by decide), last?_layoutOptions_of_notMem (by decide)]
    show (last? "digits" (precisionOptions rules)).or none = some v ↔ _
    rw [Option.or_none, last?_precisionOptions_eq_some_iff]
    exact and_iff_right rfl
  readable := by
    intro hasked
    rw [lookup_optionsOf_of_reserved (by decide), lookup_optionsOf_of_reserved (by decide),
      lookup_optionsOf_of_reserved (by decide), layoutOptions_of_asked hasked]
    exact ⟨rfl, rfl, rfl⟩
  compact := by
    intro hasked
    rw [lookup_optionsOf_of_reserved (by decide), lookup_optionsOf_of_reserved (by decide),
      lookup_optionsOf_of_reserved (by decide), layoutOptions_of_not_asked hasked,
      last?_precisionOptions_of_ne (by decide), last?_precisionOptions_of_ne (by decide),
      last?_precisionOptions_of_ne (by decide)]
    exact ⟨rfl, rfl, rfl⟩
  fixed := by
    rw [lookup_optionsOf_of_reserved (by decide), lookup_optionsOf_of_reserved (by decide),
      last?_layoutOptions_of_notMem (by decide), last?_layoutOptions_of_notMem (by decide),
      last?_precisionOptions_of_ne (by decide), last?_precisionOptions_of_ne (by decide)]
    exact ⟨rfl, rfl⟩
  only := fun key hkey => mem_keys_optionsOf hkey

end

theorem options_of_short {resolved : Assoc Bool} (h : resolve (plugins rules) = .ok resolved) :
    options rules = .ok (optionsOf resolved rules) := by
  rw [options, enabled, h]
  rfl

theorem options_of_unwritable (h : ∃ entry ∈ plugins rules, ¬ hasShortName entry) :
    options rules = .error .tooManyDigits := by
  rw [options, enabled, resolve_of_unwritable h]
  rfl

/-- Where rules are written over a baseline, the options are derived from the plugins, the precision
and the layout of whichever of the two has the key, the rules first, unless one of those plugins has
a name that cannot be written; and rule sets that are written over one another can be put together in
any grouping. -/
theorem options_merge (base : RuleSet) {rules : Option RuleSet}
    (hrules : ∀ own ∈ rules, (Assoc.keys own).Nodup) :
    ((∀ entry ∈ entriesOf (chosen base rules "plugins"), hasShortName entry) → ∃ resolved made,
      resolve (entriesOf (chosen base rules "plugins")) = .ok resolved ∧
      options (merge base rules) = .ok made ∧
      Derived resolved (chosen base rules "floatPrecision") (chosen base rules "js2svg") made) ∧
    ((∃ entry ∈ entriesOf (chosen base rules "plugins"), ¬ hasShortName entry) →
      options (merge base rules) = .error .tooManyDigits) ∧
    ∀ (middle : RuleSet) (newer : Option RuleSet), (Assoc.keys middle).Nodup →
      merge (merge base (some middle)) newer = merge base (some (merge middle newer)) := by
  have hplugins : plugins (merge base rules) = entriesOf (chosen base rules "plugins") := by
    rw [plugins_eq, lookup_merge base hrules]
  rw [← hplugins]
  refine ⟨fun hshort => ?_, options_of_unwritable,
    fun middle newer hmiddle => merge_merge base hmiddle newer⟩
  have hresolved := resolve_of_short hshort
  have hderived := optionsOf_derived (lastWords_said (plugins (merge base rules))).nodup
    (merge base rules)
  rw [lookup_merge base hrules, lookup_merge base hrules] at hderived
  exact ⟨_, _, hresolved, options_of_short hresolved, hderived⟩

/-- Rules with a list of plugins of their own, one digit and a readable layout. -/
def readableRules : RuleSet := [
  ("plugins", .array [.text "removeTitle",
    .object [("name", .text "removeEditorsNSData"), ("active", .bool false)]]),
  ("floatPrecision", .bool true),
  ("js2svg", .object [("pretty", .int 1)])]

theorem options_merge_readable :
    (∀ own ∈ some readableRules, (Assoc.keys own).Nodup) ∧
    (∀ entry ∈ entriesOf (chosen baseline (some readableRules) "plugins"), hasShortName entry) ∧
    (∃ made, options (merge baseline (some readableRules)) = .ok made ∧
      made.lookup "keep_editor_data" = some (.bool true) ∧ made.lookup "strip_comments" = none ∧
      made.lookup "digits" = some (.bool true) ∧ made.lookup "newlines" = some (.bool true)) ∧
    (∃ entry ∈ entriesOf (chosen baseline (some [("plugins", .array [unwritable])]) "plugins"),
      ¬ hasShortName entry) ∧
    options (merge baseline (some [("plugins", .array [unwritable])])) = .error .tooManyDigits ∧
    merge (merge baseline (some readableRules)) none =
      merge baseline (some (merge readableRules none)) := by
  have hkeys : ∀ own ∈ some readableRules, (Assoc.keys own).Nodup := by decide
  have hreadable : (Assoc.keys readableRules).Nodup := hkeys _ rfl
  have hshort : ∀ entry ∈ entriesOf (chosen baseline (some readableRules) "plugins"),
      hasShortName entry := by decide
  have hplugins : ∀ own ∈ some [("plugins", Value.array [unwritable])],
      (Assoc.keys own).Nodup := by decide
  have hlong : ∃ entry ∈ entriesOf (chosen baseline
      (some [("plugins", .array [unwritable])]) "plugins"), ¬ hasShortName entry := by
    decide +kernel
  obtain ⟨hmade, _, hmerge⟩ := options_merge baseline hkeys
  obtain ⟨resolved, made, hresolved, hoptions, hderived⟩ := hmade hshort
  have hvalue : resolve (entriesOf (chosen baseline (some readableRules) "plugins")) =
      .ok [("removeTitle", true), ("removeEditorsNSData", false)] := rfl
  obtain rfl := Except.ok.inj (hvalue.symm.trans hresolved)
  refine ⟨hkeys, hshort, ⟨made, hoptions, ?_, ?_, ?_, ?_⟩, hlong,
    (options_merge baseline hplugins).2.1 hlong, hmerge readableRules none hreadable⟩
  · exact hderived.switched ("removeEditorsNSData", [⟨"keep_editor_data", true⟩]) (by decide)
      ⟨"keep_editor_data", true⟩ (by decide)
  · exact hderived.switched ("removeComments", [⟨"strip_comments", false⟩]) (by decide)
      ⟨"strip_comments", false⟩ (by decide)
  · exact (hderived.digits _).2 ⟨rfl, rfl⟩
  · exact (hderived.readable ⟨_, _, rfl, rfl, rfl⟩).1

/-- A plugin whose name cannot be written keeps all options from being made, those that come of no
plugin included. -/
theorem options_unwritable : ¬ ∃ made,
    options (merge baseline (some [("plugins", .array [unwritable])])) = .ok made := by
  rintro ⟨made, hmade⟩
  have hlong : ∃ entry ∈ plugins (merge baseline (some [("plugins", .array [unwritable])])),
      ¬ hasShortName entry := by decide +kernel
  exact absurd ((options_of_unwritable hlong).symm.trans hmade) nofun

end Optimizer
end SvgIcon
