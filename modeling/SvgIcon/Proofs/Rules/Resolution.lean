import SvgIcon.Rules.Resolve
import SvgIcon.Proofs.Traversal
import SvgIcon.Proofs.Value.Texts
import SvgIcon.Proofs.Value.Updates

/-!
Which rules a list of plugin entries turns on or off.  Every entry speaks about some rules, and of
all that is said about a rule the last word counts; so a list can be resolved part by part.  A list
with a name that is too long to be written is not resolved at all.
-/

namespace SvgIcon
namespace Rules

open Assoc

/-! ## What an entry says -/

/-- The entry has a name: it is a text, or an object whose `name` counts as true. -/
inductive Names : Value → String → Prop
  | text {s : String} (hs : s ≠ "") : Names (.text s) s
  | object {fields : Fields} {name : Value} (hname : fields.lookup "name" = some name)
      (htruthy : name.truthy) : Names (.object fields) name.display

/-- Whether the entry is active; it is, if it does not say so. -/
inductive Flagged : Value → Bool → Prop
  | text {s : String} : Flagged (.text s) true
  | absent {fields : Fields} (h : fields.lookup "active" = none) : Flagged (.object fields) true
  | given {fields : Fields} {flag : Value} (h : fields.lookup "active" = some flag) :
      Flagged (.object fields) flag.truthy

/-- The entry sets a rule apart: it has a value for it among the `overrides` of its `params`. -/
def SetsApart (entry : Value) (rule : String) (v : Value) : Prop :=
  ∃ fields params rules, entry = .object fields ∧
    fields.lookup "params" = some (.object params) ∧
    params.lookup "overrides" = some (.object rules) ∧ last? rule rules = some v

/-- The entry speaks about the rule, and its last word is that the rule is on or off.  An entry
without a name and an inactive preset speak about nothing. -/
inductive Says (entry : Value) (rule : String) : Bool → Prop
  /-- A plugin that is no preset speaks about itself. -/
  | plugin {on : Bool} (hname : Names entry rule) (hother : rule ≠ preset)
      (hflag : Flagged entry on) : Says entry rule on
  /-- A preset turns every rule of the catalogue on that it does not set apart. -/
  | listed (hname : Names entry preset) (hflag : Flagged entry true) (hrule : rule ∈ catalogue)
      (hfree : ∀ v, ¬ SetsApart entry rule v) : Says entry rule true
  /-- What a preset sets apart need not be in the catalogue. -/
  | apart {v : Value} (hname : Names entry preset) (hflag : Flagged entry true)
      (hapart : SetsApart entry rule v) : Says entry rule v.truthy

/-! ## The parts of an entry -/

variable {entry : Value} {name rule : String} {on : Bool}

/-- The name of an entry, however long it is. -/
def named? : Value → Option String
  | .text s => some s
  | .object fields => ((fields.lookup "name").filter Value.truthy).map Value.display
  | _ => none

theorem names_iff : Names entry name ↔ named? entry = some name ∧ name ≠ "" := by
  constructor
  · intro h
    cases h with
    | text hs => exact ⟨rfl, hs⟩
    | object hname htruthy =>
      refine ⟨?_, Value.display_ne_empty htruthy⟩
      simp only [named?, hname, Option.filter_some, htruthy, if_true, Option.map_some]
  · intro h
    obtain ⟨hname, hne⟩ := h
    cases entry with
    | text s =>
      obtain rfl := Option.some.inj hname
      exact .text hne
    | object fields =>
      obtain ⟨v, hv, rfl⟩ := Option.map_eq_some_iff.1 hname
      obtain ⟨hfound, htruthy⟩ := Option.filter_eq_some_iff.1 hv
      exact .object hfound htruthy
    | _ => simp [named?] at hname

/-- A name that cannot be written counts as true, so it is looked at. -/
theorem pluginName?_eq (entry : Value) : pluginName? entry =
    if hasShortName entry then .ok (named? entry) else .error .tooManyDigits := by
  cases entry with
  | object fields =>
    rw [pluginName?, named?, hasShortName, Value.fields?, Option.bind_some]
    cases fields.lookup "name" with
    | none => rfl
    | some name =>
      simp only [Option.getD_some, Option.filter_some, Value.toText]
      cases hshort : name.isShort with
      | true => by_cases htruthy : name.truthy <;> simp [htruthy, Except.map]
      | false => simp [Value.truthy_of_not_isShort hshort, Except.map]
  | _ => rfl

theorem Names.flagged_iff (h : Names entry name) : Flagged entry on ↔ isActive entry = on := by
  constructor
  · intro hflag
    cases hflag with
    | text => rfl
    | absent hnone => simp [isActive, hnone]
    | given hsome => simp [isActive, hsome]
  · rintro rfl
    cases h with
    | text hs => exact .text
    | @object fields _ hname htruthy =>
      cases hflag : fields.lookup "active" with
      | none =>
        have hactive : isActive (.object fields) = true := by simp [isActive, hflag]
        exact hactive ▸ .absent hflag
      | some flag =>
        have hactive : isActive (.object fields) = flag.truthy := by simp [isActive, hflag]
        exact hactive ▸ .given hflag

theorem setsApart_iff {v : Value} : SetsApart entry rule v ↔ ∃ params rules,
    (do ((← (← entry.fields?).lookup "params").fields?) : Option Fields) = some params ∧
      params.lookup "overrides" = some (.object rules) ∧ last? rule rules = some v := by
  constructor
  · rintro ⟨fields, params, rules, rfl, hparams, hrules, hv⟩
    refine ⟨params, rules, ?_, hrules, hv⟩
    show (List.lookup "params" fields).bind Value.fields? = some params
    rw [hparams]
    rfl
  · rintro ⟨params, rules, hparams, hrules, hv⟩
    obtain ⟨fields, hfields, hparams⟩ := Option.bind_eq_some_iff.1 hparams
    obtain ⟨found, hfound, hparams⟩ := Option.bind_eq_some_iff.1 hparams
    rw [Value.fields?_eq_some_iff] at hfields hparams
    exact ⟨fields, params, rules, hfields, hparams ▸ hfound, hrules, hv⟩

theorem last?_overrides_eq_some_iff :
    last? rule (overrides entry) = some on ↔ ∃ v, SetsApart entry rule v ∧ v.truthy = on := by
  simp only [setsApart_iff]
  rw [overrides]
  cases hparams : (do ((← (← entry.fields?).lookup "params").fields?) : Option Fields) with
  | none => simp [last?]
  | some params =>
    cases hrules : params.lookup "overrides" with
    | none => simp [last?, hrules]
    | some v =>
      cases v with
      | object rules => simp [last?_map, hrules]
      | _ => simp [last?, hrules]

theorem last?_overrides_eq_none_iff :
    last? rule (overrides entry) = none ↔ ∀ v, ¬ SetsApart entry rule v := by
  rw [Option.eq_none_iff_forall_ne_some]
  constructor
  · intro h v hv
    exact h v.truthy (last?_overrides_eq_some_iff.2 ⟨v, hv, rfl⟩)
  · intro h on hon
    obtain ⟨v, hv, _⟩ := last?_overrides_eq_some_iff.1 hon
    exact h v hv

/-! ## The last word of an entry -/

/-- What an entry says, however long its name is. -/
def said (entry : Value) : List (String × Bool) := wordsOf entry (named? entry)

theorem statements_eq (entry : Value) : statements entry =
    if hasShortName entry then .ok (said entry) else .error .tooManyDigits := by
  rw [statements, pluginName?_eq]
  split <;> rfl

theorem said_of_nameless (h : ∀ name, ¬ Names entry name) : said entry = [] := by
  rw [said]
  cases hname : named? entry with
  | none => rfl
  | some name =>
    by_cases hempty : name = ""
    · exact if_pos hempty
    · exact absurd (names_iff.2 ⟨hname, hempty⟩) (h name)

theorem Names.said_eq (h : Names entry name) : said entry =
    if name = preset then
      if isActive entry then catalogue.map (·, true) ++ overrides entry else []
    else [(name, isActive entry)] := by
  obtain ⟨hname, hne⟩ := names_iff.1 h
  rw [said, hname]
  exact if_neg hne

/-- What a preset that is active says of a rule. -/
theorem last?_preset : last? rule (catalogue.map (·, true) ++ overrides entry) =
    (last? rule (overrides entry)).or (if rule ∈ catalogue then some true else none) := by
  rw [last?_append, last?_map_const]

theorem says_of_last? (h : last? rule (said entry) = some on) : Says entry rule on := by
  by_cases hnamed : ∃ name, Names entry name
  · obtain ⟨name, hname⟩ := hnamed
    rw [hname.said_eq] at h
    by_cases hpreset : name = preset
    · obtain rfl := hpreset
      rw [if_pos rfl] at h
      cases hactive : isActive entry with
      | false =>
        rw [hactive] at h
        exact absurd h (by simp [last?])
      | true =>
        rw [hactive, if_pos rfl, last?_preset, Option.or_eq_some_iff] at h
        have hflag : Flagged entry true := hname.flagged_iff.2 hactive
        rcases h with hapart | ⟨hfree, hlisted⟩
        · obtain ⟨v, hv, rfl⟩ := last?_overrides_eq_some_iff.1 hapart
          exact .apart hname hflag hv
        · rw [last?_overrides_eq_none_iff] at hfree
          split at hlisted
          · rename_i hrule
            exact Option.some.inj hlisted ▸ .listed hname hflag hrule hfree
          · exact absurd hlisted (by simp)
    · rw [if_neg hpreset, last?_cons] at h
      split at h
      · rename_i hrule
        obtain rfl : rule = name := hrule
        exact .plugin hname hpreset (hname.flagged_iff.2 (Option.some.inj h))
      · exact absurd h (by simp [last?])
  · rw [said_of_nameless (not_exists.1 hnamed)] at h
    exact absurd h (by simp [last?])

theorem last?_of_says (h : Says entry rule on) : last? rule (said entry) = some on := by
  cases h with
  | plugin hname hother hflag =>
    rw [hname.said_eq, if_neg hother, hname.flagged_iff.1 hflag, last?_cons, if_pos rfl]
    rfl
  | listed hname hflag hrule hfree =>
    rw [hname.said_eq, if_pos rfl, if_pos (hname.flagged_iff.1 hflag), last?_preset,
      last?_overrides_eq_none_iff.2 hfree, if_pos hrule]
    rfl
  | @apart v hname hflag hapart =>
    rw [hname.said_eq, if_pos rfl, if_pos (hname.flagged_iff.1 hflag), last?_preset,
      last?_overrides_eq_some_iff.2 ⟨v, hapart, rfl⟩]
    rfl

theorem last?_said_eq_some_iff :
    last? rule (said entry) = some on ↔ Says entry rule on :=
  ⟨says_of_last?, last?_of_says⟩

theorem last?_said_eq_none_iff :
    last? rule (said entry) = none ↔ ∀ on, ¬ Says entry rule on := by
  rw [Option.eq_none_iff_forall_ne_some]
  exact forall_congr' fun on => not_congr last?_said_eq_some_iff

/-! ## The entries of a rule set -/

section
variable {entries : List Value}

theorem resolve_of_short (h : ∀ entry ∈ entries, hasShortName entry) :
    resolve entries = .ok (ofPairs (entries.flatMap said)) := by
  have hsaid : entries.mapM statements = .ok (entries.map said) :=
    mapM_eq_map fun entry hentry => (statements_eq entry).trans (if_pos (h entry hentry))
  rw [resolve, hsaid, List.flatMap]
  rfl

theorem resolve_of_unwritable (h : ∃ entry ∈ entries, ¬ hasShortName entry) :
    resolve entries = .error .tooManyDigits := by
  have hcomplaint : ∀ entry ∈ entries, ∀ e, statements entry = .error e → e = .tooManyDigits := by
    intro entry _ e he
    rw [statements_eq] at he
    split at he
    · exact absurd he nofun
    · exact (Except.error.inj he).symm
  obtain ⟨entry, hentry, hlong⟩ := h
  have hsome : statements entry = .error .tooManyDigits :=
    (statements_eq entry).trans (if_neg hlong)
  obtain ⟨_, hfails, rfl⟩ := mapM_of_error hcomplaint ⟨entry, hentry, _, hsome⟩
  rw [resolve, hfails]
  rfl

/-- For every rule that an entry speaks about the resolved rules have the last word on it, once. -/
structure LastWords (entries : List Value) (resolved : Assoc Bool) : Prop where
  nodup : resolved.keys.Nodup
  mem : ∀ rule, rule ∈ resolved.keys ↔ ∃ entry ∈ entries, ∃ on, Says entry rule on
  last : ∀ rule on, resolved.lookup rule = some on ↔ ∃ before entry after,
    entries = before ++ entry :: after ∧ Says entry rule on ∧
      ∀ later ∈ after, ∀ on', ¬ Says later rule on'

theorem lastWords_said (entries : List Value) : LastWords entries (ofPairs (entries.flatMap said)) where
  nodup := nodup_ofPairs
  mem rule := by
    have hsilent : rule ∉ (ofPairs (entries.flatMap said)).keys ↔
        ∀ entry ∈ entries, ∀ on, ¬ Says entry rule on := by
      rw [← lookup_eq_none_iff, lookup_ofPairs, last?_flatMap_eq_none_iff]
      simp only [last?_said_eq_none_iff]
    rw [← Classical.not_not (a := rule ∈ _), hsilent]
    simp only [Classical.not_forall, Classical.not_not, exists_prop]
  last rule on := by
    rw [lookup_ofPairs, last?_flatMap_eq_some_iff]
    simp only [last?_said_eq_some_iff, last?_said_eq_none_iff]

end

theorem plugins_put (entries : List Value) (rules : RuleSet) :
    plugins (Assoc.put "plugins" (.array entries) rules) = entries := by
  rw [plugins, lookup_put, if_pos rfl]

/-- A list of plugins all of whose names can be written is resolved part by part, each key at the
place where it is first spoken about; a rule is there if an entry speaks about it, and the last such
entry says whether it is on.  What else the rule set holds makes no difference.  One name that cannot
be written keeps the whole list from being resolved. -/
theorem enabled_last_word (rules : RuleSet) (p q : List Value) :
    let found (entries : List Value) := enabled (Assoc.put "plugins" (.array entries) rules)
    ((∀ entry ∈ p, hasShortName entry) → ∃ resolved, found p = .ok resolved ∧ LastWords p resolved ∧
      ((∀ entry ∈ q, hasShortName entry) → ∃ newer, found q = .ok newer ∧
        found (p ++ q) = .ok (Assoc.update resolved newer))) ∧
    ((∃ entry ∈ p, ¬ hasShortName entry) → found p = .error .tooManyDigits) := by
  intro found
  have hfound : ∀ entries, found entries = resolve entries := fun entries =>
    congrArg resolve (plugins_put entries rules)
  rw [hfound, hfound, hfound]
  refine ⟨fun hp => ⟨_, resolve_of_short hp, lastWords_said p, fun hq => ⟨_, resolve_of_short hq, ?_⟩⟩,
    resolve_of_unwritable⟩
  have hpq : ∀ entry ∈ p ++ q, hasShortName entry := fun entry hentry =>
    (List.mem_append.1 hentry).elim (hp entry) (hq entry)
  rw [resolve_of_short hpq, List.flatMap_append, ofPairs_append]

/-- Of the first rule it is said that it is on and, at last, that it is off. -/
def spokenTwice : List Value := [.text "a", .object [("name", .text "b")],
  .object [("name", .text "a"), ("active", .null)]]

/-- An entry whose name is a whole number of more digits than can be written. -/
def unwritable : Value := .object [("name", .int (.ofNat (Nat.pow 2 14400)))]

theorem enabled_last_word_spokenTwice :
    (∀ entry ∈ spokenTwice, hasShortName entry) ∧
    (∃ resolved, enabled [("plugins", .array spokenTwice)] = .ok resolved ∧
      resolved = [("a", false), ("b", true)] ∧ LastWords spokenTwice resolved) ∧
    (∃ entry ∈ spokenTwice ++ [unwritable], ¬ hasShortName entry) ∧
    enabled [("plugins", .array (spokenTwice ++ [unwritable]))] = .error .tooManyDigits := by
  have hshort : ∀ entry ∈ spokenTwice, hasShortName entry := by decide
  have hlong : ∃ entry ∈ spokenTwice ++ [unwritable], ¬ hasShortName entry := by decide +kernel
  obtain ⟨resolved, hresolved, hlast, _⟩ := (enabled_last_word [] spokenTwice []).1 hshort
  refine ⟨hshort, ⟨resolved, hresolved, ?_, hlast⟩, hlong, (enabled_last_word [] _ []).2 hlong⟩
  have hvalue : enabled [("plugins", .array spokenTwice)] = .ok [("a", false), ("b", true)] := rfl
  exact Except.ok.inj (hresolved.symm.trans hvalue)

/-- With such a name nothing is said of any rule. -/
theorem enabled_unwritable : ¬ ∃ resolved,
    enabled [("plugins", .array [.text "a", unwritable])] = .ok resolved := by
  rintro ⟨resolved, hresolved⟩
  have hlong : ∃ entry ∈ [.text "a", unwritable], ¬ hasShortName entry := by decide +kernel
  rw [enabled, plugins, List.lookup_cons_self] at hresolved
  exact absurd ((resolve_of_unwritable hlong).symm.trans hresolved) nofun

end Rules
end SvgIcon
