import SvgIcon.Rules.Resolve
import SvgIcon.Proofs.Value.Updates

/-!
Rule sets written over one another.  A key that the upper one has is its own, whatever the value is,
and rule sets can be put together in any grouping.
-/

namespace SvgIcon
namespace Rules

open Assoc

/-- The value of a key where rules, if there are any, are written over a baseline: theirs if they
have the key, and else that of the baseline. -/
def chosen (base : RuleSet) (rules : Option RuleSet) (key : String) : Option Value :=
  (rules.bind fun own => own.lookup key).or (base.lookup key)

theorem lookup_merge (base : RuleSet) {rules : Option RuleSet}
    (hrules : ∀ own ∈ rules, (Assoc.keys own).Nodup) (key : String) :
    (merge base rules).lookup key = chosen base rules key := by
  cases rules with
  | none => rfl
  | some own =>
    rw [merge, lookup_update, last?_of_nodup (hrules own rfl)]
    rfl

theorem merge_merge (base : RuleSet) {rules : RuleSet} (hrules : (Assoc.keys rules).Nodup)
    (newer : Option RuleSet) :
    merge (merge base (some rules)) newer = merge base (some (merge rules newer)) := by
  cases newer with
  | none => rfl
  | some newer => exact (update_update hrules base newer).symm

/-- The plugin entries that a value stands for; anything but a list stands for none. -/
def entriesOf : Option Value → List Value
  | some (.array entries) => entries
  | _ => []

theorem plugins_eq (rules : RuleSet) : plugins rules = entriesOf (rules.lookup "plugins") := rfl

end Rules
end SvgIcon
