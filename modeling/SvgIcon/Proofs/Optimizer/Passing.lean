import SvgIcon.Optimizer.Passes
import SvgIcon.Proofs.Computation
import SvgIcon.Proofs.Optimizer.Options

/-!
The passes that the engine makes over a document, with a cleaner that may answer anything.  Each
call is given the output of the one before; the outputs get shorter, up to the last one.
-/

namespace SvgIcon
namespace Optimizer

open Rules

variable {σ : Type}

/-! ## Runs of passes -/

/-- Each text is shorter than those before it. -/
def Shrinking (outputs : List String) : Prop := outputs.Pairwise fun a b => b.length < a.length

theorem Shrinking.concat {outputs : List String} (h : Shrinking outputs) {output : String}
    (hlast : ∀ last ∈ outputs.getLast?, output.length < last.length) :
    Shrinking (outputs ++ [output]) := by
  refine List.pairwise_append.2 ⟨h, List.pairwise_singleton _ _, fun a ha b hb => ?_⟩
  obtain rfl := List.mem_singleton.1 hb
  rcases List.eq_nil_or_concat outputs with rfl | ⟨front, last, rfl⟩
  · exact absurd ha List.not_mem_nil
  · rw [List.concat_eq_append] at h ha hlast
    have hshort := hlast last (by simp)
    rcases List.mem_append.1 ha with ha | ha
    · exact Nat.lt_trans hshort ((List.pairwise_append.1 h).2.2 a ha last (by simp))
    · rwa [List.mem_singleton.1 ha]

/-- Calls of a cleaner that are answered: the first one is given the document, and each other one
the output before it.  An output is an answer without the blanks around it. -/
inductive Passes (clean : Cleaner σ) (markup : String) (s : σ) : List String → σ → Prop
  | none : Passes clean markup s [] s
  | pass {outputs : List String} {raw : String} {s₁ s₂ : σ}
      (before : Passes clean markup s outputs s₁)
      (answer : clean (outputs.getLastD markup) s₁ = (.ok raw, s₂)) :
      Passes clean markup s (outputs ++ [trimText raw]) s₂

/-- The document cannot be read: its markup is malformed, or a value in it makes no sense. -/
def IsUnread : Raised → Prop
  | .fault f => f.kind = .malformedMarkup ∨ f.kind.isValue
  | _ => False

/-- How a run of at most `limit` passes ends, and the state that its calls leave. -/
inductive Ends (clean : Cleaner σ) (limit : Int) (markup : String) (s : σ) :
    Except Raised (String × Nat) → σ → Prop
  /-- The last pass is the first one from the second on whose output is not shorter than the one
  before, or it reaches the limit. -/
  | settled {outputs : List String} {last : String} {s' : σ}
      (passes : Passes clean markup s (outputs ++ [last]) s') (shrinking : Shrinking outputs)
      (most : outputs.length + 1 ≤ limit)
      (stop : outputs.length + 1 = limit ∨
        ∃ previous ∈ outputs.getLast?, previous.length ≤ last.length) :
      Ends clean limit markup s (.ok (last, outputs.length + 1)) s'
  /-- The call behind some passes cannot read its text. -/
  | unread {outputs : List String} {f : Fault} {s₁ s' : σ}
      (passes : Passes clean markup s outputs s₁) (shrinking : Shrinking outputs)
      (most : outputs.length + 1 ≤ limit)
      (answer : clean (outputs.getLastD markup) s₁ = (.error (.fault f), s'))
      (kind : IsUnread (.fault f)) :
      Ends clean limit markup s (.error (.failure (.optimizer
        s!"Optimizer could not parse SVG: {f.text}" [("passes", .int outputs.length)]))) s'
  /-- The call behind some passes raises anything else. -/
  | raised {outputs : List String} {e : Raised} {s₁ s' : σ}
      (passes : Passes clean markup s outputs s₁) (shrinking : Shrinking outputs)
      (most : outputs.length + 1 ≤ limit)
      (answer : clean (outputs.getLastD markup) s₁ = (.error e, s')) (kind : ¬ IsUnread e) :
      Ends clean limit markup s (.error e) s'

variable {clean : Cleaner σ} {limit : Int} {markup : String} {s s₁ s' : σ} {outputs : List String}

theorem ends_failed (passes : Passes clean markup s outputs s₁) (shrinking : Shrinking outputs)
    (most : outputs.length + 1 ≤ limit) {e : Raised}
    (answer : clean (outputs.getLastD markup) s₁ = (.error e, s')) :
    Ends clean limit markup s (.error (passFailure outputs.length e)) s' := by
  cases e with
  | failure f => exact .raised passes shrinking most answer id
  | interrupt => exact .raised passes shrinking most answer id
  | fault f =>
    by_cases hkind : f.kind = .malformedMarkup ∨ f.kind.isValue
    · have hfailure := Ends.unread passes shrinking most answer hkind
      rwa [passFailure, if_pos hkind]
    · have hfault := Ends.raised passes shrinking most answer hkind
      rwa [passFailure, if_neg hkind]

theorem getLastD_of_mem {last : String} (h : last ∈ outputs.getLast?) :
    outputs.getLastD markup = last := by
  rw [List.getLastD_eq_getLast?, h, Option.getD_some]

theorem runPasses_ends (passes : Passes clean markup s outputs s₁) (shrinking : Shrinking outputs)
    {left : Nat} (hleft : 0 < left) (hlimit : (outputs.length : Int) + left = limit) :
    Ends clean limit markup s
      (runPasses clean left outputs.length (outputs.getLastD markup) s₁).1
      (runPasses clean left outputs.length (outputs.getLastD markup) s₁).2 := by
  induction left generalizing outputs s₁ with
  | zero => exact absurd hleft (Nat.lt_irrefl 0)
  | succ left ih =>
    have most : (outputs.length : Int) + 1 ≤ limit := by omega
    rcases hanswer : clean (outputs.getLastD markup) s₁ with ⟨answer, s₂⟩
    rw [runPasses, bind_of_eq hanswer]
    cases answer with
    | error e => exact ends_failed passes shrinking most hanswer
    | ok raw =>
      have hpasses := passes.pass hanswer
      have hlength : outputs.length + 1 = (outputs ++ [trimText raw]).length := by simp
      have hcurrent : (outputs ++ [trimText raw]).getLastD markup = trimText raw := by simp
      show Ends clean limit markup s ((if _ then _ else _ : StateM σ _) s₂).1
        ((if _ then _ else _ : StateM σ _) s₂).2
      split
      · rename_i hmore
        have hshrink : Shrinking (outputs ++ [trimText raw]) := by
          refine shrinking.concat fun last hlast => ?_
          rw [getLastD_of_mem hlast] at hmore
          exact hmore.resolve_right fun hnil => by simp [List.length_eq_zero_iff.1 hnil] at hlast
        rcases Nat.eq_zero_or_pos left with rfl | hleft
        · exact .settled hpasses shrinking most (Or.inl (by omega))
        · have hrest := ih hpasses hshrink hleft (by rw [← hlength]; omega)
          rwa [← hlength, hcurrent] at hrest
      · rename_i hlast
        obtain ⟨hlong, hsome⟩ := not_or.1 hlast
        obtain ⟨previous, hprevious⟩ : ∃ previous, outputs.getLast? = some previous :=
          ⟨_, List.getLast?_eq_some_getLast fun hnil => hsome (by rw [hnil, List.length_nil])⟩
        rw [getLastD_of_mem hprevious] at hlong
        exact .settled hpasses shrinking most (Or.inr ⟨previous, hprevious, Nat.not_lt.1 hlong⟩)

theorem passLimit_eq (maxPasses : Int) (rules : RuleSet) : (passLimit maxPasses rules : Int) =
    if (rules.lookup "multipass").any (·.truthy) then max 1 maxPasses else 1 := by
  rw [passLimit]
  cases rules.lookup "multipass" with
  | none => rfl
  | some v =>
    simp only [Option.map_some, Option.getD_some, Option.any_some]
    split
    · rw [Int.toNat_of_nonneg (by omega)]
    · rfl

/-- The engine makes passes over a document, one or as many as the rule set and `maxPasses` allow,
and tells their count with the last output, if that is not empty. -/
def WorksInPasses (clean : Cleaner σ) (maxPasses : Int) (rules : RuleSet) (markup : String)
    (s : σ) : Prop :=
  ∃ answer s', Ends clean
      (if (rules.lookup "multipass").any (·.truthy) then max 1 maxPasses else 1) markup s
      answer s' ∧
    engine clean maxPasses markup rules s =
      (answer.map fun (text, passes) =>
        { data := if text = "" then none else some text
          info := [("engine", .text "scour"), ("passes", .int passes)] }, s')

section
variable (clean) (maxPasses : Int) {rules : RuleSet} (markup : String) (s : σ)

theorem worksInPasses (hnames : ∀ entry ∈ plugins rules, hasShortName entry) :
    WorksInPasses clean maxPasses rules markup s := by
  have hoptions := options_of_short (resolve_of_short hnames)
  have hpos : 0 < passLimit maxPasses rules := by
    have hlimit := passLimit_eq maxPasses rules
    split at hlimit <;> omega
  have hends := runPasses_ends (Passes.none : Passes clean markup s [] s) List.Pairwise.nil hpos
    ((Int.zero_add _).trans (passLimit_eq maxPasses rules))
  rcases hrun : runPasses clean (passLimit maxPasses rules) 0 markup s with ⟨answer, s'⟩
  refine ⟨answer, s', ?_, ?_⟩
  · rw [List.length_nil, List.getLastD_nil, hrun] at hends
    exact hends
  · rw [engine, hoptions]
    refine (bind_of_eq hrun).trans ?_
    cases answer <;> rfl

theorem engine_of_unwritable (h : ∃ entry ∈ plugins rules, ¬ hasShortName entry) :
    engine clean maxPasses markup rules s = (.error (.fault .tooManyDigits), s) := by
  rw [engine, options_of_unwritable h]
  rfl

/-- The engine has to be able to name the rules; if it can, it works in passes, and else it makes no
call. -/
theorem engine_passes (rules : RuleSet) :
    ((∀ entry ∈ plugins rules, hasShortName entry) →
      WorksInPasses clean maxPasses rules markup s) ∧
    ((∃ entry ∈ plugins rules, ¬ hasShortName entry) →
      engine clean maxPasses markup rules s = (.error (.fault .tooManyDigits), s)) :=
  ⟨worksInPasses clean maxPasses markup s, engine_of_unwritable clean maxPasses markup s⟩

end

/-- A cleaner that notes the texts it is given and answers them in order; when no answer is left, it
gives its text back. -/
def scripted (answers : List (Except Raised String)) : Cleaner (List String) := fun text given =>
  (answers.getD given.length (.ok text), given ++ [text])

/-- The first answer is no shorter than the document, and the third no shorter than the second. -/
def dwindling : Cleaner (List String) :=
  scripted [.ok " <svg/> ", .ok "<g/>\n", .ok "<p/>", .ok "x"]

/-- Rules with a plugin whose name cannot be written. -/
def unwritableRules : RuleSet := [("multipass", .bool false), ("plugins", .array [unwritable])]

theorem exists_unwritableName : ∃ entry ∈ plugins unwritableRules, ¬ hasShortName entry := by
  decide +kernel

theorem engine_passes_scripted :
    (∀ entry ∈ plugins baseline, hasShortName entry) ∧
    (engine dwindling 10 "<svg/>" baseline []).1.toOption.map (·.data) = some (some "<p/>") ∧
    (engine dwindling 10 "<svg/>" baseline []).2 = ["<svg/>", "<svg/>", "<g/>"] ∧
    WorksInPasses dwindling 10 baseline "<svg/>" [] ∧
    (∃ entry ∈ plugins unwritableRules, ¬ hasShortName entry) ∧
    engine dwindling 10 "<svg/>" unwritableRules [] = (.error (.fault .tooManyDigits), []) := by
  have hnames : ∀ entry ∈ plugins baseline, hasShortName entry = true := by decide +kernel
  have hworks := (engine_passes dwindling 10 "<svg/>" [] baseline).1 hnames
  have hrefuses := (engine_passes dwindling 10 "<svg/>" [] unwritableRules).2 exists_unwritableName
  exact ⟨hnames, by decide +kernel, by decide +kernel, hworks, exists_unwritableName, hrefuses⟩

/-- With such a name the engine refuses to work, and no call is made. -/
theorem engine_passes_unwritableName :
    ¬ WorksInPasses (scripted []) 10 unwritableRules "<svg></svg>" [] := by
  rintro ⟨answer, s', hends, heq⟩
  rw [engine_of_unwritable _ _ _ _ exists_unwritableName] at heq
  have hanswer := (Prod.mk.inj heq).1
  cases hends with
  | settled => exact absurd hanswer (by simp [Except.map])
  | unread => exact absurd (Except.error.inj hanswer) (by simp)
  | raised passes shrinking most answer kind =>
    obtain rfl := Except.error.inj hanswer
    exact kind (Or.inr rfl)

end Optimizer
end SvgIcon
