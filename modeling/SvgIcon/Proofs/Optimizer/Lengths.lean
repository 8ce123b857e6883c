import SvgIcon.Proofs.Optimizer.Passing

/-!
The length of what several passes come to.  Up to the last one every output is shorter than the one
before, but the last output is the answer whatever its length; so the answer is a shortest output
exactly if the last pass does not make its text longer.
-/

namespace SvgIcon

/-- The document that an engine gives, empty if there is none. -/
def EngineResult.text (r : EngineResult) : String := r.data.getD ""

namespace Optimizer

open Rules

variable {σ : Type} {clean : Cleaner σ} {markup : String} {s : σ} {outputs : List String}
  {last : String}

/-! ## Shortest outputs -/

theorem Shrinking.getLast?_le (h : Shrinking outputs) {previous output : String}
    (hprevious : previous ∈ outputs.getLast?) (hmem : output ∈ outputs) :
    previous.length ≤ output.length := by
  obtain ⟨front, rfl⟩ := List.getLast?_eq_some_iff.1 hprevious
  rcases List.mem_append.1 hmem with hfront | hlast
  · have hshort := (List.pairwise_append.1 h).2.2 output hfront previous (List.mem_singleton.2 rfl)
    exact Nat.le_of_lt hshort
  · exact Nat.le_of_eq (congrArg String.length (List.mem_singleton.1 hlast).symm)

/-- The last of some outputs is a shortest one exactly if it is not longer than the one before. -/
theorem Shrinking.shortest_iff (h : Shrinking outputs) :
    (∀ output ∈ outputs ++ [last], last.length ≤ output.length) ↔
      ∀ previous ∈ outputs.getLast?, last.length ≤ previous.length := by
  constructor
  · intro hshort previous hprevious
    exact hshort previous (List.mem_append_left _ (List.mem_of_getLast? hprevious))
  · intro hlast output hmem
    rcases List.mem_append.1 hmem with hbefore | hself
    · obtain ⟨previous, hprevious⟩ : ∃ previous, outputs.getLast? = some previous :=
        ⟨_, List.getLast?_eq_some_getLast (List.ne_nil_of_mem hbefore)⟩
      exact Nat.le_trans (hlast previous hprevious) (h.getLast?_le hprevious hbefore)
    · exact Nat.le_of_eq (congrArg String.length (List.mem_singleton.1 hself).symm)

/-! ## Runs in which no call raises -/

/-- Every call of a run of at most `limit` passes is answered.  A call is made as long as each
output is shorter than the one before and the limit is not reached. -/
def Answered (clean : Cleaner σ) (limit : Int) (markup : String) (s : σ) : Prop :=
  ∀ outputs s₁, Passes clean markup s outputs s₁ → Shrinking outputs →
    (outputs.length : Int) < limit → ∃ raw s₂, clean (outputs.getLastD markup) s₁ = (.ok raw, s₂)

/-- What the engine answers when the last output came of so many passes. -/
def resultOf (last : String) (passes : Nat) : EngineResult where
  data := if last = "" then none else some last
  info := [("engine", .text "scour"), ("passes", .int passes)]

theorem text_resultOf (last : String) (passes : Nat) : (resultOf last passes).text = last := by
  rw [EngineResult.text, resultOf]
  split
  · rename_i hempty
    exact hempty.symm
  · rfl

theorem Answered.settled {limit : Int} {answer : Except Raised (String × Nat)} {s' : σ}
    (h : Answered clean limit markup s) (hends : Ends clean limit markup s answer s') :
    ∃ outputs last, answer = .ok (last, outputs.length + 1) ∧ Shrinking outputs ∧
      Passes clean markup s (outputs ++ [last]) s' ∧ (outputs.length + 1 : Int) ≤ limit := by
  cases hends with
  | settled passes shrinking most stop => exact ⟨_, _, rfl, shrinking, passes, most⟩
  | unread passes shrinking most failed kind =>
    obtain ⟨raw, s₂, hanswer⟩ := h _ _ passes shrinking (by omega)
    exact nomatch (Prod.mk.inj (hanswer.symm.trans failed)).1
  | raised passes shrinking most failed kind =>
    obtain ⟨raw, s₂, hanswer⟩ := h _ _ passes shrinking (by omega)
    exact nomatch (Prod.mk.inj (hanswer.symm.trans failed)).1

theorem Passes.eq_of_nil {s' : σ} (h : Passes clean markup s outputs s') (hnil : outputs = []) :
    s' = s := by
  cases h with
  | none => rfl
  | pass before answer => exact absurd hnil (by simp)

theorem Passes.exists_first {s' : σ} (h : Passes clean markup s outputs s') (hne : outputs ≠ []) :
    ∃ raw s₁, clean markup s = (.ok raw, s₁) ∧ outputs.head? = some (trimText raw) := by
  induction h with
  | none => exact absurd rfl hne
  | @pass outputs raw s₁ s₂ before answer ih =>
    by_cases hnil : outputs = []
    · obtain rfl := before.eq_of_nil hnil
      subst hnil
      exact ⟨raw, s₂, answer, rfl⟩
    · obtain ⟨first, s₃, hanswer, hhead⟩ := ih hnil
      exact ⟨first, s₃, hanswer, by rw [List.head?_append, hhead, Option.some_or]⟩

/-! ## One pass and several -/

section
variable (clean) (maxPasses : Int) {rules : RuleSet} (markup : String) (s : σ)

/-- With multipass off there is one call, and its output is the answer. -/
theorem engine_single (hnames : ∀ entry ∈ plugins rules, hasShortName entry) {off : Value}
    (hoff : off.truthy = false) {raw : String} {s₁ : σ} (hcall : clean markup s = (.ok raw, s₁)) :
    engine clean maxPasses markup (Assoc.put "multipass" off rules) s =
      (.ok (resultOf (trimText raw) 1), s₁) := by
  have hplugins : plugins (Assoc.put "multipass" off rules) = plugins rules := by
    rw [plugins, plugins, Assoc.lookup_put, if_neg (by decide)]
  have hoptions := options_of_short (resolve_of_short (hplugins ▸ hnames))
  have hlimit : passLimit maxPasses (Assoc.put "multipass" off rules) = 1 := by
    rw [passLimit, Assoc.lookup_put, if_pos rfl, Option.map_some, Option.getD_some, hoff]
    rfl
  have hrun : runPasses clean 1 0 markup s = (.ok (trimText raw, 1), s₁) := by
    rw [runPasses, bind_of_eq hcall]
    show (if _ then _ else _ : StateM σ _) s₁ = _
    rw [if_pos (Or.inr rfl)]
    rfl
  rw [engine, hoptions, hlimit]
  exact bind_of_eq hrun

/-- An answer is no longer than any output of the passes that led to it, and no longer than what a
single pass would have answered. -/
structure NoLonger (answer : EngineResult) (outputs : List String) (single : EngineResult) : Prop where
  outputs : ∀ output ∈ outputs, answer.text.length ≤ output.length
  single : answer.text.length ≤ single.text.length

/-- If no call raises, the engine answers the last output of its passes, and this is no longer than
any other output, and than what the same engine answers with multipass off, exactly if the last pass
does not make its text longer. -/
theorem engine_noLonger_iff (hmultipass : (rules.lookup "multipass").any (·.truthy))
    (hnames : ∀ entry ∈ plugins rules, hasShortName entry)
    (hcalls : Answered clean (max 1 maxPasses) markup s) :
    ∃ outputs last s' single s₁,
      Passes clean markup s (outputs ++ [last]) s' ∧
      (outputs.length + 1 : Int) ≤ max 1 maxPasses ∧
      engine clean maxPasses markup rules s = (.ok (resultOf last (outputs.length + 1)), s') ∧
      (∀ off : Value, off.truthy = false →
        engine clean maxPasses markup (Assoc.put "multipass" off rules) s = (.ok single, s₁)) ∧
      (NoLonger (resultOf last (outputs.length + 1)) (outputs ++ [last]) single ↔
        ∀ previous ∈ outputs.getLast?, last.length ≤ previous.length) := by
  obtain ⟨answer, s', hends, hanswer⟩ := worksInPasses clean maxPasses markup s hnames
  rw [if_pos hmultipass] at hends
  obtain ⟨outputs, last, rfl, hshrinking, hpasses, hmost⟩ := hcalls.settled hends
  obtain ⟨raw, s₁, hcall, hhead⟩ := hpasses.exists_first (by simp)
  have hfirst : trimText raw ∈ outputs ++ [last] := List.mem_of_head? hhead
  refine ⟨outputs, last, s', resultOf (trimText raw) 1, s₁, hpasses, hmost, hanswer,
    fun off hoff => engine_single clean maxPasses markup s hnames hoff hcall, ?_⟩
  rw [← hshrinking.shortest_iff]
  constructor
  · intro h output hmem
    have hle := h.outputs output hmem
    rwa [text_resultOf] at hle
  · intro h
    refine ⟨fun output hmem => ?_, ?_⟩
    · rw [text_resultOf]
      exact h output hmem
    · rw [text_resultOf, text_resultOf]
      exact h _ hfirst

end

/-- The second answer is longer than the first. -/
def growing : Cleaner (List String) := scripted [.ok "<svg/>", .ok "<svg></svg>"]

def multipassRules : RuleSet := [("multipass", .bool true)]

theorem answered_growing : Answered growing (max 1 10) "<svg> </svg>" [] := by
  intro outputs given _ _ _
  match given with
  | [] => exact ⟨_, _, rfl⟩
  | [_] => exact ⟨_, _, rfl⟩
  | _ :: _ :: _ => exact ⟨_, _, rfl⟩

theorem engine_noLonger_iff_growing :
    (multipassRules.lookup "multipass").any (·.truthy) ∧
    (∀ entry ∈ plugins multipassRules, hasShortName entry) ∧
    Answered growing (max 1 10) "<svg> </svg>" [] ∧
    ∃ outputs last single,
      (engine growing 10 "<svg> </svg>" multipassRules []).1 =
        .ok (resultOf last (outputs.length + 1)) ∧
      (NoLonger (resultOf last (outputs.length + 1)) (outputs ++ [last]) single ↔
        ∀ previous ∈ outputs.getLast?, last.length ≤ previous.length) := by
  have hmultipass : (multipassRules.lookup "multipass").any (·.truthy) := rfl
  have hnames : ∀ entry ∈ plugins multipassRules, hasShortName entry := by decide
  obtain ⟨outputs, last, s', single, s₁, _, _, hanswer, _, hiff⟩ :=
    engine_noLonger_iff growing 10 "<svg> </svg>" [] hmultipass hnames answered_growing
  exact ⟨hmultipass, hnames, answered_growing, outputs, last, single, congrArg Prod.fst hanswer,
    hiff⟩

/-- The second pass makes its text longer, and its output is the answer all the same. -/
theorem engine_longer_than_single : ∃ answer single s' s₁,
    Passes growing "<svg> </svg>" [] ["<svg/>", "<svg></svg>"] s' ∧
    engine growing 10 "<svg> </svg>" multipassRules [] = (.ok answer, s') ∧
    engine growing 10 "<svg> </svg>" (Assoc.put "multipass" (.bool false) multipassRules) [] =
      (.ok single, s₁) ∧
    answer.text = "<svg></svg>" ∧ single.text = "<svg/>" ∧
    ¬ NoLonger answer ["<svg/>", "<svg></svg>"] single := by
  have hcall : growing "<svg> </svg>" [] = (.ok "<svg/>", ["<svg> </svg>"]) := rfl
  have hnext : growing "<svg/>" ["<svg> </svg>"] =
      (.ok "<svg></svg>", ["<svg> </svg>", "<svg/>"]) := rfl
  have hpasses := (Passes.none.pass hcall).pass hnext
  refine ⟨resultOf "<svg></svg>" 2, resultOf "<svg/>" 1, _, ["<svg> </svg>"], hpasses, rfl, rfl,
    text_resultOf _ _, text_resultOf _ _, fun h => ?_⟩
  have hle := h.single
  rw [text_resultOf, text_resultOf] at hle
  exact absurd hle (by decide)

end Optimizer
end SvgIcon
