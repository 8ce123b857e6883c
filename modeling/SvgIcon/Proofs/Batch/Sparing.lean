import SvgIcon.Proofs.Batch.Accounting
import SvgIcon.Proofs.Batch.Replacement
import SvgIcon.Batch.Files

/-!
When a batch run spares the items that were not optimized.  The run goes by whether the optimizer
answers, and not by what the answer says: whatever an outcome carries is put into the item.  So an
item is safe if and only if every outcome that is answered for it is a success with markup, which is
still there once it is embedded.
-/

namespace SvgIcon

/-- The outcome is a success and carries markup. -/
def Outcome.Usable (o : Outcome) : Prop := o.success = true ∧ o.markupText ≠ ""

instance (o : Outcome) : Decidable o.Usable :=
  inferInstanceAs (Decidable (o.success = true ∧ o.markupText ≠ ""))

namespace Batch

open Rules Markup

variable {σ : Type}

/-- What the work on an item, by its answer and its calls, is to leave alone. -/
structure Spared (item : Item) (answer : Except Raised (Verdict × Outcome)) (calls : List Call) :
    Prop where
  /-- For an outcome that cannot be used nothing is persisted, and the item is errored. -/
  unusable : ∀ markup o, Call.submit markup (.ok o) ∈ calls → ¬ o.Usable →
    (∀ call ∈ calls, call.isPersist = false) ∧
      ∀ verdict outcome, answer = .ok (verdict, outcome) →
        verdict = .errored ∧ outcome.success = false
  optimized : ∀ outcome, answer = .ok (.optimized, outcome) → outcome.Usable
  /-- The element of the item is not replaced by nothing. -/
  kept : ∀ text had sp done, Had item text had → had <+: calls → sp.IsFirst text.toList →
    Call.persist item (replaced sp "") done ∉ calls

/-- Every outcome that is answered, and that is embedded, is a success with markup, and what it is
embedded as is not empty. -/
def Sound (calls : List Call) : Prop :=
  ∀ markup o new, Call.submit markup (.ok o) ∈ calls →
    Call.reembed o.markupText (.ok new) ∈ calls → o.Usable ∧ new ≠ ""

/-! ## The work on an item -/

theorem replaced_inj {sp : Span} {new new' : String} :
    replaced sp new = replaced sp new' ↔ new = new' := by
  constructor
  · intro h
    have hlists := congrArg String.toList h
    simp only [replaced, String.toList_ofList, List.append_assoc] at hlists
    exact String.toList_inj.1 (List.append_cancel_right (List.append_cancel_left hlists))
  · exact fun h => by rw [h]

theorem judge_errored {e : Raised} {verdict : Verdict} {outcome : Outcome}
    (h : judge (.error e) = .ok (verdict, outcome)) :
    verdict = .errored ∧ outcome.success = false := by
  rcases e with f | f | _
  · obtain ⟨rfl, rfl⟩ := Prod.mk.inj (Except.ok.inj h)
    exact ⟨rfl, rfl⟩
  · obtain ⟨rfl, rfl⟩ := Prod.mk.inj (Except.ok.inj h)
    exact ⟨rfl, rfl⟩
  · exact absurd h (by simp [judge])

section
variable {item : Item} {text : String} {had made : List Call} {sp : Span}
  {tried : Except Raised Outcome} {answer : Except Raised (Verdict × Outcome)}

/-- Where nothing is persisted, an item is spared if it is not told as optimized, and is errored
once the optimizer has answered. -/
theorem spared_of_not_persisted (hnone : ∀ call ∈ made, call.isPersist = false)
    (hanswer : ∀ verdict outcome, answer = .ok (verdict, outcome) → verdict ≠ .optimized ∧
      ((∃ markup o, Call.submit markup (.ok o) ∈ made) →
        verdict = .errored ∧ outcome.success = false)) : Spared item answer made where
  unusable markup o hsubmit _ :=
    ⟨hnone, fun verdict outcome h => (hanswer verdict outcome h).2 ⟨markup, o, hsubmit⟩⟩
  optimized _ h := absurd rfl (hanswer _ _ h).1
  kept _ _ _ _ _ _ _ hcall := Bool.noConfusion (hnone _ hcall)

theorem Had.not_submitted (h : Had item text had) (markup : String)
    (submission : Except Raised Outcome) : Call.submit markup submission ∉ had := by
  cases h <;> simp

theorem Had.not_reembedded (h : Had item text had) (markup : String)
    (embedding : Except Raised String) : Call.reembed markup embedding ∉ had := by
  cases h <;> simp

/-- The calls by which the text of an item is had say what the text is. -/
theorem Had.unique {text' : String} {had' rest : List Call} (h : Had item text had)
    (h' : Had item text' had') (hfront : had' <+: had ++ rest) : text' = text := by
  cases h with
  | file hpath =>
    cases h' with
    | file hpath' =>
      obtain ⟨_, hcalls⟩ := hfront
      have hread := (List.cons.inj hcalls).1
      injection hread with _ hanswer
      exact Except.ok.inj hanswer
    | given hpath' => exact absurd (hpath.symm.trans hpath') (by simp)
  | given hpath =>
    cases h' with
    | file hpath' => exact absurd (hpath.symm.trans hpath') (by simp)
    | given => rfl

/-- What is embedded is persisted, whatever the outcome says. -/
theorem Had.spared_iff (htext : Had item text had) (hspan : sp.IsFirst text.toList) {o : Outcome}
    {new : String} {done : Except Raised Unit}
    (hjudged : ∀ told, answer = .ok told → judge (done.map fun _ => o) = .ok told) :
    Spared item answer (had ++ [.submit (submitted sp) (.ok o), .reembed o.markupText (.ok new),
      .persist item (replaced sp new) done]) ↔ o.Usable ∧ new ≠ "" := by
  constructor
  · intro h
    have husable : o.Usable := by
      refine Decidable.byContradiction fun hnot => ?_
      have hnone := (h.unusable (submitted sp) o (by simp) hnot).1
      exact Bool.noConfusion (hnone (.persist item (replaced sp new) done) (by simp))
    refine ⟨husable, ?_⟩
    rintro rfl
    exact h.kept text had sp done htext (List.prefix_append _ _) hspan (by simp)
  · rintro ⟨husable, hnew⟩
    refine ⟨fun markup o' hsubmit hnot => ?_, fun outcome hanswer => ?_,
      fun text' had' sp' done' htext' hfront hspan' hcall => ?_⟩
    · have hsame : markup = submitted sp ∧ o' = o := by
        simpa [htext.not_submitted] using hsubmit
      exact absurd (hsame.2 ▸ husable) hnot
    · rcases done with e | _
      · exact absurd (judge_errored (hjudged _ hanswer)).1 (by simp)
      · obtain ⟨_, rfl⟩ := Prod.mk.inj (Except.ok.inj (hjudged _ hanswer))
        exact husable
    · obtain rfl := htext.unique htext' hfront
      obtain rfl := hspan.unique hspan'
      rcases List.mem_append.1 hcall with hcall | hcall
      · exact Bool.noConfusion (htext.answered _ hcall).1
      · have hpersisted : replaced sp "" = replaced sp new := by
          simp only [List.mem_cons, reduceCtorEq, List.not_mem_nil, or_false, false_or] at hcall
          injection hcall
        exact hnew (replaced_inj.1 hpersisted).symm

theorem Course.spared_iff (h : Course item answer made) :
    Spared item answer made ↔ Sound made := by
  cases h with
  | unread hpath herrored =>
    refine iff_of_true (spared_of_not_persisted (by simp [Call.isPersist]) ?_) (by simp [Sound])
    intro verdict outcome hanswer
    rw [herrored verdict outcome hanswer]
    exact ⟨by simp, by simp⟩
  | unmarked htext hnone =>
    refine iff_of_true (spared_of_not_persisted (fun call hcall => (htext.answered call hcall).1) ?_)
      fun markup o new hsubmit _ => absurd hsubmit (htext.not_submitted _ _)
    intro verdict outcome hanswer
    obtain ⟨rfl, rfl⟩ := Prod.mk.inj (Except.ok.inj hanswer)
    exact ⟨by simp, by simp [htext.not_submitted]⟩
  | @marked text had sp tried made answer htext hspan htried hjudged =>
    have herrored : ∀ {e}, tried = .error e → ∀ verdict outcome, answer = .ok (verdict, outcome) →
        verdict = .errored ∧ outcome.success = false := fun htried verdict outcome hanswer =>
      judge_errored (htried ▸ hjudged _ hanswer)
    have hunpersisted : ∀ {calls : List Call}, (∀ call ∈ calls, call.isPersist = false) →
        ∀ call ∈ had ++ calls, call.isPersist = false := by
      intro calls hcalls call hcall
      exact (List.mem_append.1 hcall).elim (fun h => (htext.answered call h).1) (hcalls call)
    cases htried with
    | refused e =>
      refine iff_of_true (spared_of_not_persisted (hunpersisted (by simp [Call.isPersist])) ?_) ?_
      · intro verdict outcome hanswer
        have htold := herrored rfl verdict outcome hanswer
        exact ⟨by simp [htold.1], fun _ => htold⟩
      · intro markup o new hsubmit _
        simp [htext.not_submitted] at hsubmit
    | unembedded o e =>
      refine iff_of_true (spared_of_not_persisted (hunpersisted (by simp [Call.isPersist])) ?_) ?_
      · intro verdict outcome hanswer
        have htold := herrored rfl verdict outcome hanswer
        exact ⟨by simp [htold.1], fun _ => htold⟩
      · intro markup o' new _ hreembed
        simp [htext.not_reembedded] at hreembed
    | embedded o new done =>
      rw [htext.spared_iff hspan hjudged]
      constructor
      · rintro hgood markup o' new' hsubmit hreembed
        have houtcome : markup = submitted sp ∧ o' = o := by
          simpa [htext.not_submitted] using hsubmit
        have hnew : o'.markupText = o.markupText ∧ new' = new := by
          simpa [htext.not_reembedded] using hreembed
        rw [houtcome.2, hnew.2]
        exact hgood
      · exact fun hsound => hsound (submitted sp) o new (by simp) (by simp)

end

/-! ## The run -/

/-- In a run, the calls of the items follow each other, and an item that is worked on makes the
calls of a course.  It is spared — nothing is persisted and the item is errored for an outcome that
is no success or carries no markup, only a success with markup is told as optimized, and the element
is never replaced by nothing — if and only if what is answered and embedded for it is sound.
Watching the calls changes nothing: the answer and the state are those of the run. -/
theorem run_spares_iff (c : Collaborators σ) (config : Option RuleSet) (runId : String)
    (items : List Item) (s : σ) :
    (run c.watched config runId items (s, [])).1 = (run c config runId items s).1 ∧
    (run c.watched config runId items (s, [])).2.1 = (run c config runId items s).2 ∧
    ∃ (steps : List (Judged × List Call)) (last : List Call),
      (run c.watched config runId items (s, [])).2.2 = (steps.map Prod.snd).flatten ++ last ∧
      (∀ x ∈ steps, Course x.1.item (.ok (x.1.verdict, x.1.outcome)) x.2 ∧
        (Spared x.1.item (.ok (x.1.verdict, x.1.outcome)) x.2 ↔ Sound x.2)) ∧
      match (run c config runId items s).1 with
      | .ok r => last = [] ∧ steps.map (·.1.item) <+: items ∧ r.items = steps.map (·.1.reported) ∧
          r.optimized = steps.countP (·.1.verdict = .optimized) ∧
          r.errored = steps.countP (·.1.verdict = .errored)
      | .error e => ∃ item, steps.map (·.1.item) ++ [item] <+: items ∧
          Course item (.error e) last ∧ (Spared item (.error e) last ↔ Sound last) := by
  obtain ⟨hanswer, hstate⟩ := run_watches c config runId items s []
  refine ⟨hanswer, hstate, ?_⟩
  have hended := run_ended (keeps_accounted c config runId) items (s, [])
    ⟨[], rfl, rfl, fun x hx => absurd hx List.not_mem_nil⟩
  have hworked : ∀ steps : List (Judged × List Call),
      (steps.map Prod.fst).map Judged.item = steps.map (·.1.item) := fun _ => List.map_map
  have htold : ∀ steps : List (Judged × List Call),
      let r := Report.addAll { runId } (steps.map Prod.fst)
      r.items = steps.map (·.1.reported) ∧ r.optimized = steps.countP (·.1.verdict = .optimized) ∧
        r.errored = steps.countP (·.1.verdict = .errored) := by
    intro steps
    have htally := Report.tallies_addAll runId (steps.map Prod.fst)
    refine ⟨htally.items.trans List.map_map, htally.optimized.trans List.countP_map,
      htally.errored.trans List.countP_map⟩
  rw [← hanswer]
  rcases hrun : run c.watched config runId items (s, []) with ⟨answer, s'⟩
  rw [hrun] at hended
  cases hended with
  | finished hinv hitems =>
    obtain ⟨steps, rfl, hsteps⟩ := hinv
    rw [hworked] at hitems
    refine ⟨steps, [], hsteps.calls.trans (List.append_nil _).symm,
      fun x hx => ⟨hsteps.courses x hx, (hsteps.courses x hx).spared_iff⟩, rfl, ?_, htold steps⟩
    exact hitems ▸ List.prefix_rfl
  | cancelled hinv hitems =>
    obtain ⟨steps, rfl, hsteps⟩ := hinv
    rw [hworked] at hitems
    exact ⟨steps, [], hsteps.calls.trans (List.append_nil _).symm,
      fun x hx => ⟨hsteps.courses x hx, (hsteps.courses x hx).spared_iff⟩, rfl, hitems, htold steps⟩
  | stopped hstop hitems =>
    obtain ⟨steps, made, rfl, hmade, calls, hsteps, hcalls⟩ := hstop
    rw [hworked] at hitems
    exact ⟨steps, made, hcalls.trans (congrArg (· ++ made) hsteps.calls),
      fun x hx => ⟨hsteps.courses x hx, (hsteps.courses x hx).spared_iff⟩, _, hitems, hmade,
      hmade.spared_iff⟩

/-- Collaborators over the texts persisted, with an optimizer that gives every request the same
answer. -/
def answering (o : Outcome) : Collaborators (List String) where
  read _ := pure (.error ⟨.missingFile, "no file"⟩)
  submit _ _ := pure (.ok o)
  reembed markup := pure (.ok (asComponentMarkup markup))
  persist _ text := fun texts => (.ok (), texts ++ [text])
  warn _ := pure ()
  progress _ := pure ()
  cancelled := pure false
  clock := pure .zero

def lone : List Item := [{ identifier := "a", content := .text "x<svg></svg>y" }]

/-- An outcome without markup, and one that tells of a failure, are counted as optimized, and the
element is lost. -/
theorem run_answering_without_markup :
    ((run (answering { success := true }) none "batch" lone []).1.toOption.map
      fun r => (r.optimized, r.errored)) = some (1, 0) ∧
    (run (answering { success := true }) none "batch" lone []).2 = ["xy"] ∧
    ((run (answering { success := false, error := some "no" }) none "batch" lone []).1.toOption.map
      fun r => (r.optimized, r.errored, r.items.map (·.outcome.success))) = some (1, 0, [false]) ∧
    (run (answering { success := false, error := some "no" }) none "batch" lone []).2 = ["xy"] := by
  decide +kernel

end Batch
end SvgIcon
