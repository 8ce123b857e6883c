import SvgIcon.Proofs.Batch.Steps

/-!
The accounts of a batch run.  However the collaborators fail, and in whatever order, the run ends
in a report whose counts agree with each other and with the items that it lists.
-/

namespace SvgIcon
namespace Batch

open Rules

variable {σ : Type}

/-- Collaborators that raise errors, but let no interrupt through; a file cannot be read, or is no
text, and the log cannot be written, for reasons that a run knows how to report. -/
structure Collaborators.Steady (c : Collaborators σ) : Prop where
  read : ∀ {p s f s'}, c.read p s = (.error f, s') → f.kind.isSystem = true ∨ f.kind = .decoding
  submit : ∀ {markup config s s'}, c.submit markup config s ≠ (.error .interrupt, s')
  reembed : ∀ {markup s s'}, c.reembed markup s ≠ (.error .interrupt, s')
  persist : ∀ {item text s s'}, c.persist item text s ≠ (.error .interrupt, s')
  log : ∀ {path append e s f s'}, c.log = some (path, append) → append e s = (.error f, s') →
    f.kind.isSystem = true

/-! ## Every item gets a verdict -/

section
variable {c : Collaborators σ} {config : Option RuleSet} {runId : String} {item : Item}

theorem content_error (hc : c.Steady) {s s' : σ} {e : Raised}
    (h : content c item s = (.error e, s')) : ∃ f, e = .failure f := by
  cases hpath : item.path with
  | none =>
    rw [content_given hpath] at h
    exact absurd (Prod.mk.inj h).1 (by simp)
  | some p =>
    rcases hread : c.read p s with ⟨f | text, s₁⟩
    · have hkind : (f.kind.isSystem || decide (f.kind = .decoding)) = true := by
        simpa using hc.read hread
      have hfault : content c item s = (.error (readFault item.identifier f), s₁) :=
        content_file hpath hread
      rw [hfault, readFault, if_pos hkind] at h
      exact ⟨_, (Except.error.inj (Prod.mk.inj h).1).symm⟩
    · have htext : content c item s = (.ok text, s₁) := content_file hpath hread
      rw [htext] at h
      exact absurd (Prod.mk.inj h).1 (by simp)

theorem record_ok (runId : String) (item : Item) (hc : c.Steady) (outcome : Outcome)
    (ms : Double) (s : σ) : (record c runId item outcome ms s).1 = .ok () := by
  rcases hrecord : record c runId item outcome ms s with ⟨answer, s'⟩
  cases recorded_of_eq hrecord with
  | raised hlog happend hsystem =>
    exact absurd ((hc.log hlog happend).symm.trans hsystem) (by simp)
  | _ => rfl

theorem attempted_ne_interrupt (hc : c.Steady) {text element : List Char} {s s' : σ}
    {answer : Except Raised Outcome} (h : Attempted c config item text element s answer s') :
    answer ≠ .error .interrupt := by
  cases h with
  | refused hsubmit =>
    intro heq
    obtain rfl := Except.error.inj heq
    exact hc.submit hsubmit
  | unembedded _ hreembed =>
    intro heq
    obtain rfl := Except.error.inj heq
    exact hc.reembed hreembed
  | @embedded o new done _ _ _ _ _ hpersist =>
    rcases done with e | _
    · intro heq
      obtain rfl := Except.error.inj heq
      exact hc.persist hpersist
    · exact fun heq => by cases heq

theorem judge_error {answer : Except Raised Outcome} {e : Raised} (h : judge answer = .error e) :
    answer = .error .interrupt := by
  rcases answer with (f | f | _) | o
  · exact absurd h (by simp [judge])
  · exact absurd h (by simp [judge])
  · rfl
  · exact absurd h (by simp [judge])

/-- What is not optimized is told as a failure with a code. -/
def Told (verdict : Verdict) (outcome : Outcome) : Prop :=
  verdict ≠ .optimized → outcome.success = false ∧ outcome.code.isSome = true

theorem judge_told {answer : Except Raised Outcome} {verdict : Verdict} {outcome : Outcome}
    (h : judge answer = .ok (verdict, outcome)) : Told verdict outcome := by
  intro hverdict
  rcases answer with (f | f | _) | o
  · obtain ⟨_, rfl⟩ := Prod.mk.inj (Except.ok.inj h)
    exact ⟨rfl, rfl⟩
  · obtain ⟨_, rfl⟩ := Prod.mk.inj (Except.ok.inj h)
    exact ⟨rfl, rfl⟩
  · exact absurd h (by simp [judge])
  · obtain ⟨rfl, _⟩ := Prod.mk.inj (Except.ok.inj h)
    exact absurd rfl hverdict

theorem process_ok (config : Option RuleSet) (runId : String) (item : Item) (hc : c.Steady)
    (s : σ) : ∃ verdict outcome, (process c config runId item s).1 = .ok (verdict, outcome) ∧
      Told verdict outcome := by
  have hmap : ∀ {outcome ms s₁ s' logged} {x : Verdict × Outcome},
      record c runId item outcome ms s₁ = (logged, s') → (logged.map fun _ => x) = .ok x := by
    intro outcome ms s₁ s' logged x hrecord
    have hlogged := record_ok runId item hc outcome ms s₁
    rw [hrecord] at hlogged
    rw [show logged = .ok () from hlogged]
    rfl
  rcases hprocess : process c config runId item s with ⟨answer, s'⟩
  cases processed_of_eq hprocess with
  | unread hcontent hrecord => exact ⟨_, _, hmap hrecord, fun _ => ⟨rfl, rfl⟩⟩
  | unknown hcontent hother =>
    obtain ⟨f, rfl⟩ := content_error hc hcontent
    exact absurd rfl (hother f)
  | unmarked hcontent hextract => exact ⟨_, _, rfl, fun _ => ⟨rfl, rfl⟩⟩
  | interrupted hcontent hextract hattempt hjudge =>
    exact absurd (judge_error hjudge) (attempted_ne_interrupt hc hattempt)
  | judged hcontent hextract hattempt hjudge hrecord =>
    exact ⟨_, _, hmap hrecord, judge_told hjudge⟩

end

/-! ## Counts -/

/-- The counts of a report agree with the items that have been added to it. -/
structure Report.Tallies (r : Report) (js : List Judged) : Prop where
  items : r.items = js.map Judged.reported
  optimized : r.optimized = js.countP (·.verdict = .optimized)
  errored : r.errored = js.countP (·.verdict = .errored)
  skipped : r.skipped = js.countP (·.verdict = .skipped)
  processed : r.processed = r.optimized + r.errored
  total : r.processed + r.skipped = r.items.length

namespace Report

theorem Tallies.concat {r : Report} {js : List Judged} (h : r.Tallies js) (j : Judged) :
    (r.add j.item.identifier j.verdict j.outcome).Tallies (js ++ [j]) := by
  have hprocessed := h.processed
  have htotal := h.total
  have hitems : (r.add j.item.identifier j.verdict j.outcome).items =
      (js ++ [j]).map Judged.reported := by
    rw [add_items, List.map_append, ← h.items]
    rfl
  have hlength : (r.add j.item.identifier j.verdict j.outcome).items.length =
      r.items.length + 1 := by
    rw [add_items, List.length_append]
    rfl
  obtain ⟨item, verdict, outcome⟩ := j
  cases verdict with
  | optimized =>
    refine ⟨hitems, by simp [add, h.optimized], by simp [add, h.errored], by simp [add, h.skipped],
      ?_, ?_⟩
    · show r.processed + 1 = r.optimized + 1 + r.errored
      omega
    · refine Eq.trans ?_ hlength.symm
      show r.processed + 1 + r.skipped = r.items.length + 1
      omega
  | errored =>
    refine ⟨hitems, by simp [add, h.optimized], by simp [add, h.errored], by simp [add, h.skipped],
      ?_, ?_⟩
    · show r.processed + 1 = r.optimized + (r.errored + 1)
      omega
    · refine Eq.trans ?_ hlength.symm
      show r.processed + 1 + r.skipped = r.items.length + 1
      omega
  | skipped =>
    refine ⟨hitems, by simp [add, h.optimized], by simp [add, h.errored], by simp [add, h.skipped],
      hprocessed, ?_⟩
    refine Eq.trans ?_ hlength.symm
    show r.processed + (r.skipped + 1) = r.items.length + 1
    omega

theorem Tallies.addAll {r : Report} {done : List Judged} (h : r.Tallies done) (js : List Judged) :
    (r.addAll js).Tallies (done ++ js) := by
  induction js generalizing r done with
  | nil => rwa [List.append_nil]
  | cons j js ih =>
    have hrest := ih (h.concat j)
    rwa [List.append_assoc] at hrest

theorem tallies_addAll (runId : String) (js : List Judged) :
    (Report.addAll { runId } js).Tallies js := by
  have hempty : Tallies { runId } [] := ⟨rfl, rfl, rfl, rfl, rfl, rfl⟩
  exact hempty.addAll js

theorem Tallies.flagged {r : Report} {js : List Judged} (h : r.Tallies js) :
    r.skipped = r.items.countP (·.skipped) := by
  rw [h.skipped, h.items, List.countP_map]
  rfl

theorem Tallies.identifiers {r : Report} {js : List Judged} (h : r.Tallies js) :
    r.items.map (·.identifier) = (js.map Judged.item).map (·.identifier) := by
  rw [h.items, List.map_map, List.map_map]
  rfl

end Report

/-! ## The run -/

section
variable {c : Collaborators σ}

theorem keeps_told (hc : c.Steady) (config : Option RuleSet) (runId : String) :
    Keeps c config runId
      (fun js _ => ∀ j ∈ js, (∃ s s', process c config runId j.item s =
        (.ok (j.verdict, j.outcome), s')) ∧ Told j.verdict j.outcome)
      (fun _ _ _ _ => False) where
  cancelled h := h
  progress _ h := h
  judged := by
    intro js s item verdict outcome s' h hprocess j hj
    rcases List.mem_append.1 hj with hj | hj
    · exact h j hj
    · obtain rfl := List.mem_singleton.1 hj
      obtain ⟨v, o, hok, htold⟩ := process_ok config runId item hc s
      rw [hprocess] at hok
      obtain ⟨rfl, rfl⟩ := Prod.mk.inj (Except.ok.inj hok)
      exact ⟨⟨s, s', hprocess⟩, htold⟩
  stopped := by
    intro js s item e s' _ hprocess
    obtain ⟨v, o, hok, _⟩ := process_ok config runId item hc s
    rw [hprocess] at hok
    exact absurd hok (by simp)

theorem run_reports (hc : c.Steady) (config : Option RuleSet) (runId : String) (items : List Item)
    (s : σ) : ∃ r, (run c config runId items s).1 = .ok r := by
  have hended := run_ended (keeps_told hc config runId) items s (by simp)
  rcases hrun : run c config runId items s with ⟨answer, s'⟩
  rw [hrun] at hended
  cases hended with
  | finished => exact ⟨_, rfl⟩
  | cancelled => exact ⟨_, rfl⟩
  | stopped hstop _ => exact hstop.elim

/-- Content that is markup, content that is none, and a file. -/
def assortment : List Item :=
  [ { identifier := "a", content := .text "<svg></svg>" },
    { identifier := "b", content := .text "no markup" },
    { identifier := "c", path := some (Path.ofString "c") },
    { identifier := "d", content := .text "<svg></svg>" } ]

/-- Collaborators that count requests and answer the first one only; files are no texts, and the
log cannot be written. -/
def unreliable : Collaborators Nat where
  read _ := pure (.error ⟨.decoding, "bad byte"⟩)
  submit _ _ := fun n =>
    (if n = 0 then .ok { success := true, markup := some "<svg/>" }
      else .error (.fault ⟨.runtime, "overloaded"⟩), n + 1)
  reembed markup := pure (.ok markup)
  persist _ _ := pure (.ok ())
  log := some (Path.ofString "log", fun _ => pure (.error ⟨.system, "disk full"⟩))
  warn _ := pure ()
  progress _ := pure ()
  cancelled := pure false
  clock := pure .zero

end

end Batch
end SvgIcon
