import SvgIcon.Proofs.Batch.Watching
import SvgIcon.Proofs.Markup.Extraction

/-!
What a batch run persists.  Each item accounts for a stretch of the calls of a run, and a text is
persisted only as the last call of such a stretch, when the optimizer and the embedding have both
answered: it is the item's text with its first span replaced.
-/

namespace SvgIcon
namespace Batch

open Rules Markup

variable {σ : Type}

/-- The markup that is submitted for a span. -/
def submitted (sp : Span) : String := String.ofList (ofComponent sp.element)

/-- The item's text with the span replaced. -/
def replaced (sp : Span) (new : String) : String :=
  String.ofList (sp.before ++ new.toList ++ sp.behind)

/-- The text of an item, and the calls it takes to have it. -/
inductive Had (item : Item) : String → List Call → Prop
  | file {p text} (hpath : item.path = some p) : Had item text [.read p (.ok text)]
  | given (hpath : item.path = none) : Had item (item.content.text?.getD "") []

/-- The calls that an attempt on a span makes, by its answer. -/
inductive Tried (item : Item) (sp : Span) : Except Raised Outcome → List Call → Prop
  | refused (e) : Tried item sp (.error e) [.submit (submitted sp) (.error e)]
  | unembedded (o e) :
      Tried item sp (.error e)
        [.submit (submitted sp) (.ok o), .reembed o.markupText (.error e)]
  | embedded (o new done) :
      Tried item sp (Except.map (fun _ => o) done)
        [.submit (submitted sp) (.ok o), .reembed o.markupText (.ok new),
          .persist item (replaced sp new) done]

/-- The calls that the work on an item makes, by its answer. -/
inductive Course (item : Item) : Except Raised (Verdict × Outcome) → List Call → Prop
  | unread {p f answer} (hpath : item.path = some p)
      (herrored : ∀ verdict outcome, answer = .ok (verdict, outcome) → verdict = .errored) :
      Course item answer [.read p (.error f)]
  | unmarked {text had} (htext : Had item text had) (hnone : ¬ HoldsSpan text.toList) :
      Course item (.ok (.skipped, noMarkup)) had
  | marked {text had sp tried made answer} (htext : Had item text had)
      (hspan : sp.IsFirst text.toList) (htried : Tried item sp tried made)
      (hjudged : ∀ told, answer = .ok told → judge tried = .ok told) :
      Course item answer (had ++ made)

def Call.isPersist : Call → Bool
  | .persist _ _ _ => true
  | _ => false

/-- Reading, the optimizer or the embedding raised something. -/
def Call.fails : Call → Bool
  | .read _ (.error _) => true
  | .submit _ (.error _) => true
  | .reembed _ (.error _) => true
  | _ => false

theorem Had.answered {item : Item} {text : String} {had : List Call} (h : Had item text had) :
    ∀ call ∈ had, call.isPersist = false ∧ call.fails = false := by
  cases h with
  | file hpath => simp [Call.isPersist, Call.fails]
  | given hpath => simp

theorem Tried.persists_iff {item : Item} {sp : Span} {tried : Except Raised Outcome}
    {made : List Call} (h : Tried item sp tried made) :
    (∃ call ∈ made, call.isPersist) ↔ ∀ call ∈ made, call.fails = false := by
  cases h <;> simp [Call.isPersist, Call.fails]

/-- No attempt is judged to be skipped. -/
theorem verdict_of_judge {answer : Except Raised Outcome} {verdict : Verdict} {outcome : Outcome}
    (h : judge answer = .ok (verdict, outcome)) : verdict ≠ .skipped := by
  rintro rfl
  rcases answer with (f | f | _) | o <;> simp [judge] at h

/-- Nothing is persisted for an item that is skipped, or for which a call fails. -/
theorem Course.not_persisted {item : Item} {answer : Except Raised (Verdict × Outcome)}
    {made : List Call} (h : Course item answer made)
    (hcause : (∃ outcome, answer = .ok (.skipped, outcome)) ∨ ∃ call ∈ made, call.fails) :
    ∀ call ∈ made, call.isPersist = false := by
  cases h with
  | unread hpath herrored => simp [Call.isPersist]
  | unmarked htext hnone => exact fun call hcall => (htext.answered call hcall).1
  | @marked text had sp tried made answer htext hspan htried hjudged =>
    have hfails : ∃ call ∈ made, call.fails := by
      rcases hcause with ⟨outcome, rfl⟩ | ⟨call, hcall, hfails⟩
      · exact absurd rfl (verdict_of_judge (hjudged _ rfl))
      · rcases List.mem_append.1 hcall with hcall | hcall
        · rw [(htext.answered call hcall).2] at hfails
          exact absurd hfails Bool.false_ne_true
        · exact ⟨call, hcall, hfails⟩
    intro call hcall
    rcases List.mem_append.1 hcall with hcall | hcall
    · exact (htext.answered call hcall).1
    · refine Bool.eq_false_iff.2 fun hpersist => ?_
      obtain ⟨failing, hmem, hfailing⟩ := hfails
      have hnone := htried.persists_iff.1 ⟨call, hcall, hpersist⟩ failing hmem
      rw [hnone] at hfailing
      exact Bool.false_ne_true hfailing

/-! ## The work on an item -/

/-- The calls show in a part of the state, one behind the other, and the clock does not. -/
structure Shows {η : Type} (c : Collaborators σ) (view : σ → List η) (entry : Call → η) : Prop where
  read : ∀ {p a s s'}, c.read p s = (a, s') → view s' = view s ++ [entry (.read p a)]
  submit : ∀ {markup config a s s'}, c.submit markup config s = (a, s') →
    view s' = view s ++ [entry (.submit markup a)]
  reembed : ∀ {markup a s s'}, c.reembed markup s = (a, s') →
    view s' = view s ++ [entry (.reembed markup a)]
  persist : ∀ {item text a s s'}, c.persist item text s = (a, s') →
    view s' = view s ++ [entry (.persist item text a)]
  clock : ∀ s, view (c.clock s).2 = view s

/-- How the work on an item is closed: what came of it is logged, unless it is skipped or has ended the
run. -/
inductive Closed {η : Type} (Logged : Outcome → Except Raised Unit → List η → Prop) :
    Except Raised (Verdict × Outcome) → List η → Prop
  | logged {verdict outcome answer made} (hworked : verdict ≠ .skipped)
      (hlogged : Logged outcome answer made) :
      Closed Logged (answer.map fun _ => (verdict, outcome)) made
  | skipped (outcome) : Closed Logged (.ok (.skipped, outcome)) []
  | ended (e) : Closed Logged (.error e) []

section
variable {η : Type} {c : Collaborators σ} {view : σ → List η} {entry : Call → η}
  {config : Option RuleSet} {runId : String} {item : Item} {s s' : σ}

theorem content_shows (hc : Shows c view entry) {answer : Except Raised String}
    (h : content c item s = (answer, s')) :
    (∃ text had, answer = .ok text ∧ Had item text had ∧ view s' = view s ++ had.map entry) ∨
      ∃ p f e, item.path = some p ∧ answer = .error e ∧
        view s' = view s ++ [entry (.read p (.error f))] := by
  cases hpath : item.path with
  | none =>
    rw [content_given hpath] at h
    obtain ⟨rfl, rfl⟩ := Prod.mk.inj h
    exact Or.inl ⟨_, [], rfl, .given hpath, (List.append_nil _).symm⟩
  | some p =>
    rcases hread : c.read p s with ⟨f | text, s₁⟩
    · rw [content_file hpath hread] at h
      obtain ⟨rfl, rfl⟩ := Prod.mk.inj h
      exact Or.inr ⟨p, f, _, rfl, rfl, hc.read hread⟩
    · rw [content_file hpath hread] at h
      obtain ⟨rfl, rfl⟩ := Prod.mk.inj h
      exact Or.inl ⟨text, _, rfl, .file hpath, hc.read hread⟩

theorem attempted_shows (hc : Shows c view entry) {text : List Char} {sp : Span}
    (hspan : sp.IsFirst text) {answer : Except Raised Outcome}
    (h : Attempted c config item text sp.element s answer s') :
    ∃ made, Tried item sp answer made ∧ view s' = view s ++ made.map entry := by
  cases h with
  | refused hsubmit => exact ⟨_, .refused _, hc.submit hsubmit⟩
  | unembedded hsubmit hreembed =>
    have hcalls := hc.reembed hreembed
    rw [hc.submit hsubmit, List.append_assoc] at hcalls
    exact ⟨_, .unembedded _ _, hcalls⟩
  | embedded hsubmit hreembed hpersist =>
    rw [replaceFirst_element hspan] at hpersist
    have hcalls := hc.persist hpersist
    rw [hc.reembed hreembed, hc.submit hsubmit, List.append_assoc, List.append_assoc] at hcalls
    exact ⟨_, .embedded _ _ _, hcalls⟩

/-- The work on an item makes the calls of a course, and then what came of it is logged. -/
theorem process_shows (hc : Shows c view entry) {Logged : Outcome → Except Raised Unit → List η → Prop}
    (hlog : ∀ {outcome ms answer s s'}, record c runId item outcome ms s = (answer, s') →
      ∃ made, Logged outcome answer made ∧ view s' = view s ++ made)
    {answer : Except Raised (Verdict × Outcome)} (h : process c config runId item s = (answer, s')) :
    ∃ calls made, Course item answer calls ∧ Closed Logged answer made ∧
      view s' = view s ++ (calls.map entry ++ made) := by
  have hmap : ∀ {logged : Except Raised Unit} {x told : Verdict × Outcome},
      (logged.map fun _ => x) = .ok told → x = told := by
    intro logged x told heq
    cases logged with
    | error e => exact absurd heq (by simp [Except.map])
    | ok _ => exact Except.ok.inj heq
  have hfirst : ∀ {text element : List Char}, extract? text = some element →
      ∃ sp : Span, sp.IsFirst text ∧ sp.element = element := by
    intro text element hextract
    obtain ⟨sp, hsp, helement⟩ := Option.map_eq_some_iff.1 hextract
    exact ⟨sp, span?_eq_some_iff.1 hsp, helement⟩
  cases processed_of_eq h with
  | unread hcontent hrecord =>
    rcases content_shows hc hcontent with ⟨_, _, heq, _⟩ | ⟨p, f, e, hpath, _, hcalls⟩
    · exact absurd heq (by simp)
    · obtain ⟨made, hlogged, hmade⟩ := hlog hrecord
      refine ⟨[.read p (.error f)], made, .unread hpath fun verdict outcome heq => ?_,
        .logged (by simp) hlogged, ?_⟩
      · exact (Prod.mk.inj (hmap heq)).1.symm
      · rw [hmade, hcalls, List.append_assoc, List.map_singleton]
  | unknown hcontent hother =>
    rcases content_shows hc hcontent with ⟨_, _, heq, _⟩ | ⟨p, f, e, hpath, _, hcalls⟩
    · exact absurd heq (by simp)
    · refine ⟨[.read p (.error f)], [], .unread hpath fun _ _ heq => absurd heq (by simp), .ended _, ?_⟩
      rw [hcalls, List.append_nil, List.map_singleton]
  | unmarked hcontent hextract =>
    rcases content_shows hc hcontent with ⟨text, had, heq, hhad, hcalls⟩ | ⟨_, _, _, _, heq, _⟩
    · obtain rfl := Except.ok.inj heq
      have hnone := span?_eq_none_iff.1 (Option.map_eq_none_iff.1 hextract)
      exact ⟨had, [], .unmarked hhad hnone, .skipped _, by rw [hcalls, List.append_nil]⟩
    · exact absurd heq (by simp)
  | interrupted hcontent hextract hattempt hjudge =>
    rcases content_shows hc hcontent with ⟨text, had, heq, hhad, hcalls⟩ | ⟨_, _, _, _, heq, _⟩
    · obtain rfl := Except.ok.inj heq
      obtain ⟨sp, hspan, rfl⟩ := hfirst hextract
      obtain ⟨made, htried, hmade⟩ := attempted_shows hc hspan hattempt
      refine ⟨had ++ made, [], .marked hhad hspan htried fun _ heq => absurd heq (by simp), .ended _, ?_⟩
      rw [hmade, hc.clock, hcalls, List.append_nil, List.append_assoc, List.map_append]
    · exact absurd heq (by simp)
  | judged hcontent hextract hattempt hjudge hrecord =>
    rcases content_shows hc hcontent with ⟨text, had, heq, hhad, hcalls⟩ | ⟨_, _, _, _, heq, _⟩
    · obtain rfl := Except.ok.inj heq
      obtain ⟨sp, hspan, rfl⟩ := hfirst hextract
      obtain ⟨made, htried, hmade⟩ := attempted_shows hc hspan hattempt
      obtain ⟨logged, hlogged, hwhole⟩ := hlog hrecord
      refine ⟨had ++ made, logged, .marked hhad hspan htried fun told heq => ?_,
        .logged (verdict_of_judge hjudge) hlogged, ?_⟩
      · rw [← hmap heq, hjudge]
      · rw [hwhole, hc.clock, hmade, hc.clock, hcalls, List.append_assoc, List.append_assoc,
          ← List.append_assoc (had.map entry), List.map_append]
    · exact absurd heq (by simp)

end

section
variable {c : Collaborators σ} {config : Option RuleSet} {runId : String} {item : Item}
  {s s' : σ × List Call}

theorem shows_watched (c : Collaborators σ) : Shows c.watched Prod.snd id where
  read := noted_calls
  submit := noted_calls
  reembed := noted_calls
  persist := noted_calls
  clock _ := rfl

theorem record_calls {outcome : Outcome} {ms : Double} {answer : Except Raised Unit}
    (h : record c.watched runId item outcome ms s = (answer, s')) : s'.2 = s.2 := by
  have hunnoted : ∀ {path append}, c.watched.log = some (path, append) →
      ∀ {e t a t'}, append e t = (a, t') → t'.2 = t.2 := by
    intro path append hlog e t a t' happend
    obtain ⟨log, _, heq⟩ := Option.map_eq_some_iff.1 hlog
    obtain ⟨_, rfl⟩ := Prod.mk.inj heq
    exact unnoted_calls happend
  cases recorded_of_eq h with
  | unlogged => rfl
  | logged hlog happend => exact hunnoted hlog happend
  | warned text hlog happend =>
    have hcalls := hunnoted hlog happend
    exact hcalls
  | raised hlog happend => exact hunnoted hlog happend

theorem process_calls {answer : Except Raised (Verdict × Outcome)}
    (h : process c.watched config runId item s = (answer, s')) :
    ∃ made, Course item answer made ∧ s'.2 = s.2 ++ made := by
  have hlog : ∀ {outcome ms answer s s'}, record c.watched runId item outcome ms s = (answer, s') →
      ∃ made : List Call, made = [] ∧ s'.2 = s.2 ++ made := fun hrecord =>
    ⟨[], rfl, by rw [record_calls hrecord, List.append_nil]⟩
  obtain ⟨calls, made, hcourse, hclosed, hcalls⟩ := process_shows (shows_watched c) hlog h
  have hnone : made = [] := by
    cases hclosed with
    | logged _ hlogged => exact hlogged
    | skipped => rfl
    | ended => rfl
  rw [hnone, List.append_nil, List.map_id] at hcalls
  exact ⟨calls, hcourse, hcalls⟩

end

/-! ## The run -/

/-- The items that a watched run has worked on, each with the calls that it made. -/
structure Accounted (steps : List (Judged × List Call)) (calls : List Call) : Prop where
  calls : calls = (steps.map Prod.snd).flatten
  courses : ∀ x ∈ steps, Course x.1.item (.ok (x.1.verdict, x.1.outcome)) x.2

theorem keeps_accounted (c : Collaborators σ) (config : Option RuleSet) (runId : String) :
    Keeps c.watched config runId
      (fun js s => ∃ steps, steps.map Prod.fst = js ∧ Accounted steps s.2)
      (fun js item e s => ∃ steps made, steps.map Prod.fst = js ∧ Course item (.error e) made ∧
        ∃ calls, Accounted steps calls ∧ s.2 = calls ++ made) where
  cancelled h := h
  progress _ h := h
  judged := by
    rintro js s item verdict outcome s' ⟨steps, rfl, hsteps⟩ hprocess
    obtain ⟨made, hcourse, hcalls⟩ := process_calls hprocess
    refine ⟨steps ++ [(⟨item, verdict, outcome⟩, made)], ?_, ?_, fun x hx => ?_⟩
    · rw [List.map_append]
      rfl
    · rw [hcalls, hsteps.calls, List.map_append, List.flatten_append]
      simp
    · rcases List.mem_append.1 hx with hx | hx
      · exact hsteps.courses x hx
      · rw [List.mem_singleton.1 hx]
        exact hcourse
  stopped := by
    rintro js s item e s' ⟨steps, rfl, hsteps⟩ hprocess
    obtain ⟨made, hcourse, hcalls⟩ := process_calls hprocess
    exact ⟨steps, made, rfl, hcourse, _, hsteps, hcalls⟩

end Batch
end SvgIcon
