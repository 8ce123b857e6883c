import SvgIcon.Proofs.Api.Serving
import SvgIcon.Proofs.Batch.Replacement
import SvgIcon.Proofs.Markup.Opening

/-!
What a batch run submits.  The markup of an item is an element that was found in its text, turned
into SVG; whatever stands in it or around it, the service takes it for an SVG document, so that only
the engine can fail on it.
-/

namespace SvgIcon
namespace Batch

open Rules Markup

variable {σ : Type}

/-- The service lets markup pass.  The engine gets it as it is, and decides alone what comes of
it. -/
def Passes (markup : String) : Prop :=
  Service.validate (.text markup) = .ok markup ∧
    ∀ {τ : Type} (engine : Engine τ) (baseline : RuleSet) (config : Option RuleSet) (s : τ),
      Service.optimize engine baseline (.text markup) config s =
        ((engine markup (merge baseline config) s).1.bind (Service.measure markup),
          (engine markup (merge baseline config) s).2)

theorem passes_of_looksLikeSvg {markup : List Char} (h : looksLikeSvg markup = true) :
    Passes (String.ofList markup) := by
  have hne : String.ofList markup ≠ "" := by
    intro hempty
    have hnil : markup = [] := by
      rw [← String.toList_ofList (l := markup), hempty]
      rfl
    rw [hnil] at h
    exact absurd h (by decide)
  have hvalid : Service.validate (.text (String.ofList markup)) = .ok (String.ofList markup) := by
    rw [Service.validate, if_neg hne, String.toList_ofList, if_pos h]
  exact ⟨hvalid, fun engine baseline config s =>
    Service.optimize_of_valid engine baseline config hvalid s⟩

theorem opens_element {sp : Span} {text : List Char} (h : sp.IsFirst text) : Opens sp.element := by
  obtain ⟨inner, hinner⟩ := h.shape
  rw [hinner, List.append_assoc]
  exact opens_svgStart _

theorem looksLikeSvg_ofComponent {sp : Span} {text : List Char} (h : sp.IsFirst text) :
    looksLikeSvg (ofComponent sp.element) = true :=
  looksLikeSvg_turn .back (looksLikeSvg_iff.2 (opens_element h))

/-- What is submitted in the course of the work on an item is an element of its text. -/
theorem Course.exists_submitted {item : Item} {answer : Except Raised (Verdict × Outcome)}
    {made : List Call} (h : Course item answer made) {markup : String}
    {submission : Except Raised Outcome} (hcall : Call.submit markup submission ∈ made) :
    ∃ (text : List Char) (sp : Span), sp.IsFirst text ∧ markup = submitted sp := by
  cases h with
  | unread hpath herrored => simp at hcall
  | unmarked htext hnone => exact absurd hcall (by cases htext <;> simp)
  | @marked text had sp tried made answer htext hspan htried hjudged =>
    refine ⟨text.toList, sp, hspan, ?_⟩
    have hmade : Call.submit markup submission ∈ made :=
      (List.mem_append.1 hcall).resolve_left fun hhad => by cases htext <;> simp at hhad
    cases htried <;> simp at hmade <;> exact hmade.1

theorem Accounted.exists_course {steps : List (Judged × List Call)} {calls : List Call}
    (h : Accounted steps calls) {call : Call} (hcall : call ∈ calls) :
    ∃ item answer made, Course item answer made ∧ call ∈ made := by
  rw [h.calls] at hcall
  obtain ⟨made, hmade, hcall⟩ := List.mem_flatten.1 hcall
  obtain ⟨step, hstep, rfl⟩ := List.mem_map.1 hmade
  exact ⟨_, _, _, h.courses step hstep, hcall⟩

/-- Every call of a run belongs to the work on one of its items. -/
theorem exists_course_of_mem_run (c : Collaborators σ) (config : Option RuleSet) (runId : String)
    (items : List Item) (s : σ) {call : Call}
    (hcall : call ∈ (run c.watched config runId items (s, [])).2.2) :
    ∃ item answer made, Course item answer made ∧ call ∈ made := by
  have hended := run_ended (keeps_accounted c config runId) items (s, [])
    ⟨[], rfl, rfl, fun x hx => absurd hx List.not_mem_nil⟩
  rcases hrun : run c.watched config runId items (s, []) with ⟨answer, s'⟩
  rw [hrun] at hended hcall
  cases hended with
  | finished hinv hitems =>
    obtain ⟨steps, rfl, hsteps⟩ := hinv
    exact hsteps.exists_course hcall
  | cancelled hinv hitems =>
    obtain ⟨steps, rfl, hsteps⟩ := hinv
    exact hsteps.exists_course hcall
  | stopped hstop hitems =>
    obtain ⟨steps, made, rfl, hmade, calls, hsteps, hcalls⟩ := hstop
    rw [hcalls] at hcall
    rcases List.mem_append.1 hcall with hcall | hcall
    · exact hsteps.exists_course hcall
    · exact ⟨_, _, _, hmade, hcall⟩

/-- The element that is found in a text, turned into SVG, is not empty and looks like SVG, whatever
the text is.  So everything that a run submits is let through by the service to its engine.  And a
text that looks like SVG gives component markup that starts with `<svg`; it goes on looking like SVG
however often, and in whatever order, it is turned into component markup and back. -/
theorem run_submits_svg (c : Collaborators σ) (config : Option RuleSet) (runId : String)
    (items : List Item) (s : σ) (text svg : List Char) (turns : List Turn) :
    (∀ element, extract? text = some element →
      ofComponent element ≠ [] ∧ looksLikeSvg (ofComponent element) = true ∧
        Passes (String.ofList (ofComponent element))) ∧
    (∀ markup submission,
      Call.submit markup submission ∈ (run c.watched config runId items (s, [])).2.2 →
        Passes markup) ∧
    (looksLikeSvg svg = true →
      svgStart <+: toJsx svg ∧
        looksLikeSvg (turns.foldl (fun text turn => turn.apply text) svg) = true) := by
  refine ⟨fun element hextract => ?_, fun markup submission hcall => ?_, fun hlooks => ⟨?_, ?_⟩⟩
  · obtain ⟨sp, hsp, rfl⟩ := Option.map_eq_some_iff.1 hextract
    have hlooks := looksLikeSvg_ofComponent (span?_isFirst hsp)
    refine ⟨fun hnil => ?_, hlooks, passes_of_looksLikeSvg hlooks⟩
    rw [hnil] at hlooks
    exact absurd hlooks (by decide)
  · obtain ⟨item, answer, made, hcourse, hmem⟩ :=
      exists_course_of_mem_run c config runId items s hcall
    obtain ⟨text, sp, hspan, rfl⟩ := hcourse.exists_submitted hmem
    exact passes_of_looksLikeSvg (looksLikeSvg_ofComponent hspan)
  · obtain ⟨t, ht⟩ := (looksLikeSvg_iff.1 hlooks).exists_toJsx
    exact ⟨t, ht.symm⟩
  · exact looksLikeSvg_turns turns hlooks

end Batch
end SvgIcon
