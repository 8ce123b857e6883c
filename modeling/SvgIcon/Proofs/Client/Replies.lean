import SvgIcon.Client.Http
import SvgIcon.Proofs.Computation
import SvgIcon.Proofs.Json.RoundTrip
import SvgIcon.Proofs.Value.Texts

/-!
What a client tells of a reply that may be anything.  A reply is used, or the markup counts as
refused, or the optimizer as failed; and the server counts as unavailable if there is no reply.
-/

namespace SvgIcon
namespace Client

open Rules

/-! ## Replies -/

/-- The body can be read, or it is at least plain that it is no JSON. -/
def Reply.Legible (r : Reply) : Prop := ∀ f, r.body = .error f → f.kind.isValue

/-- The reply can be used: it says that all went well, by its status and by an object whose
`success` counts as true, and the object has data that count as true. -/
def Reply.Usable (r : Reply) : Prop :=
  r.status = 200 ∧ ∃ fields success data, r.body = .ok (.object fields) ∧
    (fields.lookup "success" = some success ∧ success.truthy) ∧
    fields.lookup "data" = some data ∧ data.truthy

theorem truthyField?_eq_some_iff {fields : Fields} {key : String} {v : Value} :
    truthyField? fields key = some v ↔ fields.lookup key = some v ∧ v.truthy := by
  rw [truthyField?, Option.bind_eq_some_iff]
  constructor
  · rintro ⟨found, hfound, h⟩
    split at h
    · rename_i htruthy
      obtain rfl := Option.some.inj h
      exact ⟨hfound, htruthy⟩
    · exact nomatch h
  · intro h
    exact ⟨v, h.1, if_pos h.2⟩

variable {r : Reply} {fields : Fields}

theorem Reply.Usable.legible (h : r.Usable) : r.Legible := by
  obtain ⟨_, fields, _, _, hbody, _⟩ := h
  intro f hf
  exact absurd (hbody.symm.trans hf) nofun

theorem Reply.Legible.exists_fields (h : r.Legible) : ∃ fields, r.fields = .ok fields := by
  rw [Reply.fields]
  cases hbody : r.body with
  | ok v => exact ⟨_, rfl⟩
  | error f => exact ⟨[], if_pos (h f hbody)⟩

theorem Reply.fields_of_illegible {f : Fault} (hbody : r.body = .error f) (hf : ¬ f.kind.isValue) :
    r.fields = .error f := by
  rw [Reply.fields, hbody]
  exact if_neg hf

theorem Reply.not_legible_iff :
    ¬ r.Legible ↔ ∃ f : Fault, r.body = .error f ∧ ¬ f.kind.isValue := by
  simp only [Reply.Legible, Classical.not_forall, exists_prop]

/-- A text is legible as a body unless it goes too deep. -/
theorem Reply.legible_readBody_iff (status : Int) (text : String) :
    (Reply.mk status (readBody text)).Legible ↔
      ∀ container, Json.readWithin maxDepth text.toList ≠ .error (.tooDeep container) := by
  rw [Reply.Legible, readBody]
  cases Json.readWithin maxDepth text.toList with
  | ok v => exact iff_of_true (fun f hf => absurd hf nofun) fun _ => nofun
  | error problem =>
    cases problem with
    | tooDeep container =>
      exact iff_of_false (fun h => absurd (h _ rfl) nofun) fun h => h container rfl
    | _ => exact iff_of_true (fun f hf => Except.error.inj hf ▸ rfl) fun _ => nofun

/-- Only a body that is an object has fields. -/
theorem Reply.body_of_fields (hfields : r.fields = .ok fields) (hne : fields ≠ []) :
    r.body = .ok (.object fields) := by
  rw [Reply.fields] at hfields
  cases hbody : r.body with
  | error f =>
    rw [hbody] at hfields
    simp only at hfields
    split at hfields
    · exact absurd (Except.ok.inj hfields).symm hne
    · exact absurd hfields nofun
  | ok v =>
    rw [hbody] at hfields
    have hfound := Except.ok.inj hfields
    cases v with
    | object own => rw [show own = fields from hfound]
    | _ => exact absurd hfound.symm hne

theorem Reply.usable_iff (hfields : r.fields = .ok fields) : r.Usable ↔ r.status = 200 ∧
    ∃ success data, truthyField? fields "success" = some success ∧
      truthyField? fields "data" = some data := by
  simp only [truthyField?_eq_some_iff]
  refine and_congr_right fun _ => ?_
  constructor
  · rintro ⟨own, success, data, hbody, hsuccess, hdata⟩
    rw [Reply.fields, hbody] at hfields
    obtain rfl : own = fields := Except.ok.inj hfields
    exact ⟨success, data, hsuccess, hdata⟩
  · rintro ⟨success, data, hsuccess, hdata⟩
    have hne : fields ≠ [] := by
      rintro rfl
      exact absurd hsuccess.1 nofun
    exact ⟨fields, success, data, r.body_of_fields hfields hne, hsuccess, hdata⟩

/-! ## What a reply means -/

theorem Reply.outcome_of_fields (hfields : r.fields = .ok fields) :
    r.outcome = (classify r.status fields).mapError .failure := by
  rw [Reply.outcome, hfields]

theorem outcome_of_usable (h : r.Usable) : ∃ o, r.outcome = .ok o ∧ o.success = true ∧
    ∃ markup, o.markup = some markup ∧ markup ≠ "" := by
  obtain ⟨fields, hfields⟩ := h.legible.exists_fields
  obtain ⟨hstatus, success, data, hsuccess, hdata⟩ := (Reply.usable_iff hfields).1 h
  have hmarkup := Value.display_ne_empty (truthyField?_eq_some_iff.1 hdata).2
  rw [Reply.outcome_of_fields hfields, classify]
  simp only [hstatus, hsuccess, hdata, if_true]
  exact ⟨_, rfl, rfl, data.display, rfl, hmarkup⟩

theorem outcome_of_refused (hlegible : r.Legible) (h : r.status = 400) :
    ∃ m, r.outcome = .error (.failure (.invalidInput m)) := by
  obtain ⟨fields, hfields⟩ := hlegible.exists_fields
  rw [Reply.outcome_of_fields hfields, classify]
  exact ⟨_, congrArg (Except.mapError Raised.failure) (if_pos h)⟩

theorem classify_failed_ne (status : Int) (error : Option String) :
    ∃ m, classify.failed status error = .error (.optimizer m []) ∧ m ≠ "" := by
  refine ⟨_, rfl, ?_⟩
  show "SVG optimization failed: " ++ _ ≠ ""
  simp [String.append_eq_empty_iff]

theorem outcome_of_unusable (hlegible : r.Legible) (hstatus : r.status ≠ 400) (h : ¬ r.Usable) :
    ∃ m, r.outcome = .error (.failure (.optimizer m [])) ∧ m ≠ "" := by
  obtain ⟨fields, hfields⟩ := hlegible.exists_fields
  have hclassify : ∃ m, classify r.status fields = .error (.optimizer m []) ∧ m ≠ "" := by
    rw [Reply.usable_iff hfields] at h
    rw [classify]
    simp only [if_neg hstatus]
    split
    · rename_i success data hsuccess hdata
      split
      · rename_i hok
        exact absurd ⟨hok, success, data, hsuccess, hdata⟩ h
      · exact classify_failed_ne _ _
    · exact classify_failed_ne _ _
  obtain ⟨m, hfailed, hm⟩ := hclassify
  refine ⟨m, ?_, hm⟩
  rw [Reply.outcome_of_fields hfields, hfailed]
  rfl

theorem outcome_of_illegible {f : Fault} (hbody : r.body = .error f) (hf : ¬ f.kind.isValue) :
    r.outcome = .error (.fault f) := by
  rw [Reply.outcome, Reply.fields_of_illegible hbody hf]

/-! ## What a client answers -/

variable {σ : Type} {session : Session σ} {e : Endpoint} {svg : String} {config : Option RuleSet}
  {s s' : σ}

theorem submit_of_reply (h : session (e.optimizeRequest svg config) s = (.ok r, s')) :
    submit session e svg config s = (r.outcome, s') := by
  rw [submit, bind_of_eq h]
  rfl

theorem submit_of_network {f : Fault} (hf : f.kind.isNetwork)
    (h : session (e.optimizeRequest svg config) s = (.error (.fault f), s')) :
    ∃ m, submit session e svg config s = (.error (.failure (.unavailable m)), s') := by
  rw [submit, bind_of_eq h]
  refine ⟨s!"{unavailableHint} ({f.text})", ?_⟩
  show (Except.error (submitFault (.fault f)), s') = _
  rw [submitFault, if_pos hf]

/-- Where a session brings any reply or fails on the network, a client gives an outcome exactly for
a reply that can be used, and the outcome is a success with markup that is not empty.  It tells of an
unavailable server exactly if there is no reply; and as long as the body can be read, or is plainly no
JSON, of refused markup exactly at status 400, and of a failure of the optimizer, with some message,
in all other cases.  What else goes wrong while the body is read is raised as it is, and nothing but
that. -/
theorem submit_classifies (session : Session σ) (e : Endpoint) (svg : String)
    (config : Option RuleSet) (s : σ)
    (hsession : ∀ raised, (session (e.optimizeRequest svg config) s).1 = .error raised →
      ∃ f, raised = .fault f ∧ f.kind.isNetwork) :
    let reply := (session (e.optimizeRequest svg config) s).1
    let answer := (submit session e svg config s).1
    ((∃ o, answer = .ok o) ↔ ∃ r, reply = .ok r ∧ r.Usable) ∧
    (∀ o, answer = .ok o → o.success = true ∧ ∃ markup, o.markup = some markup ∧ markup ≠ "") ∧
    ((∃ m, answer = .error (.failure (.invalidInput m))) ↔
      ∃ r, reply = .ok r ∧ r.Legible ∧ r.status = 400) ∧
    ((∃ m, answer = .error (.failure (.unavailable m))) ↔ ∃ raised, reply = .error raised) ∧
    ((∃ m, answer = .error (.failure (.optimizer m [])) ∧ m ≠ "") ↔
      ∃ r, reply = .ok r ∧ r.Legible ∧ r.status ≠ 400 ∧ ¬ r.Usable) ∧
    (∀ f, answer = .error (.fault f) ↔
      ∃ r, reply = .ok r ∧ r.body = .error f ∧ ¬ f.kind.isValue) ∧
    ∀ raised, answer = .error raised → (∃ m, raised = .failure (.invalidInput m) ∨
      raised = .failure (.unavailable m) ∨ raised = .failure (.optimizer m []) ∧ m ≠ "") ∨
      ∃ f, raised = .fault f := by
  intro reply answer
  rcases hreply : session (e.optimizeRequest svg config) s with ⟨raised | r, s'⟩
  · obtain ⟨f, rfl, hf⟩ := hsession raised (congrArg Prod.fst hreply)
    obtain ⟨m, hanswer⟩ := submit_of_network hf hreply
    have hreply : reply = .error (.fault f) := congrArg Prod.fst hreply
    have hanswer : answer = .error (.failure (.unavailable m)) := congrArg Prod.fst hanswer
    simp [hreply, hanswer]
  · have hanswer : answer = r.outcome := congrArg Prod.fst (submit_of_reply hreply)
    have hreply : reply = .ok r := congrArg Prod.fst hreply
    by_cases hlegible : r.Legible
    · have hread : ∀ f : Fault, r.body = .error f → f.kind.isValue := hlegible
      by_cases husable : r.Usable
      · obtain ⟨o, houtcome, hsuccess, markup, hmarkup, hne⟩ := outcome_of_usable husable
        have hstatus : r.status ≠ 400 := by rw [husable.1]; decide
        rw [houtcome] at hanswer
        simp +contextual [hreply, hanswer, husable, hsuccess, hmarkup, hne, hstatus, hread]
      · by_cases hstatus : r.status = 400
        · obtain ⟨m, houtcome⟩ := outcome_of_refused hlegible hstatus
          rw [houtcome] at hanswer
          simp +contextual [hreply, hanswer, husable, hstatus, hlegible, hread]
        · obtain ⟨m, houtcome, hne⟩ := outcome_of_unusable hlegible hstatus husable
          rw [houtcome] at hanswer
          simp +contextual [hreply, hanswer, husable, hstatus, hne, hlegible, hread]
    · obtain ⟨f, hbody, hf⟩ := Reply.not_legible_iff.1 hlegible
      have husable : ¬ r.Usable := fun h => hlegible h.legible
      rw [outcome_of_illegible hbody hf] at hanswer
      have hsame : ∀ f', f = f' ↔ r.body = .error f' ∧ f'.kind.isValue = false := by
        intro f'
        rw [hbody]
        constructor
        · rintro rfl
          exact ⟨rfl, Bool.eq_false_iff.2 hf⟩
        · exact fun h => Except.error.inj h.1
      have hsome : ∃ f : Fault, r.body = .error f ∧ f.kind.isValue = false :=
        ⟨f, hbody, Bool.eq_false_iff.2 hf⟩
      simp [hreply, hanswer, husable, hlegible, hsame, hsome]

/-- No answer comes in time to the first request; to each other one comes an object whose fields have
all kinds of values. -/
def flaky : Session Bool := fun _ asked =>
  if asked then
    (.ok ⟨200, .ok (.object [("success", .int 1), ("data", .array [.null])])⟩, true)
  else (.error (.fault ⟨.timeout, "timed out"⟩), true)

def remote : Endpoint := { url := "http://localhost:3600/api/optimize" }

theorem submit_classifies_flaky :
    (∀ raised, (flaky (remote.optimizeRequest "<svg/>" none) false).1 = .error raised →
      ∃ f, raised = .fault f ∧ f.kind.isNetwork) ∧
    (∃ m, (submit flaky remote "<svg/>" none false).1 = .error (.failure (.unavailable m))) ∧
    (∀ raised, (flaky (remote.optimizeRequest "<svg/>" none) true).1 = .error raised →
      ∃ f, raised = .fault f ∧ f.kind.isNetwork) ∧
    ∃ o, (submit flaky remote "<svg/>" none true).1 = .ok o := by
  have hfirst : ∀ raised, (flaky (remote.optimizeRequest "<svg/>" none) false).1 = .error raised →
      ∃ f, raised = .fault f ∧ f.kind.isNetwork := by
    intro raised h
    obtain rfl := Except.error.inj h
    exact ⟨_, rfl, rfl⟩
  have hnext : ∀ raised, (flaky (remote.optimizeRequest "<svg/>" none) true).1 = .error raised →
      ∃ f, raised = .fault f ∧ f.kind.isNetwork := fun raised h => nomatch h
  have hlost := (submit_classifies flaky remote "<svg/>" none false hfirst).2.2.2.1
  have hused := (submit_classifies flaky remote "<svg/>" none true hnext).1
  refine ⟨hfirst, hlost.2 ⟨_, rfl⟩, hnext, hused.2 ⟨_, rfl, rfl, _, _, _, rfl, ⟨rfl, rfl⟩, rfl, rfl⟩⟩

/-- A body of so many opening brackets. -/
def brackets (n : Nat) : String := String.ofList (List.replicate n '[')

theorem not_legible_brackets (status : Int) {n : Nat} (h : maxDepth < n) :
    ¬ (Reply.mk status (readBody (brackets n))).Legible := by
  have hread : Json.readWithin maxDepth (brackets n).toList = .error (.tooDeep .array) := by
    rw [brackets, String.toList_ofList, ← List.append_nil (List.replicate n '[')]
    exact Json.readWithin_brackets h []
  exact fun hlegible => (Reply.legible_readBody_iff _ _).1 hlegible .array hread

/-- What comes back is nested more deeply than it can be read. -/
def deep : Session Unit := fun _ => pure (.ok ⟨200, readBody (brackets 100000)⟩)

/-- The complaint is none of the client's failures. -/
theorem submit_recursion_deep :
    (∃ r, (deep (remote.optimizeRequest "<svg/>" none) ()).1 = .ok r ∧ r.status ≠ 400 ∧
      ¬ r.Usable) ∧
    ¬ ∃ f, (submit deep remote "<svg/>" none ()).1 = .error (.failure f) := by
  have hillegible := not_legible_brackets 200 (n := 100000) (by decide)
  obtain ⟨f, hbody, hf⟩ := Reply.not_legible_iff.1 hillegible
  refine ⟨⟨_, rfl, by decide, fun h => hillegible h.legible⟩, ?_⟩
  rw [submit_of_reply rfl, outcome_of_illegible hbody hf]
  rintro ⟨_, hanswer⟩
  exact absurd hanswer nofun

end Client
end SvgIcon
