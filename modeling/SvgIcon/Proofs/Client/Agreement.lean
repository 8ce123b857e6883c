import SvgIcon.Client.Http
import SvgIcon.Proofs.Api.Serving
import SvgIcon.Proofs.Json.RoundTrip

/-!
The client that asks a server beside the one that works on its own.  Where the session brings the
request to the application and its answer back, both tell the same of every document: the way over
statuses and fields keeps apart what is optimized, what is refused and what fails.
-/

namespace SvgIcon
namespace Client

open Rules Api

variable {σ : Type}

/-! ## A session with the application -/

/-- How requests and responses are carried between a client and an application. -/
structure Wire where
  deliver : Request → Api.Request
  reply : Response → Reply

def Wire.session (w : Wire) (app : App σ) : Session σ := fun r => do
  return (← app.answer (w.deliver r)).map w.reply

/-- The request arrives at the application as it was sent, small enough to be taken in, and JSON
comes back as it was answered. -/
structure Wire.Faithful (w : Wire) (app : App σ) (r : Request) : Prop where
  method : (w.deliver r).method = r.method
  path : (w.deliver r).path = Route.optimize.path
  size : ∃ n, declaredSize? (w.deliver r) = some n ∧ (n : Int) ≤ app.maxBytes
  body : ∀ v, r.json = some v → Body.ofRequest (w.deliver r) = .ok (.json v)
  reply : ∀ response v, response.content = .json v → w.reply response = ⟨response.status, .ok v⟩

/-! ## What a reply means -/

/-- An outcome as a reply tells it, that is, without information about the run. -/
def reported (o : Outcome) : Outcome := { o with info := none }

theorem truthyField?_text {fields : Fields} {key m : String}
    (h : fields.lookup key = some (.text m)) :
    truthyField? fields key = if m = "" then none else some (.text m) := by
  rw [truthyField?, h]
  by_cases hm : m = "" <;> simp [hm, Value.truthy]

theorem classify_measured {o : Outcome} (h : o.Measured) :
    classify 200 (measuredFields o) = .ok (reported o) := by
  obtain ⟨data, hmarkup, hdata⟩ := h.markup
  have htext : o.markupText = data := by rw [Outcome.markupText, hmarkup]; rfl
  have hsuccess : truthyField? (measuredFields o) "success" = some (.bool true) := rfl
  have hfound : truthyField? (measuredFields o) "data" = some (.text data) := by
    rw [truthyField?_text rfl, htext, if_neg hdata]
  have hreported : reported o =
      { success := true, markup := some data, originalSize := o.originalSize,
        optimizedSize := o.optimizedSize, reduction := o.reduction } := by
    rw [reported, h.success, hmarkup, h.error, h.code]
  rw [hreported, classify]
  simp only [hsuccess, hfound]
  rfl

/-- The failure that a client tells of for an error of the service. -/
def told : Raised → Failure
  | .failure (.invalidInput m) => .invalidInput (if m = "" then "Invalid SVG format" else m)
  | e => .optimizer ("SVG optimization failed: " ++
      if errorText e = "" then "HTTP error! status: 500" else errorText e) []

theorem classify_failed (e : Raised) (data : Option String) :
    ∃ fields, (failed (errorStatus e) (errorText e) data).content = .json (.object fields) ∧
      classify (errorStatus e) fields = .error (told e) := by
  let fields : Fields := ("success", .bool false) ::
    ((data.map fun d => ("data", Value.text d)).toList ++ [("error", .text (errorText e))])
  have hcontent : (failed (errorStatus e) (errorText e) data).content = .json (.object fields) := by
    cases data <;> rfl
  have hsuccess : truthyField? fields "success" = none := rfl
  have herror : (truthyField? fields "error").map Value.display =
      if errorText e = "" then none else some (errorText e) := by
    have hlookup : fields.lookup "error" = some (.text (errorText e)) := by cases data <;> rfl
    rw [truthyField?_text hlookup]
    split <;> rfl
  refine ⟨_, hcontent, ?_⟩
  rw [classify]
  simp only [hsuccess, herror]
  have hfailed : errorStatus e = 500 → told e = .optimizer ("SVG optimization failed: " ++
      if errorText e = "" then "HTTP error! status: 500" else errorText e) [] →
      (if (errorStatus e : Int) = 400 then
        Except.error (Failure.invalidInput ((if errorText e = "" then none
          else some (errorText e)).getD "Invalid SVG format"))
      else classify.failed (errorStatus e)
        (if errorText e = "" then none else some (errorText e))) = .error (told e) := by
    intro hstatus htold
    rw [htold, hstatus, if_neg (by decide), classify.failed]
    split <;> rfl
  rcases e with (m | m | ⟨m, info⟩ | port | m | m | ⟨m, code⟩) | f | _
  case failure.invalidInput =>
    refine (if_pos rfl).trans ?_
    rw [told]
    show Except.error (Failure.invalidInput ((if m = "" then none else some m).getD _)) = _
    split <;> rfl
  all_goals exact hfailed rfl rfl

/-! ## The two clients -/

section
variable {w : Wire} {app : App σ} {host : Host σ} {e : Endpoint} {svg : String}
  {config : Option RuleSet}

theorem Wire.session_eq (w : Wire) (app : App σ) (r : Request) (s : σ) :
    w.session app r s = ((app.answer (w.deliver r) s).1.map w.reply,
      (app.answer (w.deliver r) s).2) := rfl

/-- Over a faithful wire the reply is the answer to what the service says of the document. -/
theorem Wire.Faithful.replied (h : w.Faithful app (e.optimizeRequest svg config))
    (hhost : app.host = some host) {s s' : σ} {own : Except Raised Outcome}
    (hown : submitLocal host.engine host.baseline svg config s = (own, s')) :
    w.session app (e.optimizeRequest svg config) s =
      ((answerTo own).map (w.reply ∘ shown (w.deliver (e.optimizeRequest svg config))), s') := by
  let fields : Fields := ("svgString", .text svg) ::
    (match config with
    | some rules => [("config", .object rules)]
    | none => [])
  have hadmits : app.Admits (w.deliver (e.optimizeRequest svg config)) .optimize (.object fields) := {
    path := h.path
    method := by rw [h.method]; rfl
    size := h.size
    body := h.body _ (by cases config <;> rfl) }
  have hconfig : configOf fields = .ok config := by cases config <;> rfl
  have hserved : Service.optimize host.engine host.baseline
      (fieldOf fields "svgString" "svg_string").2 config s = (own, s') := hown
  rw [Wire.session_eq, hadmits.answer_optimize hhost hconfig, hserved]
  show (((answerTo own).map _).map _, s') = _
  cases answerTo own <;> rfl

theorem submit_of_ok (h : w.Faithful app (e.optimizeRequest svg config))
    (hhost : app.host = some host) {s s' : σ} {o : Outcome}
    (hown : submitLocal host.engine host.baseline svg config s = (.ok o, s')) :
    submit (w.session app) e svg config s = (.ok (reported o), s') := by
  have ho : o.Measured := Service.optimize_measured (congrArg Prod.fst hown)
  have hcontent : present (outcomeFields o) = .object (measuredFields o) :=
    present_measured [] ho (by simp)
  have hreply : w.session app (e.optimizeRequest svg config) s =
      (.ok ⟨200, .ok (.object (measuredFields o))⟩, s') := by
    rw [h.replied hhost hown, answerTo, hcontent]
    exact congrArg (fun reply => (Except.ok reply, s')) (h.reply _ _ rfl)
  rw [submit, bind_of_eq hreply]
  show (Except.mapError Raised.failure (classify 200 (measuredFields o)), s') = _
  rw [classify_measured ho]
  rfl

theorem submit_of_error (h : w.Faithful app (e.optimizeRequest svg config))
    (hhost : app.host = some host) {s s' : σ} {raised : Raised} (hraised : raised ≠ .interrupt)
    (hown : submitLocal host.engine host.baseline svg config s = (.error raised, s')) :
    submit (w.session app) e svg config s = (.error (.failure (told raised)), s') := by
  obtain ⟨data, hanswer⟩ := answerTo_error hraised
  obtain ⟨fields, hcontent, hclassify⟩ := classify_failed raised data
  have hreply : w.session app (e.optimizeRequest svg config) s =
      (.ok ⟨errorStatus raised, .ok (.object fields)⟩, s') := by
    rw [h.replied hhost hown, hanswer]
    exact congrArg (fun reply => (Except.ok reply, s')) (h.reply _ _ hcontent)
  rw [submit, bind_of_eq hreply]
  show (Except.mapError Raised.failure (classify (errorStatus raised) fields), s') = _
  rw [hclassify]
  rfl

theorem submit_of_interrupt (h : w.Faithful app (e.optimizeRequest svg config))
    (hhost : app.host = some host) {s s' : σ}
    (hown : submitLocal host.engine host.baseline svg config s = (.error .interrupt, s')) :
    submit (w.session app) e svg config s = (.error .interrupt, s') := by
  have hreply : w.session app (e.optimizeRequest svg config) s = (.error .interrupt, s') :=
    h.replied hhost hown
  rw [submit, bind_of_eq hreply]
  rfl

end

/-- Over a faithful wire the client of a server succeeds exactly when the one that works on its own
does, and tells the same markup, sizes and reduction; a document that is refused is refused with the
same text; what the optimizer says when it fails comes after a few words; and whatever else goes
wrong, short of an interrupt, is told as a failure of the optimizer.  Both leave the engine in the
same state. -/
theorem submit_agrees (w : Wire) {app : App σ} {host : Host σ} (hhost : app.host = some host)
    (e : Endpoint) (svg : String) (config : Option RuleSet)
    (h : w.Faithful app (e.optimizeRequest svg config)) (s : σ) :
    let remote := submit (w.session app) e svg config s
    let own := submitLocal host.engine host.baseline svg config s
    remote.2 = own.2 ∧
    ((∃ o, remote.1 = .ok o) ↔ ∃ o, own.1 = .ok o) ∧
    (∀ o o', remote.1 = .ok o → own.1 = .ok o' →
      o.success = o'.success ∧ o.markup = o'.markup ∧ o.originalSize = o'.originalSize ∧
        o.optimizedSize = o'.optimizedSize ∧ o.reduction = o'.reduction) ∧
    (∀ f, Service.validate (.text svg) = .error f →
      (∃ m, f = .invalidInput m) ∧ own.1 = .error (.failure f) ∧ remote.1 = .error (.failure f)) ∧
    (∀ m info, own.1 = .error (.failure (.optimizer m info)) → m ≠ "" →
      remote.1 = .error (.failure (.optimizer ("SVG optimization failed: " ++ m) []))) ∧
    ∀ raised, own.1 = .error raised → raised ≠ .interrupt →
      (∀ m, raised ≠ .failure (.invalidInput m)) →
      ∃ m, remote.1 = .error (.failure (.optimizer m [])) := by
  intro remote own
  have hrefused : ∀ f, Service.validate (.text svg) = .error f → own = (.error (.failure f), s) :=
    fun f hf => Service.optimize_of_invalid host.engine host.baseline config hf s
  rcases hown : own with ⟨answer, s'⟩
  rw [hown] at hrefused
  cases answer with
  | ok o =>
    have hremote : remote = (.ok (reported o), s') := submit_of_ok h hhost hown
    rw [hremote]
    refine ⟨rfl, ⟨fun _ => ⟨o, rfl⟩, fun _ => ⟨_, rfl⟩⟩, ?_, ?_, ?_, ?_⟩
    · intro o₁ o₂ h₁ h₂
      obtain rfl := Except.ok.inj h₁
      obtain rfl := Except.ok.inj h₂
      exact ⟨rfl, rfl, rfl, rfl, rfl⟩
    · exact fun f hf => nomatch hrefused f hf
    · exact fun m info hm => absurd hm (by simp)
    · exact fun raised hraised => absurd hraised (by simp)
  | error raised =>
    have hnone : ∀ e e' : Raised, (∃ o : Outcome, Except.error e = .ok o) ↔
        ∃ o : Outcome, Except.error e' = .ok o := fun _ _ => by simp
    by_cases hraised : raised = .interrupt
    · obtain rfl := hraised
      have hremote : remote = (.error .interrupt, s') := submit_of_interrupt h hhost hown
      rw [hremote]
      refine ⟨rfl, hnone _ _, fun o o' ho => absurd ho (by simp),
        fun f hf => (nomatch hrefused f hf), fun m info hm => absurd hm (by simp), ?_⟩
      exact fun raised hraised hne => absurd (Except.error.inj hraised).symm hne
    · have hremote : remote = (.error (.failure (told raised)), s') :=
        submit_of_error h hhost hraised hown
      rw [hremote]
      refine ⟨rfl, hnone _ _, fun o o' ho => absurd ho (by simp), ?_, ?_, ?_⟩
      · intro f hf
        obtain ⟨m, rfl, hm⟩ := Service.validate_error hf
        have hsame := Except.error.inj (Prod.mk.inj (hrefused _ hf)).1
        refine ⟨⟨m, rfl⟩, by rw [hsame], ?_⟩
        rw [hsame, told, if_neg hm]
      · intro m info hm hne
        rw [Except.error.inj hm]
        show Except.error (Raised.failure (.optimizer (_ ++ if m = "" then _ else m) [])) = _
        rw [if_neg hne]
      · intro raised' hsame _ hinvalid
        obtain rfl := Except.error.inj hsame
        rcases raised with (m | m | ⟨m, info⟩ | port | m | m | ⟨m, code⟩) | f | _
        case failure.invalidInput => exact absurd rfl (hinvalid m)
        all_goals exact ⟨_, rfl⟩

/-- A wire that carries values as JSON texts. -/
def plainWire : Wire where
  deliver r :=
    { method := r.method, target := Route.optimize.path
      headers := [("content-type", "application/json")]
      body := (Json.write .message (r.json.getD .null)).toUTF8 }
  reply response :=
    { status := response.status
      body := match response.content with
        | .json v => .ok v
        | .text _ => .error ⟨.badValue, "Expecting value"⟩ }

def halving : Host Unit := { engine := fun _ _ => pure (.ok { data := some "<svg/>" }) }

def halvingApp : App Unit := { host := some halving, maxBytes := 100 }

def endpoint : Endpoint := { url := "http://localhost:3600/api/optimize" }

theorem submit_agrees_plain :
    plainWire.Faithful halvingApp (endpoint.optimizeRequest "<svg></svg>" none) ∧
    ((∃ o, (submit (plainWire.session halvingApp) endpoint "<svg></svg>" none ()).1 = .ok o) ↔
      ∃ o, (submitLocal halving.engine halving.baseline "<svg></svg>" none ()).1 = .ok o) := by
  have hfaithful : plainWire.Faithful halvingApp (endpoint.optimizeRequest "<svg></svg>" none) := {
    method := rfl
    path := by decide +kernel
    size := ⟨28, by decide +kernel, by decide⟩
    body := by
      intro v hv
      obtain rfl := Option.some.inj hv
      have hsound := Value.sound_empty.cons "svgString" List.not_mem_nil
        (Value.sound_text "<svg></svg>")
      have hread := Json.readWithin_write .message Api.maxDepth hsound (by decide +kernel)
      exact Body.ofRequest_json (by decide +kernel) (by decide +kernel) (by decide +kernel) hread
    reply := by
      intro response v hv
      simp only [plainWire, hv] }
  exact ⟨hfaithful, (submit_agrees plainWire rfl endpoint "<svg></svg>" none hfaithful ()).2.1⟩

end Client
end SvgIcon
