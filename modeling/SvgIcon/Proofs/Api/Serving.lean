import SvgIcon.Api.App
import SvgIcon.Proofs.Computation

/-!
What the application answers to a request that it takes in.  On the way from the request to an
endpoint and back nothing is changed but the header for browsers, and what the service says of a
document decides the answer.
-/

namespace SvgIcon

open Rules

variable {σ : Type}

/-! ## What the service says -/

/-- The outcome of a document that was optimized. -/
structure Outcome.Measured (o : Outcome) : Prop where
  success : o.success = true
  markup : ∃ data, o.markup = some data ∧ data ≠ ""
  error : o.error = none
  code : o.code = none
  originalSize : ∃ n, o.originalSize = .int n
  optimizedSize : ∃ n, o.optimizedSize = .int n
  reduction : ∃ x, o.reduction = .float x

/-- The outcome tells of a failure by a text, and of nothing else that an answer shows. -/
structure Outcome.FailedBy (o : Outcome) (m : String) : Prop where
  success : o.success = false
  markup : o.markup = none
  error : o.error = some m
  originalSize : o.originalSize = .null
  optimizedSize : o.optimizedSize = .null
  reduction : o.reduction = .null

namespace Service

theorem measure_measured {svg : String} {result : EngineResult} {o : Outcome}
    (h : measure svg result = .ok o) : o.Measured := by
  rw [measure] at h
  split at h
  · exact absurd h (by simp)
  · rename_i hdata
    split at h
    · exact absurd h (by simp)
    · obtain rfl := Except.ok.inj h
      exact ⟨rfl, ⟨_, rfl, hdata⟩, rfl, rfl, ⟨_, rfl⟩, ⟨_, rfl⟩, ⟨_, rfl⟩⟩

theorem optimize_of_invalid (engine : Engine σ) (baseline : RuleSet) (config : Option RuleSet)
    {markup : Value} {f : Failure} (h : validate markup = .error f) (s : σ) :
    optimize engine baseline markup config s = (.error (.failure f), s) := by
  rw [optimize, h]
  rfl

theorem optimize_of_valid (engine : Engine σ) (baseline : RuleSet) (config : Option RuleSet)
    {markup : Value} {svg : String} (h : validate markup = .ok svg) (s : σ) :
    optimize engine baseline markup config s =
      ((engine svg (merge baseline config) s).1.bind (measure svg),
        (engine svg (merge baseline config) s).2) := by
  rw [optimize, h]
  rcases hengine : engine svg (merge baseline config) s with ⟨e | result, s'⟩
  · exact bind_of_eq hengine
  · exact bind_of_eq hengine

theorem optimize_measured {engine : Engine σ} {baseline : RuleSet} {config : Option RuleSet}
    {markup : Value} {s : σ} {o : Outcome}
    (h : (optimize engine baseline markup config s).1 = .ok o) : o.Measured := by
  cases hvalid : validate markup with
  | error f =>
    rw [optimize_of_invalid engine baseline config hvalid] at h
    exact absurd h (by simp)
  | ok svg =>
    rw [optimize_of_valid engine baseline config hvalid] at h
    rcases hengine : (engine svg (merge baseline config) s).1 with e | result
    · rw [hengine] at h
      exact absurd h (by simp [Except.bind])
    · rw [hengine] at h
      exact measure_measured h

theorem validate_error {markup : Value} {f : Failure} (h : validate markup = .error f) :
    ∃ m, f = .invalidInput m ∧ m ≠ "" := by
  cases markup with
  | text s =>
    rw [validate] at h
    split at h
    · exact ⟨_, (Except.error.inj h).symm, by decide⟩
    · split at h
      · exact absurd h (by simp)
      · exact ⟨_, (Except.error.inj h).symm, by decide⟩
  | _ => exact ⟨_, (Except.error.inj h).symm, by decide⟩

theorem settle_error {e : Raised} (h : e ≠ .interrupt) :
    ∃ o m, settle (.error e) = .ok o ∧ o.FailedBy m ∧ (e.text ≠ "" → m = e.text) := by
  rcases e with f | f | _
  · have hfailed : ∀ info, (Outcome.ofFailure f info).FailedBy f.message :=
      fun _ => ⟨rfl, rfl, rfl, rfl, rfl, rfl⟩
    cases f with
    | optimizer m info => exact ⟨_, m, rfl, hfailed info, fun _ => rfl⟩
    | _ => exact ⟨_, _, rfl, hfailed [], fun _ => rfl⟩
  · exact ⟨_, f.shown, rfl, ⟨rfl, rfl, rfl, rfl, rfl, rfl⟩, fun htext => if_neg htext⟩
  · exact absurd rfl h

end Service

namespace Api

/-! ## Fields of an answer -/

/-- The fields that an answer shows of a document that was optimized. -/
def measuredFields (o : Outcome) : Fields := [
  ("success", .bool true),
  ("data", .text o.markupText),
  ("originalSize", o.originalSize),
  ("optimizedSize", o.optimizedSize),
  ("reductionPercentage", o.reduction)]

section
variable {o : Outcome}

theorem filter_front {front : Fields} (hfront : ∀ f ∈ front, f.2.isNull = false) :
    front.filter (fun f => !f.2.isNull) = front :=
  List.filter_eq_self.2 fun f hf => by rw [hfront f hf]; rfl

theorem present_measured (front : Fields) (h : o.Measured)
    (hfront : ∀ f ∈ front, f.2.isNull = false) :
    present (front ++ outcomeFields o) = .object (front ++ measuredFields o) := by
  obtain ⟨data, hmarkup, _⟩ := h.markup
  obtain ⟨original, horiginal⟩ := h.originalSize
  obtain ⟨optimized, hoptimized⟩ := h.optimizedSize
  obtain ⟨reduction, hreduction⟩ := h.reduction
  rw [present, List.filter_append, filter_front hfront, measuredFields, Outcome.markupText,
    outcomeFields, h.success, hmarkup, h.error, horiginal, hoptimized, hreduction]
  rfl

theorem present_failed (front : Fields) {m : String} (h : o.FailedBy m)
    (hfront : ∀ f ∈ front, f.2.isNull = false) :
    present (front ++ outcomeFields o) =
      .object (front ++ [("success", .bool false), ("error", .text m)]) := by
  rw [present, List.filter_append, filter_front hfront, outcomeFields, h.success, h.markup, h.error,
    h.originalSize, h.optimizedSize, h.reduction]
  rfl

end

/-! ## The answer to a document -/

/-- The status under which an error is answered. -/
def errorStatus : Raised → Nat
  | .failure (.invalidInput _) => 400
  | _ => 500

theorem errorStatus_ne (e : Raised) : errorStatus e ≠ 200 := by
  unfold errorStatus
  split <;> decide

/-- The text that an answer gives for an error. -/
def errorText : Raised → String
  | .failure (.invalidInput m) => m
  | .failure (.optimizer m _) => m
  | e => if e.text = "" then "Unknown error occurred" else e.text

theorem errorText_of_ne {e : Raised} (h : e.text ≠ "") : errorText e = e.text := by
  rcases e with (m | m | ⟨m, info⟩ | port | m | m | ⟨m, code⟩) | f | _
  case failure.invalidInput => rfl
  case failure.optimizer => rfl
  all_goals
    simp only [errorText]
    exact if_neg h

theorem answerTo_error {e : Raised} (h : e ≠ .interrupt) :
    ∃ data, answerTo (.error e) = .ok (failed (errorStatus e) (errorText e) data) := by
  rcases e with (m | m | ⟨m, info⟩ | port | m | m | ⟨m, code⟩) | f | _
  case failure.optimizer => exact ⟨some (describe info), rfl⟩
  case interrupt => exact absurd rfl h
  all_goals exact ⟨none, rfl⟩

/-! ## From the request to the endpoint -/

theorem Body.ofRequest_json {r : Request} {s : List Char} {v : Value}
    (hbody : r.body.isEmpty = false) (hjson : r.isJson = true)
    (htext : Json.textOfBytes? r.body = some s) (hread : Json.readWithin maxDepth s = .ok v) :
    Body.ofRequest r = .ok (.json v) := by
  rw [Body.ofRequest, hbody, hjson, htext]
  simp only [hread]
  rfl

/-- The application hands the request to the endpoint of a route, with a value as its body. -/
structure App.Admits (app : App σ) (r : Request) (route : Route) (v : Value) : Prop where
  path : r.path = route.path
  method : route.methods.contains r.method = true
  size : ∃ n, declaredSize? r = some n ∧ (n : Int) ≤ app.maxBytes
  body : Body.ofRequest r = .ok (.json v)

/-- The response as it leaves the application: browsers may show it to the page that asked. -/
def shown (r : Request) (response : Response) : Response :=
  { response with
    allowOrigin := if (r.header? "origin").isSome then some anyOrigin else response.allowOrigin }

theorem Route.ofPath?_path (route : Route) : Route.ofPath? Route.all route.path = some route := by
  cases route <;> decide +kernel

theorem Route.ne_options {route : Route} {method : String}
    (h : route.methods.contains method = true) : method ≠ "OPTIONS" := by
  rintro rfl
  cases route <;> exact absurd h (by decide)

namespace App.Admits

variable {app : App σ} {host : Host σ} {r : Request} {route : Route} {v : Value}

theorem answer (h : app.Admits r route v) (s : σ) :
    app.answer r s = ((respond app r route s).1.map (shown r), (respond app r route s).2) := by
  obtain ⟨n, hsize, hle⟩ := h.size
  have hroute : Api.route app r = respond app r route := by
    rw [Api.route, routeAmong, h.path, route.ofPath?_path]
    exact if_pos h.method
  rw [App.answer, hsize]
  simp only [if_neg (Int.not_lt.2 hle)]
  rw [crossOrigin, hroute]
  cases horigin : r.header? "origin" with
  | none =>
    have hshown : shown r = id := by
      funext response
      simp [shown, horigin]
    rw [hshown, Except.map_id]
    rfl
  | some origin =>
    have hshown : shown r = fun response => { response with allowOrigin := some anyOrigin } := by
      funext response
      simp [shown, horigin]
    rw [hshown]
    have hmethod := Route.ne_options h.method
    cases hasked : r.header? "access-control-request-method" <;> simp [hmethod] <;> rfl

theorem answer_optimize {fields : Fields} {config : Option RuleSet}
    (h : app.Admits r .optimize (.object fields)) (hhost : app.host = some host)
    (hconfig : configOf fields = .ok config) (s : σ) :
    let x := Service.optimize host.engine host.baseline (fieldOf fields "svgString" "svg_string").2
      config s
    app.answer r s = ((answerTo x.1).map (shown r), x.2) := by
  have hread : OptimizePayload.ofBody (.json (.object fields)) =
      .ok { svg := (fieldOf fields "svgString" "svg_string").2, config } := by
    simp only [OptimizePayload.ofBody, Body.fields, hconfig]
  intro x
  rw [h.answer, respond, withPayload, h.body]
  simp only [hhost, hread]
  rfl

theorem answer_optimizeBatch {fields : Fields} {files : List Value} {config : Option RuleSet}
    (h : app.Admits r .optimizeBatch (.object fields)) (hhost : app.host = some host)
    (hfiles : filesOf fields = .ok (some files)) (hconfig : configOf fields = .ok config) (s : σ) :
    let x := Service.optimizeBatch host.engine host.baseline config (itemsFrom 0 files) s
    app.answer r s = (x.1.map fun outcomes => shown r (.json 200 (.object
      [("success", .bool true), ("results", .array (outcomes.map resultOf))])), x.2) := by
  have hread : BatchPayload.ofBody (.json (.object fields)) = .ok { files, config } := by
    simp only [BatchPayload.ofBody, Body.fields, hfiles, hconfig]
  intro x
  rw [h.answer, respond, withPayload, h.body]
  simp only [hhost, hread]
  have hbatch : optimizeBatch host { files := some files, config } s =
      (x.1.map fun outcomes => Response.json 200 (.object
        [("success", .bool true), ("results", .array (outcomes.map resultOf))]), x.2) := by
    rcases hx : x with ⟨e | outcomes, s'⟩
    · exact bind_of_eq hx
    · exact bind_of_eq hx
  rw [hbatch]
  cases x.1 <;> rfl

end App.Admits

end Api
end SvgIcon
