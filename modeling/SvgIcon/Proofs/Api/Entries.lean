import Mathlib.Tactic.Choose
import SvgIcon.Proofs.Api.Serving
import SvgIcon.Proofs.Json.RoundTrip

/-!
The batch endpoint beside the single one.  The service optimizes the entries of a batch one by one,
and its own way of telling errors agrees, field by field, with that of the endpoint.
-/

namespace SvgIcon

open Rules

variable {σ : Type}

namespace Service

/-- An engine that keeps nothing between documents. -/
def stateless (f : String → RuleSet → Except Raised EngineResult) : Engine σ :=
  fun svg rules => pure (f svg rules)

variable (f : String → RuleSet → Except Raised EngineResult) (baseline : RuleSet)
  (config : Option RuleSet)

/-- What a stateless engine makes of a document. -/
def verdictOn (markup : Value) : Except Raised Outcome :=
  (optimize (stateless f) baseline markup config ()).1

theorem optimize_stateless (markup : Value) (s : σ) :
    optimize (stateless f) baseline markup config s = (verdictOn f baseline config markup, s) := by
  rw [verdictOn]
  cases hvalid : validate markup with
  | error e =>
    rw [optimize_of_invalid _ baseline config hvalid, optimize_of_invalid _ baseline config hvalid]
  | ok svg =>
    rw [optimize_of_valid _ baseline config hvalid, optimize_of_valid _ baseline config hvalid]
    rfl

theorem measure_ne_interrupt (svg : String) (result : EngineResult) :
    measure svg result ≠ .error .interrupt := by
  rw [measure]
  split
  · simp
  · split <;> simp

variable {f}

theorem verdictOn_ne_interrupt (hf : ∀ svg rules, f svg rules ≠ .error .interrupt)
    (markup : Value) : verdictOn f baseline config markup ≠ .error .interrupt := by
  rw [verdictOn]
  cases hvalid : validate markup with
  | error e =>
    rw [optimize_of_invalid _ baseline config hvalid]
    simp
  | ok svg =>
    rw [optimize_of_valid _ baseline config hvalid]
    show (f svg (merge baseline config)).bind (measure svg) ≠ .error .interrupt
    cases hanswer : f svg (merge baseline config) with
    | error e =>
      intro h
      obtain rfl := Except.error.inj h
      exact hf _ _ hanswer
    | ok result => exact measure_ne_interrupt svg result

/-- The outcome of an item of a batch. -/
def settled (x : Except Raised Outcome) : Outcome :=
  (settle x).toOption.getD { success := false }

theorem settle_eq {x : Except Raised Outcome} (h : x ≠ .error .interrupt) :
    settle x = .ok (settled x) := by
  cases x with
  | ok o => rfl
  | error e =>
    obtain ⟨o, m, hsettle, _⟩ := settle_error fun he => h (congrArg _ he)
    rw [settled, hsettle]
    rfl

theorem optimizeBatch_stateless (hf : ∀ svg rules, f svg rules ≠ .error .interrupt)
    (items : List Item) (s : σ) :
    optimizeBatch (stateless f) baseline config items s =
      (.ok (items.map fun item => {
        identifier := item.identifier
        outcome := settled (verdictOn f baseline config item.content) }), s) := by
  induction items with
  | nil => rfl
  | cons item items ih =>
    have hsettle := settle_eq (verdictOn_ne_interrupt baseline config hf item.content)
    rw [optimizeBatch, bind_of_eq (optimize_stateless f baseline config item.content s)]
    simp only [hsettle]
    rw [bind_of_eq ih]
    rfl

end Service

namespace Api

open Service

/-! ## Entries -/

theorem map_itemsFrom {α : Type} (g : Service.Item → α) (files : List Value) (index : Nat) :
    (itemsFrom index files).map g = files.mapIdx fun i entry =>
      g { identifier := entryName (index + i) entry, content := entryContent entry } := by
  induction files generalizing index with
  | nil => rfl
  | cons entry files ih =>
    rw [itemsFrom, List.map_cons, ih, List.mapIdx_cons]
    simp only [Nat.add_zero, Nat.add_assoc, Nat.add_comm 1]

theorem entryName_own (index : Nat) {fields : Fields} {name : Value}
    (hname : fields.lookup "name" = some name) (htruthy : name.truthy = true) :
    entryName index (.object fields) = name.display := by
  simp only [entryName, Value.fields?, Option.getD_some, hname, htruthy, if_true]

theorem entryName_index (index : Nat) {entry : Value}
    (h : ∀ fields name, entry = .object fields → fields.lookup "name" = some name →
      name.truthy = false) : entryName index entry = s!"item-{index}" := by
  have hfalse : (((entry.fields?.getD []).lookup "name").getD .null).truthy = false := by
    cases hfields : entry.fields? with
    | none => rfl
    | some fields =>
      have hentry : entry = .object fields := Value.fields?_eq_some_iff.1 hfields
      cases hname : fields.lookup "name" with
      | none => simp [hname, Value.truthy]
      | some name => simpa [hname] using h fields name hentry hname
  simp only [entryName, hfalse, if_neg Bool.false_ne_true]

/-- A result of a batch says what the answer to the document on its own says. -/
structure Matches (said : Except Raised Outcome) (result : Fields) (status : Nat)
    (answered : Fields) : Prop where
  success : result.lookup "success" = some (.bool (status = 200))
  measured : status = 200 →
    ∀ key ∈ ["data", "originalSize", "optimizedSize", "reductionPercentage"],
      result.lookup key = answered.lookup key
  data : status ≠ 200 → result.lookup "data" = none
  error : status ≠ 200 → ∀ e, said = .error e → e.text ≠ "" →
    result.lookup "error" = some (.text e.text) ∧ answered.lookup "error" = some (.text e.text)

theorem matches_of_settled {said : Except Raised Outcome} (h : said ≠ .error .interrupt)
    (hmeasured : ∀ o, said = .ok o → o.Measured) (name : String) :
    ∃ result, resultOf { identifier := name, outcome := settled said } = .object result ∧
      result.lookup "name" = some (.text name) ∧
      ∃ response answered, answerTo said = .ok response ∧ response.content = .json (.object answered) ∧
        Matches said result response.status answered := by
  have hname : ∀ f ∈ [("name", Value.text name)], f.2.isNull = false := by simp [Value.isNull]
  cases said with
  | ok o =>
    have ho := hmeasured o rfl
    refine ⟨_, present_measured _ ho hname, rfl, _, _, rfl,
      congrArg Content.json (present_measured [] ho (by simp)), rfl, ?_, ?_, ?_⟩
    · intro _ key hkey
      simp only [List.mem_cons, List.not_mem_nil, or_false] at hkey
      rcases hkey with rfl | rfl | rfl | rfl <;> rfl
    · exact fun hstatus => absurd rfl hstatus
    · exact fun hstatus => absurd rfl hstatus
  | error e =>
    have he : e ≠ .interrupt := fun heq => h (congrArg _ heq)
    obtain ⟨o, m, hsettle, hfailed, htext⟩ := settle_error he
    have houtcome : settled (.error e) = o := by rw [settled, hsettle]; rfl
    obtain ⟨data, hanswer⟩ := answerTo_error he
    have hstatus := errorStatus_ne e
    rw [houtcome]
    refine ⟨_, present_failed _ hfailed hname, rfl, _, _, hanswer, rfl, ?_, ?_, ?_, ?_⟩
    · show some (Value.bool false) = some (.bool (errorStatus e = 200))
      rw [decide_eq_false hstatus]
    · exact fun h200 => absurd h200 hstatus
    · exact fun _ => rfl
    · intro _ e' heq hne
      obtain rfl := Except.error.inj heq
      have hgiven := errorText_of_ne hne
      refine ⟨congrArg (some ∘ Value.text) (htext hne), ?_⟩
      rw [← hgiven]
      cases data <;> rfl

/-! ## The batch -/

/-- For one configuration, every index and entry has a result, which no other entry plays a part
in. -/
structure Itemwise (app : App σ) (host : Host σ) (config : Option RuleSet)
    (result : Nat → Value → Fields) : Prop where
  /-- A batch that the application takes in is answered by the results of its entries, in order. -/
  batch : ∀ (r : Request) (fields : Fields) (files : List Value) (s : σ),
    app.Admits r .optimizeBatch (.object fields) → filesOf fields = .ok (some files) →
    configOf fields = .ok config →
    ∃ response, app.answer r s = (.ok response, s) ∧ response.status = 200 ∧
      response.content = .json (.object [("success", .bool true),
        ("results", .array (files.mapIdx fun index entry => .object (result index entry)))])
  named : ∀ (index : Nat) (fields : Fields) (name : Value), fields.lookup "name" = some name →
    name.truthy = true → (result index (.object fields)).lookup "name" = some (.text name.display)
  numbered : ∀ (index : Nat) (entry : Value), (∀ fields name, entry = .object fields →
    fields.lookup "name" = some name → name.truthy = false) →
    (result index entry).lookup "name" = some (.text s!"item-{index}")
  /-- The content of an entry, sent on its own, is answered by what the result says. -/
  single : ∀ (index : Nat) (entry : Value) (r : Request) (fields : Fields) (s : σ),
    app.Admits r .optimize (.object fields) →
    (fieldOf fields "svgString" "svg_string").2 = entryContent entry →
    configOf fields = .ok config →
    ∃ response answered, app.answer r s = (.ok response, s) ∧
      response.content = .json (.object answered) ∧
      Matches (Service.optimize host.engine host.baseline (entryContent entry) config s).1
        (result index entry) response.status answered

/-- An engine that gives every document back, unless it says no. -/
def obliging (svg : String) (_ : RuleSet) : Except Raised EngineResult :=
  if svg = "<svg>no</svg>" then .error (.fault ⟨.runtime, "no"⟩) else .ok { data := some svg }

/-- A request that posts JSON. -/
def posted (route : Route) (body : String) : Request :=
  { method := "POST", target := route.path, headers := [("content-type", "application/json")]
    body := body.toUTF8 }

def pairText : String := "\x7b\"svgFiles\": [5, \x7b\"content\": \"<svg/>\"\x7d]\x7d"

def aloneText : String := "\x7b\"svgString\": \"<svg/>\"\x7d"

def obligingApp (maxBytes : Int) : App Unit :=
  { host := some { engine := stateless obliging }, maxBytes }

end Api
end SvgIcon
