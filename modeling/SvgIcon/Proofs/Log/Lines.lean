import SvgIcon.Log.Entry
import SvgIcon.Proofs.File.LineEnds
import SvgIcon.Proofs.Json.RoundTrip

/-!
The lines of the run log.  A value that is written on one line has no control characters in it, so
every entry is one line, however many lines its texts have.  What an entry holds is read back from its
line.
-/

namespace SvgIcon
namespace Json

open Text Value

/-! ## Texts on one line -/

/-- No control character stands in the text. -/
def Uncontrolled (s : List Char) : Prop := ∀ c ∈ s, 32 ≤ c.toNat

instance (s : List Char) : Decidable (Uncontrolled s) := inferInstanceAs (Decidable (∀ c ∈ s, _))

theorem uncontrolled_append {a b : List Char} :
    Uncontrolled (a ++ b) ↔ Uncontrolled a ∧ Uncontrolled b :=
  List.forall_mem_append

theorem uncontrolled_cons {c : Char} {s : List Char} :
    Uncontrolled (c :: s) ↔ 32 ≤ c.toNat ∧ Uncontrolled s :=
  List.forall_mem_cons

theorem Uncontrolled.unbroken {s : List Char} (h : Uncontrolled s) : Unbroken s := by
  intro c hc
  have hlow := h c hc
  constructor
  · rintro rfl
    exact absurd hlow (by decide)
  · rintro rfl
    exact absurd hlow (by decide)

theorem uncontrolled_digits {s : List Char} (h : AllDigits s) : Uncontrolled s := by
  intro c hc
  have hdigit := h c hc
  simp only [isAsciiDigit, Bool.and_eq_true, decide_eq_true_eq] at hdigit
  omega

theorem uncontrolled_hexDigits (width n : Nat) : Uncontrolled (hexDigits width n) := by
  rw [hexDigits, uncontrolled_append]
  refine ⟨uncontrolled_digits (.zeros _), fun c hc => ?_⟩
  have hhex := List.all_eq_true.1 (Numeral.hexDigits_read n).1 c hc
  refine Nat.le_of_not_lt fun hlow => ?_
  have hnone : Numeral.hexValue? c = none := by
    rw [Numeral.hexValue?, if_neg (by simp [isAsciiDigit]; omega), if_neg (by simp; omega),
      if_neg (by simp; omega)]
  rw [Numeral.isHexDigit, hnone] at hhex
  exact absurd hhex (by simp)

theorem uncontrolled_charText (asciiOnly : Bool) (c : Char) :
    Uncontrolled (charText asciiOnly c) := by
  have hunit : ∀ n, Uncontrolled (unitEscape n) := fun n => by
    rw [unitEscape, uncontrolled_cons, uncontrolled_cons]
    exact ⟨by decide, by decide, uncontrolled_hexDigits 4 n⟩
  by_cases hletter : c ∈ ['"', '\\', '\n', '\r', '\t', '\x08', '\x0c']
  · simp only [List.mem_cons, List.not_mem_nil, or_false] at hletter
    rcases hletter with rfl | rfl | rfl | rfl | rfl | rfl | rfl <;> exact of_decide_eq_true rfl
  · simp only [List.mem_cons, List.not_mem_nil, or_false, not_or] at hletter
    simp only [charText, hletter, if_false]
    split
    · exact hunit _
    rename_i hcontrol
    split
    · split
      · exact hunit _
      · exact uncontrolled_append.2 ⟨hunit _, hunit _⟩
    · exact uncontrolled_cons.2 ⟨by omega, List.forall_mem_nil _⟩

theorem uncontrolled_textText (asciiOnly : Bool) (s : List Char) :
    Uncontrolled (textText asciiOnly s) := by
  rw [textText, List.cons_append, uncontrolled_cons, uncontrolled_append]
  refine ⟨by decide, fun c hc => ?_, by decide⟩
  obtain ⟨d, _, hd⟩ := List.mem_flatMap.1 hc
  exact uncontrolled_charText asciiOnly d c hd

theorem uncontrolled_significant {digits : List Char} (h : Uncontrolled digits) (hne : digits ≠ []) :
    Uncontrolled (Double.significant digits) := by
  obtain ⟨_, n, hall⟩ := Double.significant_append hne
  rw [hall, uncontrolled_append] at h
  exact h.1

theorem uncontrolled_layoutDecimal (layout : Double.NumberLayout) (d : Double.Decimal) :
    Uncontrolled (Double.layoutDecimal layout d) := by
  have hdigit : ∀ n, Uncontrolled (Double.digitText n) := fun n =>
    uncontrolled_digits (Numeral.allDigits_toDigits n)
  have hdigits := uncontrolled_significant (hdigit d.digits) Nat.toDigits_ne_nil
  have hzeros : ∀ n, Uncontrolled (List.replicate n '0') := fun n => uncontrolled_digits (.zeros n)
  have htake : ∀ n, Uncontrolled ((Double.significant (Double.digitText d.digits)).take n) :=
    fun n c hc => hdigits c (List.mem_of_mem_take hc)
  have hdrop : ∀ n, Uncontrolled ((Double.significant (Double.digitText d.digits)).drop n) :=
    fun n c hc => hdigits c (List.mem_of_mem_drop hc)
  rw [Double.layoutDecimal]
  simp only
  split
  · split
    · simp only [uncontrolled_append]
      exact ⟨⟨by decide, hzeros _⟩, hdigits⟩
    · simp only [uncontrolled_append]
      refine ⟨⟨⟨htake _, hzeros _⟩, by decide⟩, ?_⟩
      split
      · decide
      · exact hdrop _
  · simp only [uncontrolled_append]
    refine ⟨⟨⟨⟨htake _, ?_⟩, ?_⟩, hzeros _⟩, hdigit _⟩
    · split
      · decide
      · exact uncontrolled_cons.2 ⟨by decide, hdrop _⟩
    · split <;> decide

theorem uncontrolled_floatText (x : Double) : Uncontrolled (floatText x) := by
  cases x with
  | nan => decide
  | infinite negative => cases negative <;> decide
  | finite negative rank =>
    show Uncontrolled (Double.text (.finite negative rank))
    rw [Double.text, uncontrolled_append]
    constructor
    · cases negative <;> decide
    · split
      · decide
      · exact uncontrolled_layoutDecimal _ _

theorem uncontrolled_int (i : Int) : Uncontrolled (toString i).toList := by
  have hnat : ∀ n : Nat, Uncontrolled (toString n).toList := fun n => by
    rw [Nat.toString_eq_repr, Nat.toList_repr]
    exact uncontrolled_digits (Numeral.allDigits_toDigits n)
  cases i with
  | ofNat n => exact hnat n
  | negSucc n =>
    show Uncontrolled ("-" ++ toString (n + 1)).toList
    rw [String.toList_append, uncontrolled_append]
    exact ⟨by decide, hnat (n + 1)⟩

mutual
/-- A value without indentation is written on one line. -/
theorem uncontrolled_valueText {style : Style} (hstyle : style.indent = none) (level : Nat) :
    (v : Value) → Uncontrolled (valueText style level v)
  | .null => by rw [valueText]; decide
  | .bool b => by cases b <;> rw [valueText] <;> decide
  | .int i => by rw [valueText]; exact uncontrolled_int i
  | .float x => by rw [valueText]; exact uncontrolled_floatText x
  | .text s => by rw [valueText]; exact uncontrolled_textText _ _
  | .moment m => by rw [valueText]; exact uncontrolled_textText _ _
  | .array found => by
    have hitems := uncontrolled_itemsText hstyle (level + 1) found
    have hbreak : ∀ level, lineBreak style level = [] := fun level => by rw [lineBreak, hstyle]
    rw [valueText, hbreak, hbreak]
    split
    · decide
    · rw [List.append_nil, uncontrolled_append, uncontrolled_append]
      exact ⟨⟨by decide, hitems⟩, by decide⟩
  | .object found => by
    have hfields := uncontrolled_fieldsText hstyle (level + 1) found
    have hbreak : ∀ level, lineBreak style level = [] := fun level => by rw [lineBreak, hstyle]
    rw [valueText, hbreak, hbreak]
    split
    · decide
    · rw [List.append_nil, uncontrolled_append, uncontrolled_append]
      exact ⟨⟨by decide, hfields⟩, by decide⟩

theorem uncontrolled_itemsText {style : Style} (hstyle : style.indent = none) (level : Nat) :
    (found : List Value) → Uncontrolled (itemsText style level found)
  | [] => nofun
  | [v] => uncontrolled_valueText hstyle level v
  | v :: w :: rest => by
    have hseparator : separator style level = [',', ' '] := by rw [separator, hstyle]
    rw [itemsText, hseparator, uncontrolled_append, uncontrolled_append]
    · exact ⟨⟨uncontrolled_valueText hstyle level v, by decide⟩,
        uncontrolled_itemsText hstyle level (w :: rest)⟩
    · simp

theorem uncontrolled_fieldsText {style : Style} (hstyle : style.indent = none) (level : Nat) :
    (found : List (String × Value)) → Uncontrolled (fieldsText style level found)
  | [] => nofun
  | [(key, v)] => by
    rw [fieldsText, uncontrolled_append, uncontrolled_append]
    exact ⟨⟨uncontrolled_textText _ _, by decide⟩, uncontrolled_valueText hstyle level v⟩
  | (key, v) :: f :: rest => by
    have hseparator : separator style level = [',', ' '] := by rw [separator, hstyle]
    rw [fieldsText, hseparator, uncontrolled_append, uncontrolled_append, uncontrolled_append,
      uncontrolled_append]
    · exact ⟨⟨⟨⟨uncontrolled_textText _ _, by decide⟩, uncontrolled_valueText hstyle level v⟩,
        by decide⟩, uncontrolled_fieldsText hstyle level (f :: rest)⟩
    · simp
end

end Json

/-! ## Entries -/

/-- The sizes of an outcome can be written as JSON and read back. -/
structure Outcome.Writable (o : Outcome) : Prop where
  original : o.originalSize.Sound
  optimized : o.optimizedSize.Sound
  reduction : o.reduction.Sound

namespace Log

/-- The fields that a line of the log is read as. -/
def read? (line : String) : Option Fields := (Json.read? line.toList).bind Value.fields?

def field? (line key : String) : Option Value := (read? line).bind (List.lookup key)

def status? (line : String) : Option String := (field? line "status").bind Value.text?

/-- The line is a single one, and tells what came of the item in the run. -/
structure Tells (runId line : String) (item : ItemOutcome) : Prop where
  single : ∃ body, Text.Unbroken body ∧ line.toList = body ++ ['\n']
  runId : field? line "run_id" = some (.text runId)
  source : field? line "source" = some (.text item.identifier)
  status : status? line = some (if item.outcome.success then "success" else "failure")
  code : field? line "error_code" = some (.ofText? item.outcome.code)
  error : field? line "error_message" = some (.ofText? item.outcome.error)
  original : field? line "original_size" = some item.outcome.originalSize
  optimized : field? line "optimized_size" = some item.outcome.optimizedSize
  reduction : field? line "reduction_percentage" = some item.outcome.reduction

/-! ## Records -/

/-- What is written of an item, field by field.  An entry is a record whose status goes with its
outcome. -/
structure Record where
  runId : String
  source : String
  status : String
  code : Option String
  message : Option String
  originalSize : Value
  optimizedSize : Value
  reduction : Value
  elapsedMs : Double

def Entry.record (e : Entry) : Record where
  runId := e.runId
  source := e.source
  status := e.status
  code := e.outcome.code
  message := e.outcome.error
  originalSize := e.outcome.originalSize
  optimizedSize := e.outcome.optimizedSize
  reduction := e.outcome.reduction
  elapsedMs := e.elapsedMs

namespace Record

/-- The sizes of a record can be written as JSON and read back. -/
structure Writable (r : Record) : Prop where
  original : r.originalSize.Sound
  optimized : r.optimizedSize.Sound
  reduction : r.reduction.Sound

def fields (r : Record) : Fields := [
  ("run_id", .text r.runId),
  ("source", .text r.source),
  ("status", .text r.status),
  ("error_code", .ofText? r.code),
  ("error_message", .ofText? r.message),
  ("original_size", r.originalSize),
  ("optimized_size", r.optimizedSize),
  ("reduction_percentage", r.reduction),
  ("elapsed_ms", .float r.elapsedMs)]

/-- The JSON of a record, on one line. -/
def text (r : Record) : String := Json.write .log (.object r.fields)

def line (r : Record) : String := r.text ++ "\n"

theorem toList_text (r : Record) : r.text.toList = Json.valueText .log 0 (.object r.fields) := by
  rw [text, Json.write, String.toList_ofList]

theorem toList_line (r : Record) : r.line.toList = r.text.toList ++ ['\n'] :=
  String.toList_append

theorem unbroken_text (r : Record) : Text.Unbroken r.text.toList := by
  rw [toList_text]
  exact (Json.uncontrolled_valueText rfl 0 _).unbroken

theorem sound_ofText? (s : Option String) : (Value.ofText? s).Sound := by
  cases s <;> exact ⟨rfl, trivial⟩

theorem sound_fields {r : Record} (h : r.Writable) : (Value.object r.fields).Sound := by
  refine Value.sound_object (by simp [fields, Assoc.keys]) ?_
  simp only [fields, List.forall_mem_cons]
  exact ⟨Value.sound_text _, Value.sound_text _, Value.sound_text _, sound_ofText? _,
    sound_ofText? _, h.original, h.optimized, h.reduction, ⟨rfl, trivial⟩, List.forall_mem_nil _⟩

end Record

theorem Entry.line_record (e : Entry) : e.record.line = e.line := rfl

theorem Entry.single (e : Entry) :
    ∃ body, Text.Unbroken body ∧ e.line.toList = body ++ ['\n'] :=
  ⟨_, e.record.unbroken_text, e.line_record ▸ e.record.toList_line⟩

theorem Entry.writable_record {e : Entry} (h : e.outcome.Writable) : e.record.Writable :=
  ⟨h.original, h.optimized, h.reduction⟩

/-- The line of an entry is read as the fields of the entry. -/
theorem Entry.read?_line {e : Entry} (h : e.outcome.Writable) : read? e.line = some e.fields := by
  have hread : Json.read? (Json.valueText .log 0 (.object e.fields) ++ ['\n']) =
      some (.object e.fields) :=
    Json.read?_valueText .log (Record.sound_fields (Entry.writable_record h)) (.cons (by decide) _)
      (by decide)
  rw [read?, line, String.toList_append, Json.write, String.toList_ofList]
  show (Json.read? (Json.valueText .log 0 (.object e.fields) ++ ['\n'])).bind _ = _
  rw [hread]
  rfl

theorem Entry.tells {e : Entry} (h : e.outcome.Writable) {item : ItemOutcome}
    (hsource : item.identifier = e.source) (houtcome : item.outcome = e.outcome) :
    Tells e.runId e.line item := by
  have hfield : ∀ key, field? e.line key = e.fields.lookup key := fun key => by
    rw [field?, read?_line h]
    rfl
  refine ⟨e.single, ?_, ?_, ?_, ?_, ?_, ?_, ?_, ?_⟩
  all_goals
    simp only [status?, hfield, hsource, houtcome]
    rfl

end Log
end SvgIcon
