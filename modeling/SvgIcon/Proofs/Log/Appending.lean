import SvgIcon.Proofs.File.Appending
import SvgIcon.Proofs.Log.Lines
import SvgIcon.Proofs.Text.Lines

/-!
The log after any number of records.  Every record that is taken is one line at the end of the file, and
a record that is refused leaves the file as it was; so the part that has been added is read back line by
line as the records that were taken.
-/

namespace SvgIcon
namespace Log

/-! ## Reading records -/

def texts? : Value → Option (Option String)
  | .null => some none
  | .text s => some (some s)
  | _ => none

def float? : Value → Option Double
  | .float x => some x
  | _ => none

namespace Record

def ofFields? (fields : Fields) : Option Record := do
  let runId ← (fields.lookup "run_id").bind Value.text?
  let source ← (fields.lookup "source").bind Value.text?
  let status ← (fields.lookup "status").bind Value.text?
  let code ← (fields.lookup "error_code").bind texts?
  let message ← (fields.lookup "error_message").bind texts?
  let originalSize ← fields.lookup "original_size"
  let optimizedSize ← fields.lookup "optimized_size"
  let reduction ← fields.lookup "reduction_percentage"
  let elapsedMs ← (fields.lookup "elapsed_ms").bind float?
  return { runId, source, status, code, message, originalSize, optimizedSize, reduction, elapsedMs }

/-- The record that a line of the log is read as. -/
def read? (line : List Char) : Option Record :=
  ((Json.read? line).bind Value.fields?).bind ofFields?

theorem ofFields?_fields (r : Record) : ofFields? r.fields = some r := by
  obtain ⟨_, _, _, code, message, _, _, _, _⟩ := r
  cases code <;> cases message <;> rfl

theorem read?_text {r : Record} (h : r.Writable) : read? r.text.toList = some r := by
  rw [read?, text, Json.read?_write .log (sound_fields h)]
  exact r.ofFields?_fields

/-- The lines of records, one after the other, are the lines of the text they make. -/
theorem pieces_join_line (rs : List Record) :
    Text.pieces '\n' (String.join (rs.map line)).toList = rs.map (·.text.toList) ++ [[]] := by
  induction rs with
  | nil => rfl
  | cons r rs ih =>
    have hfeed : '\n' ∉ r.text.toList := fun hmem => (r.unbroken_text _ hmem).2 rfl
    rw [List.map_cons, String.join_cons, String.toList_append, toList_line, List.append_assoc,
      List.singleton_append, Text.pieces_append hfeed, ih]
    rfl

end Record

/-! ## Adding records -/

variable {p : Path} {d d' : Disk} {r : Record} {rs : List Record}
  {answer : Except Fault Unit} {answers : List (Except Fault Unit)}

def Record.append (p : Path) (r : Record) : Disk.Action Unit := Disk.appendText p r.line

/-- An entry is added as the record that is made of it. -/
theorem append_eq (p : Path) (e : Entry) : append p e = e.record.append p := rfl

/-- Records are added one after the other, and a refusal does not keep the others from being tried. -/
def appendEach (p : Path) (rs : List Record) : StateM Disk (List (Except Fault Unit)) :=
  rs.mapM fun r => (r.append p).run

/-- The records that were not refused. -/
def taken : List Record → List (Except Fault Unit) → List Record
  | r :: rs, answer :: answers =>
    if answer.isOk then r :: taken rs answers else taken rs answers
  | _, _ => []

theorem mem_of_mem_taken (h : r ∈ taken rs answers) : r ∈ rs := by
  induction rs generalizing answers with
  | nil => exact h
  | cons r' rs ih =>
    cases answers with
    | nil => exact absurd h List.not_mem_nil
    | cons answer answers =>
      rw [taken] at h
      split at h
      · rcases List.mem_cons.1 h with rfl | h
        · exact List.mem_cons_self
        · exact List.mem_cons_of_mem r' (ih h)
      · exact List.mem_cons_of_mem r' (ih h)

/-- Records have been added at the end of the log. -/
structure Grows (p : Path) (rs : List Record) (d d' : Disk) : Prop where
  cwd : d'.cwd = d.cwd
  bytes : d'.bytesAt (p.place d.cwd) =
    d.bytesAt (p.place d.cwd) ++ (String.join (rs.map Record.line)).toUTF8

theorem Grows.refl (p : Path) (d : Disk) : Grows p [] d d := ⟨rfl, ByteArray.append_empty.symm⟩

theorem Grows.trans {rs' : List Record} {d'' : Disk} (h : Grows p rs d d') (h' : Grows p rs' d' d'') :
    Grows p (rs ++ rs') d d'' := by
  refine ⟨h'.cwd.trans h.cwd, ?_⟩
  have hbytes := h'.bytes
  rw [h.cwd, h.bytes] at hbytes
  rw [hbytes, List.map_append, String.join_append]
  simp [ByteArray.append_assoc]

theorem grows_append (h : (r.append p).run d = (answer, d')) :
    Grows p (if answer.isOk then [r] else []) d d' := by
  obtain ⟨hcwd, hbytes⟩ := Disk.bytesAt_of_added (Disk.added_of_run h)
  refine ⟨hcwd, hbytes.trans ?_⟩
  cases answer with
  | error f => rfl
  | ok _ => simp [Except.isOk, Except.toBool]

theorem appendEach_cons (p : Path) (r : Record) (rs : List Record) (d : Disk) :
    (appendEach p (r :: rs)).run d =
      let (answer, d₁) := (r.append p).run d
      let (answers, d') := (appendEach p rs).run d₁
      (answer :: answers, d') := by
  rw [appendEach, List.mapM_cons]
  rfl

/-- Whatever is refused, the records that are taken come one behind the other. -/
theorem grows_appendEach (h : (appendEach p rs).run d = (answers, d')) :
    answers.length = rs.length ∧ Grows p (taken rs answers) d d' := by
  induction rs generalizing d answers with
  | nil =>
    obtain ⟨rfl, rfl⟩ := Prod.mk.inj h
    exact ⟨rfl, .refl p d⟩
  | cons r rs ih =>
    rw [appendEach_cons] at h
    rcases hfirst : (r.append p).run d with ⟨answer, d₁⟩
    rcases hrest : (appendEach p rs).run d₁ with ⟨answers', d₂⟩
    rw [hfirst] at h
    simp only [hrest] at h
    obtain ⟨rfl, rfl⟩ := Prod.mk.inj h
    obtain ⟨hlength, hgrows⟩ := ih hrest
    refine ⟨congrArg (· + 1) hlength, ?_⟩
    have hall := (grows_append hfirst).trans hgrows
    by_cases hok : answer.isOk = true
    · rw [if_pos hok] at hall
      rwa [taken, if_pos hok]
    · rw [if_neg hok] at hall
      rwa [taken, if_neg hok]

/-- A log that can be added to takes all records. -/
theorem appendEach_taken (htakes : d.Takes p) (h : (appendEach p rs).run d = (answers, d')) :
    answers = List.replicate rs.length (.ok ()) ∧ taken rs answers = rs ∧
      (rs ≠ [] → ∃ bytes, d'.read p = .ok bytes ∧ d'.bytesAt (p.place d'.cwd) = bytes) := by
  induction rs generalizing d answers with
  | nil =>
    obtain ⟨rfl, rfl⟩ := Prod.mk.inj h
    exact ⟨rfl, rfl, fun hne => absurd rfl hne⟩
  | cons r rs ih =>
    obtain ⟨d₁, hfirst⟩ := (Disk.appendText_takes_iff r.line).2 htakes
    obtain ⟨hread, htakes'⟩ := Disk.read_of_appendText hfirst
    obtain ⟨hcwd, hbytes⟩ := Disk.bytesAt_appendText hfirst
    rcases hrest : (appendEach p rs).run d₁ with ⟨answers', d₂⟩
    have hrun : (r.append p).run d = (.ok (), d₁) := hfirst
    rw [appendEach_cons, hrun] at h
    simp only [hrest] at h
    obtain ⟨rfl, rfl⟩ := Prod.mk.inj h
    obtain ⟨hanswers, htaken, hfile⟩ := ih htakes' hrest
    refine ⟨by rw [hanswers, List.length_cons, List.replicate_succ], ?_, fun _ => ?_⟩
    · rw [taken, htaken]
      rfl
    · cases rs with
      | nil =>
        obtain ⟨_, rfl⟩ := Prod.mk.inj hrest
        exact ⟨_, hread, by rw [hcwd, hbytes]⟩
      | cons => exact hfile (List.cons_ne_nil _ _)

/-- After any number of records the log is what it was, and behind it one line for each record that was
taken; each of these lines is read as its record.  If the text before ended a line, its lines are kept.  A
log that can be added to takes all records, and then this is what the file holds. -/
theorem appendEach_reads (p : Path) (rs : List Record) (d : Disk)
    (hwritable : ∀ r ∈ rs, r.Writable) :
    ∃ answers d', (appendEach p rs).run d = (answers, d') ∧ answers.length = rs.length ∧
      ∃ (added : String) (bodies : List (List Char)),
        d'.bytesAt (p.place d.cwd) = d.bytesAt (p.place d.cwd) ++ added.toUTF8 ∧
        Text.pieces '\n' added.toList = bodies ++ [[]] ∧
        bodies.map Record.read? = (taken rs answers).map some ∧
        (∀ old : String, d.bytesAt (p.place d.cwd) = old.toUTF8 →
          (old.toList = [] ∨ old.toList.getLast? = some '\n') →
          d'.bytesAt (p.place d.cwd) = (old ++ added).toUTF8 ∧
            Text.lines (old ++ added).toList = Text.lines old.toList ++ bodies) ∧
        (d.Takes p → answers = List.replicate rs.length (.ok ()) ∧ taken rs answers = rs ∧
          (rs ≠ [] → d'.read p = .ok (d.bytesAt (p.place d.cwd) ++ added.toUTF8))) := by
  rcases hrun : (appendEach p rs).run d with ⟨answers, d'⟩
  obtain ⟨hlength, hgrows⟩ := grows_appendEach hrun
  have hpieces := Record.pieces_join_line (taken rs answers)
  refine ⟨answers, d', rfl, hlength, _, _, hgrows.bytes, hpieces, ?_, ?_, fun htakes => ?_⟩
  · rw [List.map_map]
    refine List.map_congr_left fun r hr => ?_
    rw [Function.comp_apply, Record.read?_text (hwritable r (mem_of_mem_taken hr))]
  · intro old hold hended
    rw [hgrows.bytes, hold, String.toList_append]
    exact ⟨by simp, Text.lines_append_of_ended hended hpieces⟩
  · obtain ⟨hanswers, htaken, hfile⟩ := appendEach_taken htakes hrun
    refine ⟨hanswers, htaken, fun hne => ?_⟩
    obtain ⟨bytes, hread, hbytes⟩ := hfile hne
    rw [hread, ← hbytes, hgrows.cwd, hgrows.bytes]

/-- Line ends, marks, a control character and what takes two units, in texts that may be missing. -/
def awkward : Record where
  runId := "r\n1"
  source := "a\r\n\"\\\u2028\x01𝄞"
  status := "failure"
  code := none
  message := some "\n"
  originalSize := .null
  optimizedSize := .int (-7)
  reduction := .float (.ofRatio true 1 3)
  elapsedMs := .ofRatio false 5 2

/-- A log in a directory that is not there. -/
theorem appendEach_reads_awkward :
    (∀ r ∈ [awkward, awkward], r.Writable) ∧
      ∃ (d' : Disk) (added : String) (bodies : List (List Char)),
        (appendEach ⟨"", ["logs", "run"]⟩ [awkward, awkward]).run {} =
          ([.ok (), .ok ()], d') ∧
        d'.read ⟨"", ["logs", "run"]⟩ = .ok added.toUTF8 ∧
        Text.pieces '\n' added.toList = bodies ++ [[]] ∧
        bodies.map Record.read? = [some awkward, some awkward] := by
  have hwritable : ∀ r ∈ [awkward, awkward], r.Writable := by
    have hone : awkward.Writable := ⟨⟨rfl, trivial⟩, ⟨by decide +kernel, trivial⟩, ⟨rfl, trivial⟩⟩
    simp [hone]
  have htakes : ({} : Disk).Takes ⟨"", ["logs", "run"]⟩ :=
    ⟨_, ["logs", "run"], rfl, rfl, by simp [Disk.find?, Disk.put, List.lookup_cons]⟩
  obtain ⟨answers, d', hrun, _, added, bodies, _, hpieces, hreads, _, htaken⟩ :=
    appendEach_reads ⟨"", ["logs", "run"]⟩ [awkward, awkward] {} hwritable
  obtain ⟨rfl, hall, hfile⟩ := htaken htakes
  refine ⟨hwritable, d', added, bodies, hrun, ?_, hpieces, ?_⟩
  · rw [hfile (List.cons_ne_nil _ _)]
    exact congrArg _ ByteArray.empty_append
  · rw [hreads, hall]
    rfl

end Log
end SvgIcon
