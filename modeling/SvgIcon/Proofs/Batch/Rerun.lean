import SvgIcon.Batch.Files
import SvgIcon.Proofs.Batch.Steps
import SvgIcon.Proofs.File.Writing
import SvgIcon.Proofs.Markup.Extraction
import SvgIcon.Proofs.Markup.Settling

/-!
A batch run made again.  If the optimizer answers with the markup it is sent, a run turns the first
span of a file into SVG and back, and writes the file anew.  What a drawing turns into stays the
same when it is turned again, and it is the first span of what was written, so that the second run
writes what the first one did.
-/

namespace SvgIcon

/-! ## The span that was put in -/

namespace Markup

open Text

/-- Where the first span gives way to another text with a start, and a single end at its end, the
other text is the first span. -/
theorem Span.IsFirst.replace {sp : Span} {text inner : List Char} (h : sp.IsFirst text)
    (hinner : Free svgEnd inner) :
    Span.IsFirst ⟨sp.before, svgStart ++ (inner ++ svgEnd), sp.behind⟩
      (sp.before ++ (svgStart ++ (inner ++ svgEnd)) ++ sp.behind) where
  split := rfl
  shape := ⟨inner, by simp⟩
  start p q r heq := by
    refine Nat.le_of_not_lt fun (hlt : p.length < sp.before.length) => ?_
    obtain ⟨inner', hshape⟩ := h.shape
    have hearly : p ++ svgStart <+:
        sp.before ++ (svgStart ++ (inner ++ svgEnd)) ++ sp.behind :=
      ⟨q ++ svgEnd ++ r, by rw [heq]; simp⟩
    by_cases hin : (p ++ svgStart).length ≤ sp.before.length
    · -- a start that lies in front of the span was there before
      obtain ⟨u, hu⟩ : p ++ svgStart <+: sp.before :=
        List.prefix_of_prefix_length_le hearly ⟨_, by rw [List.append_assoc]⟩ hin
      have hold : text = p ++ svgStart ++ (u ++ svgStart ++ inner') ++ svgEnd ++ sp.behind := by
        rw [h.split, hshape, ← hu]
        simp
      exact absurd (h.start _ _ _ hold) (by omega)
    · -- a start cannot hold the beginning of another one
      obtain ⟨w, hw⟩ : p <+: sp.before :=
        List.prefix_of_prefix_length_le ((List.prefix_append p svgStart).trans hearly)
          ⟨_, by rw [List.append_assoc]⟩ (by omega)
      have hbracket : sp.before ++ ['<'] <+: p ++ svgStart := by
        refine List.prefix_of_prefix_length_le
          ⟨"svg".toList ++ (inner ++ svgEnd) ++ sp.behind, ?_⟩ hearly ?_
        · have hstart : svgStart = '<' :: "svg".toList := by decide
          rw [hstart]
          simp
        · simp only [List.length_append, List.length_singleton] at hin ⊢
          omega
      rw [← hw, List.append_assoc, List.prefix_append_right_inj] at hbracket
      cases w with
      | nil => simp [← hw] at hlt
      | cons c w =>
        have hrest := (List.cons_prefix_cons.1 hbracket).2
        exact absurd (hrest.subset (List.mem_append_right w List.mem_cons_self)) (by decide)
  stop q r heq := by
    have hsame : sp.before ++ svgStart ++ (inner ++ (svgEnd ++ sp.behind)) =
        sp.before ++ svgStart ++ (q ++ svgEnd ++ r) := by
      simpa using heq
    have hle := length_le_of_cut? (hinner.cut?_append sp.behind) (List.append_cancel_left hsame)
    simp only [List.length_append]
    omega

end Markup

namespace Batch

open Rules Markup Text

variable {σ α : Type}

/-! ## Quiet surroundings -/

/-- What is done leaves the bytes of a file as they are. -/
def Leaves (disk : Part σ Disk) (p : Path) (act : StateM σ α) : Prop :=
  ∀ s, (disk.get (act s).2).read p = (disk.get s).read p

theorem Leaves.of_eq {disk : Part σ Disk} {p : Path} {act : StateM σ α} {s s' : σ} {a : α}
    (h : Leaves disk p act) (heq : act s = (a, s')) :
    (disk.get s').read p = (disk.get s).read p := by
  have hs := h s
  rwa [heq] at hs

/-- The surroundings of a run in which only the run itself writes a file: the optimizer answers
every document with that document, and nobody cancels. -/
structure Quiet (disk : Part σ Disk) (p : Path) (c : Collaborators σ) : Prop where
  /-- The disk that was set is the one that is there. -/
  kept : ∀ d s, disk.get (disk.set d s) = d
  echoes : ∀ svg config s, ∃ o, (c.submit svg config s).1 = .ok o ∧ o.markupText = svg
  uncancelled : ∀ s, (c.cancelled s).1 = false
  submit : ∀ svg config, Leaves disk p (c.submit svg config)
  log : ∀ q append, c.log = some (q, append) → ∀ entry, Leaves disk p (append entry)
  warn : ∀ text, Leaves disk p (c.warn text)
  progress : ∀ x, Leaves disk p (c.progress x)
  cancelled : Leaves disk p c.cancelled
  clock : Leaves disk p c.clock

/-- Files are read from a disk, and written back to it as components. -/
def WorksOn (disk : Part σ Disk) (c : Collaborators σ) : Prop :=
  ∃ log, c = onDisk disk c.submit log c.warn c.progress c.cancelled c.clock

variable {disk : Part σ Disk} {c : Collaborators σ} {p : Path} {config : Option RuleSet}
  {runId : String} {s s' : σ} {text : String} {sp : Span}

namespace WorksOn

theorem read_eq (h : WorksOn disk c) (s : σ) :
    c.read p s = ((disk.get s).readText p, disk.set (disk.get s) s) := by
  obtain ⟨log, hc⟩ := h
  rw [hc]
  rfl

theorem reembed_eq (h : WorksOn disk c) (markup : String) (s : σ) :
    c.reembed markup s = (.ok (asComponentMarkup markup), s) := by
  obtain ⟨log, hc⟩ := h
  rw [hc]
  rfl

theorem persist_eq (h : WorksOn disk c) (item : Item) (s : σ) :
    c.persist item text s =
      ((writeItem item text (disk.get s)).1, disk.set (writeItem item text (disk.get s)).2 s) := by
  obtain ⟨log, hc⟩ := h
  rw [hc]
  rfl

end WorksOn

/-- The item for a file. -/
def fileItem (p : Path) : Item := { identifier := p.text, path := some p }

/-- What a turned file holds. -/
def turned (sp : Span) : String := String.ofList (sp.before ++ turn sp.element ++ sp.behind)

theorem record_leaves (h : Quiet disk p c) (item : Item) (outcome : Outcome)
    (ms : Double) : Leaves disk p (record c runId item outcome ms) := by
  intro s
  rcases hrecord : record c runId item outcome ms s with ⟨answer, s'⟩
  cases recorded_of_eq hrecord with
  | unlogged => rfl
  | logged hlog happend => exact (h.log _ _ hlog _).of_eq happend
  | warned text hlog happend => exact (h.warn text _).trans ((h.log _ _ hlog _).of_eq happend)
  | raised hlog happend => exact (h.log _ _ hlog _).of_eq happend

section
variable (hwork : WorksOn disk c) (h : Quiet disk p c)
include hwork h

theorem content_file_eq (hread : (disk.get s).readText p = .ok text) :
    ∃ s', content c (fileItem p) s = (.ok text, s') ∧
      (disk.get s').read p = (disk.get s).read p := by
  refine ⟨disk.set (disk.get s) s, ?_, ?_⟩
  · have hdone : c.read p s = (.ok text, disk.set (disk.get s) s) := by
      rw [hwork.read_eq, hread]
    rw [content_file rfl hdone]
    rfl
  · rw [h.kept]

theorem persisted_holds (hname : p.EndsInName) {bytes : ByteArray}
    (hread : (disk.get s).read p = .ok bytes) {done : Except Raised Unit}
    (hpersist : c.persist (fileItem p) text s = (done, s')) :
    (disk.get s').read p = .ok text.toUTF8 := by
  obtain ⟨d', hwrite, hnew⟩ := Disk.writeText_over hname hread text
  have hitem : writeItem (fileItem p) text (disk.get s) = (.ok (), d') := by
    show (((Disk.writeText p text .utf8).run (disk.get s)).1.mapError _,
      ((Disk.writeText p text .utf8).run (disk.get s)).2) = _
    rw [hwrite]
    rfl
  rw [hwork.persist_eq, hitem] at hpersist
  rw [← (Prod.mk.inj hpersist).2, h.kept]
  exact hnew

/-- An attempt on a file writes the file anew, with its span turned. -/
theorem attempted_turns (hname : p.EndsInName) {bytes : ByteArray}
    (hread : (disk.get s).read p = .ok bytes) (hspan : sp.IsFirst text.toList)
    {answer : Except Raised Outcome}
    (hattempt : Attempted c config (fileItem p) text.toList sp.element s answer s') :
    (disk.get s').read p = .ok (turned sp).toUTF8 := by
  obtain ⟨o, hanswer, hecho⟩ := h.echoes (String.ofList (ofComponent sp.element)) config s
  cases hattempt with
  | refused hsubmit =>
    rw [hsubmit] at hanswer
    exact absurd hanswer (by simp)
  | unembedded hsubmit hreembed =>
    rw [hwork.reembed_eq] at hreembed
    exact absurd (Prod.mk.inj hreembed).1 (by simp)
  | @embedded o' new done s₁ s₂ s' hsubmit hreembed hpersist =>
    rw [hsubmit] at hanswer
    obtain rfl := Except.ok.inj hanswer
    rw [hwork.reembed_eq] at hreembed
    obtain ⟨hnew, rfl⟩ := Prod.mk.inj hreembed
    have hturn : new.toList = turn sp.element := by
      rw [← Except.ok.inj hnew, hecho, asComponentMarkup, String.toList_ofList,
        String.toList_ofList]
      rfl
    rw [hturn, replaceFirst_element hspan] at hpersist
    have hleft := (h.submit _ _).of_eq hsubmit
    exact persisted_holds hwork h hname (hleft.trans hread) hpersist

theorem processed_turns (hname : p.EndsInName) (hread : (disk.get s).readText p = .ok text)
    (hspan : sp.IsFirst text.toList) {answer : Except Raised (Verdict × Outcome)}
    (hprocess : process c config runId (fileItem p) s = (answer, s')) :
    (disk.get s').read p = .ok (turned sp).toUTF8 := by
  obtain ⟨s₀, hhad, hsame⟩ := content_file_eq hwork h hread
  obtain ⟨⟨bytes, hbytes⟩, _⟩ := Disk.read_of_readText hread
  have hextract : extract? text.toList = some sp.element := by
    rw [extract?, span?_eq_some_iff.2 hspan]
    rfl
  -- the text that was read is the one that is there, and so is its element
  have htexts : ∀ {text' s₁}, content c (fileItem p) s = (.ok text', s₁) →
      text' = text ∧ s₁ = s₀ := by
    intro text' s₁ hcontent
    rw [hhad] at hcontent
    obtain ⟨htext, hs⟩ := Prod.mk.inj hcontent
    exact ⟨(Except.ok.inj htext).symm, hs.symm⟩
  have htried : ∀ {element answer s₂}, extract? text.toList = some element →
      Attempted c config (fileItem p) text.toList element (c.clock s₀).2 answer s₂ →
      (disk.get s₂).read p = .ok (turned sp).toUTF8 := by
    intro element answer s₂ helement hattempt
    rw [hextract] at helement
    obtain rfl := Option.some.inj helement
    have hclock := (h.clock s₀).trans (hsame.trans hbytes)
    exact attempted_turns hwork h hname hclock hspan hattempt
  cases processed_of_eq hprocess with
  | unread hcontent hrecord => exact absurd (Prod.mk.inj (hhad.symm.trans hcontent)).1 (by simp)
  | unknown hcontent hother => exact absurd (Prod.mk.inj (hhad.symm.trans hcontent)).1 (by simp)
  | unmarked hcontent hnone =>
    obtain ⟨rfl, rfl⟩ := htexts hcontent
    exact absurd (hextract.symm.trans hnone) (by simp)
  | interrupted hcontent helement hattempt hjudge =>
    obtain ⟨rfl, rfl⟩ := htexts hcontent
    exact htried helement hattempt
  | judged hcontent helement hattempt hjudge hrecord =>
    obtain ⟨rfl, rfl⟩ := htexts hcontent
    have hlogged := (record_leaves h _ _ _).of_eq hrecord
    exact hlogged.trans ((h.clock _).trans (htried helement hattempt))

/-- A run over a single item ends where the work on the item ends, but for what is told of it. -/
theorem run_turns (hname : p.EndsInName) (hread : (disk.get s).readText p = .ok text)
    (hspan : sp.IsFirst text.toList) :
    (disk.get (run c config runId [fileItem p] s).2).read p = .ok (turned sp).toUTF8 := by
  rcases hcancelled : c.cancelled (c.progress .zero s).2 with ⟨b, s₁⟩
  obtain rfl : b = false := by
    have hgo := h.uncancelled (c.progress .zero s).2
    rwa [hcancelled] at hgo
  have hleft : (disk.get s₁).read p = (disk.get s).read p :=
    (h.cancelled.of_eq hcancelled).trans (h.progress .zero s)
  have hthere : (disk.get s₁).readText p = .ok text := by
    rwa [Disk.readText, hleft]
  rcases hprocess : process c config runId (fileItem p) s₁ with ⟨answer, s₂⟩
  have hturned := processed_turns hwork h hname hthere hspan hprocess
  rcases answer with e | ⟨verdict, outcome⟩
  · have hall : run c config runId [fileItem p] s = (.error e, s₂) := by
      rw [run, bind_of_eq (rfl : c.progress .zero s = _), runFrom, bind_of_eq hcancelled]
      exact bind_of_eq hprocess
    rw [hall]
    exact hturned
  · have hall : run c config runId [fileItem p] s =
        (.ok (Report.add { runId } p.text verdict outcome), (c.progress (progressAt 0 1) s₂).2) := by
      rw [run, bind_of_eq (rfl : c.progress .zero s = _), runFrom, bind_of_eq hcancelled]
      exact (bind_of_eq hprocess).trans (bind_of_eq rfl)
    rw [hall]
    exact (h.progress _ s₂).trans hturned

/-- A run over a file writes it anew with its first span turned, whatever the log answers. -/
theorem runFiles_turns (hname : p.EndsInName) (hread : (disk.get s).readText p = .ok text)
    (hspan : sp.IsFirst text.toList) :
    (disk.get (runFiles disk c config runId [p] s).2).read p = .ok (turned sp).toUTF8 := by
  obtain ⟨⟨bytes, hbytes⟩, _⟩ := Disk.read_of_readText hread
  have hitems : itemsAt (disk.get s) [p] = .ok [fileItem p] := by
    rw [itemsAt, Disk.filesAtAll_file _ hbytes]
    rfl
  have hrun : runFiles disk c config runId [p] s = run c config runId [fileItem p] s := by
    refine (bind_of_eq (rfl : (get : StateM σ σ) s = (s, s))).trans ?_
    rw [hitems]
  rw [hrun]
  exact run_turns hwork h hname hread hspan

end

/-! ## The second run -/

theorem notMem_turned (h : '\r' ∉ text.toList) (hspan : sp.IsFirst text.toList) :
    '\r' ∉ (turned sp).toList := by
  rw [hspan.split] at h
  simp only [List.mem_append, not_or] at h
  have hturn : '\r' ∉ turn sp.element := by
    rw [turn, toJsx, collapseBlanks_eq]
    exact fun hmem => notMem_squeeze_lineBreak (by decide) _ (mem_of_mem_trim hmem)
  simp only [turned, String.toList_ofList, List.mem_append, not_or]
  exact ⟨⟨h.1.1, hturn⟩, h.2⟩

/-- Two runs over a file, the second one over what the first one wrote. -/
theorem runFiles_twice (hwork : WorksOn disk c) (h : Quiet disk p c) (hname : p.EndsInName)
    (hread : (disk.get s).readText p = .ok text) (hspan : sp.IsFirst text.toList) {sp' : Span}
    (hagain : sp'.IsFirst (turned sp).toList) (config : Option RuleSet) (runId runId' : String) :
    let once := (runFiles disk c config runId [p] s).2
    (disk.get once).read p = .ok (turned sp).toUTF8 ∧
      (disk.get (runFiles disk c config runId' [p] once).2).read p = .ok (turned sp').toUTF8 := by
  intro once
  have honce : (disk.get once).read p = .ok (turned sp).toUTF8 :=
    runFiles_turns hwork h hname hread hspan
  have hbreaks := notMem_turned (Disk.read_of_readText hread).2 hspan
  exact ⟨honce, runFiles_turns hwork h hname (Disk.readText_of_read honce hbreaks) hagain⟩

/-- What a drawing in a file turns into stays the same when it is turned again, and is the first
span of the text that is written.  So a run over the file with an optimizer that echoes, made
again, leaves the file byte for byte as it was. -/
theorem runFiles_again {t : Drawing} (ht : t.WellFormed) {text : String} {before behind : List Char}
    (hspan : span? text.toList = some ⟨before, t.text, behind⟩) :
    turn (turn t.text) = turn t.text ∧
    span? (before ++ turn t.text ++ behind) = some ⟨before, turn t.text, behind⟩ ∧
    ∀ {σ : Type} {disk : Part σ Disk} {c : Collaborators σ} {p : Path} {s : σ},
      WorksOn disk c → Quiet disk p c → p.EndsInName → (disk.get s).readText p = .ok text →
      ∀ (config : Option RuleSet) (runId runId' : String),
        let once := (runFiles disk c config runId [p] s).2
        let twice := (runFiles disk c config runId' [p] once).2
        (disk.get once).read p = .ok (String.ofList (before ++ turn t.text ++ behind)).toUTF8 ∧
          (disk.get twice).read p = (disk.get once).read p := by
  have hfirst := span?_eq_some_iff.1 hspan
  have hstays := t.turn_turn ht
  obtain ⟨inner, hinner, hfree⟩ := t.exists_turn_eq ht
  have hagain : Span.IsFirst ⟨before, turn t.text, behind⟩ (before ++ turn t.text ++ behind) := by
    rw [hinner]
    exact hfirst.replace hfree
  refine ⟨hstays, span?_eq_some_iff.2 hagain, ?_⟩
  intro σ disk c p s hwork hquiet hname hread config runId runId' once twice
  obtain ⟨honce, htwice⟩ := runFiles_twice hwork hquiet hname hread hfirst
    (by rwa [turned, String.toList_ofList]) config runId runId'
  refine ⟨honce, htwice.trans (Eq.trans ?_ honce.symm)⟩
  rw [turned, turned, hstays]

/-- Collaborators that work on a disk alone, with an optimizer that echoes. -/
def echoing : Collaborators Disk :=
  onDisk Part.whole (fun svg _ => pure (.ok { success := true, markup := some svg })) none
    (fun _ => pure ()) (fun _ => pure ()) (pure false) (pure .zero)

theorem worksOn_echoing : WorksOn Part.whole echoing := ⟨none, rfl⟩

theorem quiet_echoing (p : Path) : Quiet Part.whole p echoing where
  kept _ _ := rfl
  echoes _ _ _ := ⟨_, rfl, rfl⟩
  uncancelled _ := rfl
  submit _ _ _ := rfl
  log _ _ hlog := absurd hlog (by simp [echoing, onDisk])
  warn _ _ := rfl
  progress _ _ := rfl
  cancelled _ := rfl
  clock _ := rfl

/-- A disk with a single file that holds a text. -/
def diskWith (text : String) : Disk := { nodes := [(["a.tsx"], .file text.toUTF8)] }

/-- The path to the file. -/
def onlyPath : Path := ⟨"", ["a.tsx"]⟩

theorem readText_diskWith {text : String} (hbreaks : '\r' ∉ text.toList) :
    (diskWith text).readText onlyPath = .ok text :=
  Disk.readText_of_read (Disk.read_eq_ok_iff.2 ⟨["a.tsx"], rfl, rfl⟩) hbreaks

/-- An icon with a number, a style and a text in braces. -/
def icon : Drawing where
  attributes :=
    [⟨[' '], "stroke-width".toList, .number ['2']⟩,
      ⟨[' '], "style".toList, .literal " fill: 'red' ".toList⟩]
  gap := []
  children :=
    [.closed "\n  ".toList "path".toList [⟨[' '], "class".toList, .expression '"' ['a']⟩] [' ']]
  last := ['\n']

def iconSource : String := String.ofList ("const a = ".toList ++ icon.text ++ ";\n".toList)

theorem runFiles_again_icon :
    icon.WellFormed ∧
    span? iconSource.toList = some ⟨"const a = ".toList, icon.text, ";\n".toList⟩ ∧
    (diskWith iconSource).readText onlyPath = .ok iconSource ∧
    let once := (runFiles Part.whole echoing none "first" [onlyPath] (diskWith iconSource)).2
    let twice := (runFiles Part.whole echoing none "second" [onlyPath] once).2
    (Part.whole.get twice).read onlyPath = (Part.whole.get once).read onlyPath := by
  have hicon : icon.WellFormed := by decide +kernel
  have hspan : span? iconSource.toList = some ⟨"const a = ".toList, icon.text, ";\n".toList⟩ := by
    decide +kernel
  have hread : (diskWith iconSource).readText onlyPath = .ok iconSource :=
    readText_diskWith (by decide +kernel)
  obtain ⟨_, _, hruns⟩ := runFiles_again hicon hspan
  have hrun := hruns worksOn_echoing (quiet_echoing onlyPath) (by decide) hread none "first" "second"
  exact ⟨hicon, hspan, hread, hrun.2⟩

/-- An icon whose attribute is named as a class of a namespace. -/
def classedIcon : Drawing where
  attributes := [⟨[' '], "x:class-name".toList, .quoted ['v']⟩]
  gap := []
  children := []
  last := []

/-- Such a name comes back ending in `className`, which the second run takes for that property. -/
theorem runFiles_again_classedIcon :
    (∀ u ∈ classedIcon.stretches, u.WellFormed) ∧ (∀ u ∈ classedIcon.opened, ¬ u.EndsSvg) ∧
    ¬ "style".toList <:+ propertyName "x:class-name".toList ∧
    classedIcon.text = "<svg x:class-name=\"v\"></svg>".toList ∧
    span? classedIcon.text = some ⟨[], classedIcon.text, []⟩ ∧
    let once :=
      (runFiles Part.whole echoing none "first" [onlyPath]
        (diskWith (String.ofList classedIcon.text))).2
    let twice := (runFiles Part.whole echoing none "second" [onlyPath] once).2
    (Part.whole.get once).read onlyPath = .ok "<svg x:className=\"v\"> </svg>".toUTF8 ∧
      (Part.whole.get twice).read onlyPath = .ok "<svg x:class=\"v\"> </svg>".toUTF8 ∧
      (Part.whole.get twice).read onlyPath ≠ (Part.whole.get once).read onlyPath := by
  have hspan : span? classedIcon.text = some ⟨[], classedIcon.text, []⟩ := by decide +kernel
  have hread : (diskWith (String.ofList classedIcon.text)).readText onlyPath =
      .ok (String.ofList classedIcon.text) := readText_diskWith (by decide +kernel)
  have hagain : span? (turned ⟨[], classedIcon.text, []⟩).toList =
      some ⟨[], turn classedIcon.text, []⟩ := by
    decide +kernel
  have hfirst : Span.IsFirst ⟨[], classedIcon.text, []⟩ (String.ofList classedIcon.text).toList := by
    rw [String.toList_ofList]
    exact span?_eq_some_iff.1 hspan
  have honce : turned ⟨[], classedIcon.text, []⟩ = "<svg x:className=\"v\"> </svg>" := by
    decide +kernel
  have htwice : turned ⟨[], turn classedIcon.text, []⟩ = "<svg x:class=\"v\"> </svg>" := by
    decide +kernel
  have hruns := runFiles_twice worksOn_echoing (quiet_echoing onlyPath) (by decide) hread hfirst
    (span?_eq_some_iff.1 hagain) none "first" "second"
  rw [honce, htwice] at hruns
  refine ⟨by decide +kernel, by decide +kernel, by decide +kernel, by decide +kernel, hspan,
    hruns.1, hruns.2, fun hsame => ?_⟩
  have hequal := hruns.2.symm.trans (hsame.trans hruns.1)
  exact absurd (String.toByteArray_inj.1 (Except.ok.inj hequal)) (by decide)

end Batch
end SvgIcon
