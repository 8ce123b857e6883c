import SvgIcon.Proofs.Batch.Rewriting
import SvgIcon.Proofs.File.Refusals

/-!
Items of a batch run do not depend on each other.  With a client that answers markup by a function,
what comes of a file is a function of what the file holds before the run.  The items before it write
over other files only, which moves no path, so the order of the items does not matter.
-/

namespace SvgIcon

namespace Batch

open Rules Markup Text

variable {σ : Type}

/-! ## The fate of an item -/

/-- What comes of an item, and the text that its file holds in the end, if it is written over. -/
structure Fate where
  verdict : Verdict
  outcome : Outcome
  text : Option String := none

/-- What stands in the place of the file in the end. -/
def Fate.node (fate : Fate) (before : Option Node) : Option Node :=
  match fate.text with
  | some text => some (.file text.toUTF8)
  | none => before

/-- The fate of an item by what is read at its path, with the client's answers. -/
def fate (answer : String → Except Raised Outcome) (item : Item) (p : Path) :
    Except Fault String → Except Raised Fate
  | .error f =>
    match readFault item.identifier f with
    | .failure f => .ok { verdict := .errored, outcome := .ofFailure f [] }
    | e => .error e
  | .ok text =>
    match span? text.toList with
    | none => .ok { verdict := .skipped, outcome := noMarkup }
    | some sp =>
      let tried := answer (submitted sp) >>= fun o => (written item p).map fun _ => o
      (judge tried).map fun told =>
        { verdict := told.1
          outcome := told.2
          text := tried.toOption.map fun o => replaced sp (asComponentMarkup o.markupText) }

/-- The client answers by a function and raises only errors, nothing is logged, and nobody
cancels. -/
structure Stateless (c : Collaborators σ)
    (answer : String → Option RuleSet → Except Raised Outcome) : Prop where
  submit : ∀ svg config s, (c.submit svg config s).1 = answer svg config
  raises : ∀ svg config, answer svg config ≠ .error .interrupt
  log : c.log = none
  uncancelled : ∀ s, (c.cancelled s).1 = false

/-- From one disk to another only the file at a place has come to its fate. -/
structure Touched (q : Place) (fate : Fate) (d d' : Disk) : Prop where
  alike : Disk.Alike d d'
  here : d'.find? q = fate.node (d.find? q)
  elsewhere : ∀ r, r ≠ q → d'.find? r = d.find? r

theorem touched_of_find? {q : Place} {fate : Fate} {d d' : Disk} (htext : fate.text = none)
    (hcwd : d'.cwd = d.cwd) (hfind : ∀ r, d'.find? r = d.find? r) : Touched q fate d d' where
  alike := .of_find? hcwd hfind
  here := by rw [hfind, Fate.node, htext]
  elsewhere r _ := hfind r

theorem touched_put {q : Place} {fate : Fate} {d : Disk} {bytes : ByteArray} {text : String}
    (hfile : d.find? q = some (.file bytes)) (htext : fate.text = some text) :
    Touched q fate d (d.put q (.file text.toUTF8)) where
  alike := .put hfile
  here := by rw [Fate.node, htext, Disk.find?_put_self _ (Disk.ne_nil_of_find? hfile)]
  elsewhere r hr := Disk.find?_put_of_ne _ hr

section
variable {disk : Part σ Disk} {c : Collaborators σ} {config : Option RuleSet} {runId : String}
  {answer : String → Option RuleSet → Except Raised Outcome} {item : Item} {p : Path} {s : σ}

/-- An attempt on a file comes to its fate, and what the file holds then depends on the attempt
alone. -/
theorem attempted_fate (hwork : WorksOn disk c) (hcalm : Calm disk c) (hc : Stateless c answer)
    (hpath : item.path = some p) {text : String} (hread : (disk.get s).readText p = .ok text)
    {element : List Char} (hextract : extract? text.toList = some element)
    {tried : Except Raised Outcome} {s' : σ}
    (hattempt : Attempted c config item text.toList element s tried s') : ∃ new,
      fate (answer · config) item p (.ok text) =
        (judge tried).map (fun told => ⟨told.1, told.2, new⟩) ∧
      ∀ told : Verdict × Outcome,
        Touched (p.place (disk.get s).cwd) ⟨told.1, told.2, new⟩ (disk.get s) (disk.get s') := by
  obtain ⟨sp, hspan, rfl⟩ := Option.map_eq_some_iff.1 hextract
  obtain ⟨place, _, hplace, hfile, _⟩ := Disk.exists_text_of_readText hread
  obtain ⟨htried, hput, hkept⟩ := attempted_on_file hwork hcalm hpath hplace hfile
    (span?_isFirst hspan) hattempt
  rw [hc.submit] at htried
  refine ⟨tried.toOption.map fun o => replaced sp (asComponentMarkup o.markupText), ?_,
    fun told => ?_⟩
  · rw [fate, hspan, htried]
  · rw [← Disk.locate_spelled hplace]
    cases tried with
    | error e =>
      obtain ⟨hnodes, hcwd⟩ := hkept e rfl
      exact touched_of_find? rfl hcwd fun r => by rw [Disk.find?, Disk.find?, hnodes]
    | ok o =>
      rw [hput o rfl]
      exact touched_put hfile rfl

/-- The work on a file comes to its fate, and touches no other place. -/
theorem process_fate (runId : String) (hwork : WorksOn disk c) (hcalm : Calm disk c)
    (hc : Stateless c answer) (hpath : item.path = some p) {there : Fate}
    (hfate : fate (answer · config) item p ((disk.get s).readText p) = .ok there) :
    ∃ s', process c config runId item s = (.ok (there.verdict, there.outcome), s') ∧
      Touched (p.place (disk.get s).cwd) there (disk.get s) (disk.get s') := by
  rcases hprocess : process c config runId item s with ⟨told, s'⟩
  cases processed_of_eq hprocess with
  | @unread f logged s₁ s' hcontent hrecord =>
    obtain ⟨⟨f', hread, hf'⟩, hdisk⟩ := fault_of_content hwork hcalm hpath hcontent
    rw [record_unlogged hc.log] at hrecord
    obtain ⟨rfl, rfl⟩ := Prod.mk.inj hrecord
    rw [hread, fate, hf'] at hfate
    obtain rfl := Except.ok.inj hfate
    exact ⟨_, rfl, touched_of_find? rfl (by rw [hdisk]) fun r => by rw [hdisk]⟩
  | @unknown e s' hcontent hother =>
    obtain ⟨⟨f', hread, hf'⟩, hdisk⟩ := fault_of_content hwork hcalm hpath hcontent
    rw [hread, fate, hf'] at hfate
    cases e with
    | failure f => exact absurd rfl (hother f)
    | _ => simp at hfate
  | @unmarked text s' hcontent hextract =>
    obtain ⟨hread, hdisk⟩ := readText_of_content hwork hcalm hpath hcontent
    rw [hread, fate, Option.map_eq_none_iff.1 hextract] at hfate
    obtain rfl := Except.ok.inj hfate
    exact ⟨_, rfl, touched_of_find? rfl (by rw [hdisk]) fun r => by rw [hdisk]⟩
  | @interrupted text element tried e s₁ s' hcontent hextract hattempt hjudge =>
    obtain ⟨hread, hdisk⟩ := readText_of_content hwork hcalm hpath hcontent
    have hclock : disk.get (c.clock s₁).2 = disk.get s := (hcalm.clock s₁).trans hdisk
    obtain ⟨new, heq, _⟩ := attempted_fate hwork hcalm hc hpath (hclock ▸ hread) hextract hattempt
    rw [hread, heq, hjudge] at hfate
    simp [Except.map] at hfate
  | @judged text element tried verdict outcome ms logged s₁ s₂ s' hcontent hextract hattempt
      hjudge hrecord =>
    obtain ⟨hread, hdisk⟩ := readText_of_content hwork hcalm hpath hcontent
    have hclock : disk.get (c.clock s₁).2 = disk.get s := (hcalm.clock s₁).trans hdisk
    obtain ⟨new, heq, htouched⟩ :=
      attempted_fate hwork hcalm hc hpath (hclock ▸ hread) hextract hattempt
    rw [hread, heq, hjudge] at hfate
    obtain rfl := Except.ok.inj hfate
    rw [record_unlogged hc.log] at hrecord
    obtain ⟨rfl, rfl⟩ := Prod.mk.inj hrecord
    have hend := htouched (verdict, outcome)
    rw [hclock, ← hcalm.clock s₂] at hend
    exact ⟨_, rfl, hend⟩

end

/-- Nothing but a path that the system cannot be asked for, or an interrupt, leaves a file without a
fate. -/
theorem exists_fate {answer : String → Except Raised Outcome} {p : Path} (hp : p.NullFree)
    (hanswer : ∀ svg, answer svg ≠ .error .interrupt) (item : Item) (d : Disk) :
    ∃ there, fate answer item p (d.readText p) = .ok there := by
  cases hread : d.readText p with
  | error f =>
    have hkind : (f.kind.isSystem || decide (f.kind = .decoding)) = true := by
      simpa using Disk.kind_of_readText hp hread
    rw [fate, readFault, if_pos hkind]
    exact ⟨_, rfl⟩
  | ok text =>
    rw [fate]
    cases span? text.toList with
    | none => exact ⟨_, rfl⟩
    | some sp =>
      have htried : ∀ x : Except Raised Outcome, x ≠ .error .interrupt →
          ∃ told, judge x = .ok told := by
        rintro ((f | f | _) | o) hx
        · exact ⟨_, rfl⟩
        · exact ⟨_, rfl⟩
        · exact absurd rfl hx
        · exact ⟨_, rfl⟩
      obtain ⟨told, htold⟩ :=
        htried (answer (submitted sp) >>= fun o => (written item p).map fun _ => o) (by
          intro heq
          cases hsaid : answer (submitted sp) with
          | error e =>
            rw [hsaid] at heq
            exact hanswer _ (hsaid.trans (congrArg _ (Except.error.inj heq)))
          | ok o =>
            rw [hsaid] at heq
            by_cases hname : p.EndsInName <;>
              simp [written, hname, bind, Except.bind, Except.map] at heq)
      simp only [htold]
      exact ⟨_, rfl⟩

/-! ## Runs -/

/-- The place that the path of an item leads to. -/
def Item.place? (item : Item) (cwd : Place) : Option Place := item.path.map (·.place cwd)

/-- The items are files that the system can be asked for, and no two of them lead to one place. -/
structure Independent (cwd : Place) (items : List Item) : Prop where
  files : ∀ item ∈ items, ∃ p, item.path = some p ∧ p.NullFree
  apart : items.Pairwise fun a b => a.place? cwd ≠ b.place? cwd

theorem Independent.perm {cwd : Place} {items items' : List Item} (h : Independent cwd items)
    (hperm : items'.Perm items) : Independent cwd items' where
  files item hitem := h.files item (hperm.subset hitem)
  apart := (hperm.pairwise_iff fun h => Ne.symm h).2 h.apart

/-- An item with its fate. -/
def judged (fates : Item → Fate) (item : Item) : Judged :=
  ⟨item, (fates item).verdict, (fates item).outcome⟩

section
variable {disk : Part σ Disk} {c : Collaborators σ} {config : Option RuleSet}
  {answer : String → Option RuleSet → Except Raised Outcome} {fates : Item → Fate} {d : Disk}

theorem runFrom_fates (hwork : WorksOn disk c) (hcalm : Calm disk c) (hc : Stateless c answer)
    (total : Nat) {items : List Item} (hitems : Independent d.cwd items)
    (hfates : ∀ item ∈ items, ∀ p, item.path = some p →
      fate (answer · config) item p (d.readText p) = .ok (fates item))
    (report : Report) (index : Nat) {s : σ} (halike : Disk.Alike d (disk.get s))
    (hleft : ∀ item ∈ items, ∀ q, item.place? d.cwd = some q →
      (disk.get s).find? q = d.find? q) :
    ∃ s', runFrom c config total report index items s =
        (.ok (report.addAll (items.map (judged fates))), s') ∧
      (∀ item ∈ items, ∀ q, item.place? d.cwd = some q →
        (disk.get s').find? q = (fates item).node (d.find? q)) ∧
      ∀ q, (∀ item ∈ items, item.place? d.cwd ≠ some q) →
        (disk.get s').find? q = (disk.get s).find? q := by
  -- induction on the items that are left; those behind have touched none of their places
  induction items generalizing report index s with
  | nil => exact ⟨s, rfl, nofun, fun _ _ => rfl⟩
  | cons item items ih =>
    obtain ⟨p, hpath, _⟩ := hitems.files item List.mem_cons_self
    obtain ⟨hapart, hrest⟩ := List.pairwise_cons.1 hitems.apart
    have hplace : item.place? d.cwd = some (p.place d.cwd) := by rw [Item.place?, hpath]; rfl
    rcases hcancelled : c.cancelled s with ⟨b, s₁⟩
    obtain rfl : b = false := by
      have hgo := hc.uncancelled s
      rwa [hcancelled] at hgo
    have hdisk₁ := hcalm.cancelled.of_eq hcancelled
    have halike₁ : Disk.Alike d (disk.get s₁) := hdisk₁ ▸ halike
    have hfate : fate (answer · config) item p ((disk.get s₁).readText p) = .ok (fates item) := by
      rw [halike₁.readText_eq (by rw [hdisk₁, hleft item List.mem_cons_self _ hplace])]
      exact hfates item List.mem_cons_self p hpath
    obtain ⟨s₂, hprocess, htouched⟩ := process_fate report.runId hwork hcalm hc hpath hfate
    rw [halike₁.cwd] at htouched
    obtain ⟨s₃, hstep⟩ : ∃ s₃, c.progress (progressAt index total) s₂ = ((), s₃) := ⟨_, rfl⟩
    have hdisk₃ := (hcalm.progress _).of_eq hstep
    have hnext : runFrom c config total report index (item :: items) s =
        runFrom c config total
          (report.add item.identifier (fates item).verdict (fates item).outcome) (index + 1) items
          s₃ := by
      rw [runFrom, bind_of_eq hcancelled, if_neg Bool.false_ne_true]
      exact (bind_of_eq hprocess).trans (bind_of_eq hstep)
    have helsewhere : ∀ q, q ≠ p.place d.cwd → (disk.get s₃).find? q = (disk.get s).find? q := by
      intro q hq
      rw [hdisk₃, htouched.elsewhere q hq, hdisk₁]
    obtain ⟨s', hrun, hends, hothers⟩ := ih
      ⟨fun i hi => hitems.files i (List.mem_cons_of_mem _ hi), hrest⟩
      (fun i hi => hfates i (List.mem_cons_of_mem _ hi))
      (report.add item.identifier (fates item).verdict (fates item).outcome) (index + 1)
      (hdisk₃ ▸ halike₁.trans htouched.alike) (by
        intro i hi q hq
        have hne : q ≠ p.place d.cwd := by
          rintro rfl
          exact hapart i hi (hplace.trans hq.symm)
        rw [helsewhere q hne]
        exact hleft i (List.mem_cons_of_mem _ hi) q hq)
    refine ⟨s', hnext.trans hrun, ?_, fun q hq => ?_⟩
    · intro i hi q hq
      rcases List.mem_cons.1 hi with rfl | hi
      · obtain rfl : p.place d.cwd = q := Option.some.inj (hplace.symm.trans hq)
        rw [hothers _ fun i' hi' heq => hapart i' hi' (hplace.trans heq.symm), hdisk₃,
          htouched.here, hdisk₁, hleft i List.mem_cons_self _ hplace]
      · exact hends i hi q hq
    · have hne : q ≠ p.place d.cwd := by
        rintro rfl
        exact hq item List.mem_cons_self hplace
      rw [hothers q fun i hi => hq i (List.mem_cons_of_mem _ hi), helsewhere q hne]

theorem run_fates (hwork : WorksOn disk c) (hcalm : Calm disk c) (hc : Stateless c answer)
    (runId : String) {items : List Item} (hitems : Independent d.cwd items)
    (hfates : ∀ item ∈ items, ∀ p, item.path = some p →
      fate (answer · config) item p (d.readText p) = .ok (fates item))
    {s : σ} (hdisk : disk.get s = d) :
    ∃ s', run c config runId items s =
        (.ok (Report.addAll { runId } (items.map (judged fates))), s') ∧
      (∀ item ∈ items, ∀ q, item.place? d.cwd = some q →
        (disk.get s').find? q = (fates item).node (d.find? q)) ∧
      ∀ q, (∀ item ∈ items, item.place? d.cwd ≠ some q) → (disk.get s').find? q = d.find? q := by
  obtain ⟨s₁, hstep⟩ : ∃ s₁, c.progress .zero s = ((), s₁) := ⟨_, rfl⟩
  have hdisk₁ : disk.get s₁ = d := ((hcalm.progress _).of_eq hstep).trans hdisk
  obtain ⟨s', hrun, hends, hothers⟩ := runFrom_fates hwork hcalm hc items.length hitems hfates
    { runId } 0 (by rw [hdisk₁]; exact .refl d) fun _ _ _ _ => by rw [hdisk₁]
  refine ⟨s', (bind_of_eq hstep).trans hrun, hends, fun q hq => ?_⟩
  rw [hothers q hq, hdisk₁]

/-- What is reported of an item. -/
def entry (fates : Item → Fate) (item : Item) : ItemOutcome :=
  { identifier := item.identifier
    outcome := (fates item).outcome
    skipped := (fates item).verdict = .skipped }

theorem map_reported_judged (fates : Item → Fate) (items : List Item) :
    (items.map (judged fates)).map Judged.reported = items.map (entry fates) := by
  rw [List.map_map]
  rfl

theorem countP_judged_perm {items items' : List Item} (hperm : items'.Perm items)
    (fates : Item → Fate) (verdict : Verdict) :
    (items'.map (judged fates)).countP (·.verdict = verdict) =
      (items.map (judged fates)).countP (·.verdict = verdict) :=
  (hperm.map (judged fates)).countP_eq _

/-- Items that lead to different places can be worked on in any order.  Each has a fate that depends
on the text of its own file and on the client's answers; in every order it is reported with that
fate, the totals are the same, and the disk holds the same in every place: what the fate says where
an item leads to, and what was there before everywhere else. -/
theorem run_perm (hwork : WorksOn disk c) (hcalm : Calm disk c) (hc : Stateless c answer)
    (config : Option RuleSet) {s s' : σ} (hsame : disk.get s' = disk.get s)
    {items items' : List Item} (hitems : Independent (disk.get s).cwd items)
    (hperm : items'.Perm items) (runId runId' : String) :
    ∃ (fates : Item → Fate) (report report' : Report) (t t' : σ),
      run c config runId items s = (.ok report, t) ∧
      run c config runId' items' s' = (.ok report', t') ∧
      (∀ item ∈ items, ∀ p, item.path = some p →
        fate (answer · config) item p ((disk.get s).readText p) = .ok (fates item)) ∧
      report.items = items.map (entry fates) ∧ report'.items = items'.map (entry fates) ∧
      report'.processed = report.processed ∧ report'.optimized = report.optimized ∧
      report'.errored = report.errored ∧ report'.skipped = report.skipped ∧
      (∀ q, (disk.get t').find? q = (disk.get t).find? q) ∧
      (∀ item ∈ items, ∀ q, item.place? (disk.get s).cwd = some q →
        (disk.get t).find? q = (fates item).node ((disk.get s).find? q)) ∧
      ∀ q, (∀ item ∈ items, item.place? (disk.get s).cwd ≠ some q) →
        (disk.get t).find? q = (disk.get s).find? q := by
  have hall : ∀ item, ∃ there, item ∈ items → ∀ p, item.path = some p →
      fate (answer · config) item p ((disk.get s).readText p) = .ok there := by
    intro item
    by_cases hitem : item ∈ items
    · obtain ⟨p, hpath, hp⟩ := hitems.files item hitem
      obtain ⟨there, hthere⟩ := exists_fate hp (fun svg => hc.raises svg config) item (disk.get s)
      refine ⟨there, fun _ p' hpath' => ?_⟩
      obtain rfl := Option.some.inj (hpath.symm.trans hpath')
      exact hthere
    · exact ⟨{ verdict := .skipped, outcome := noMarkup }, fun h => absurd h hitem⟩
  obtain ⟨fates, hfates⟩ := Classical.skolem.1 hall
  obtain ⟨t, hrun, hends, hothers⟩ := run_fates hwork hcalm hc runId hitems hfates rfl
  obtain ⟨t', hrun', hends', hothers'⟩ := run_fates hwork hcalm hc runId' (hitems.perm hperm)
    (fun item hitem => hfates item (hperm.subset hitem)) hsame
  have htallies := Report.tallies_addAll runId (items.map (judged fates))
  have htallies' := Report.tallies_addAll runId' (items'.map (judged fates))
  have hcounts := countP_judged_perm hperm fates
  have hoptimized := htallies'.optimized.trans ((hcounts .optimized).trans htallies.optimized.symm)
  have herrored := htallies'.errored.trans ((hcounts .errored).trans htallies.errored.symm)
  refine ⟨fates, _, _, t, t', hrun, hrun', hfates, ?_, ?_, ?_, hoptimized, herrored, ?_,
    fun q => ?_, hends, hothers⟩
  · rw [htallies.items, map_reported_judged]
  · rw [htallies'.items, map_reported_judged]
  · rw [htallies'.processed, htallies.processed, hoptimized, herrored]
  · exact htallies'.skipped.trans ((hcounts .skipped).trans htallies.skipped.symm)
  · by_cases hled : ∃ item ∈ items, item.place? (disk.get s).cwd = some q
    · obtain ⟨item, hitem, hq⟩ := hled
      rw [hends item hitem q hq, hends' item (hperm.symm.subset hitem) q hq]
    · have hnot : ∀ item ∈ items, item.place? (disk.get s).cwd ≠ some q :=
        fun item hitem hq => hled ⟨item, hitem, hq⟩
      rw [hothers q hnot, hothers' q fun item hitem => hnot item (hperm.subset hitem)]

end

/-! ## Orders -/

/-- A client that echoes markup without an identifier, and refuses any other. -/
def picky (svg : String) (_ : Option RuleSet) : Except Raised Outcome :=
  if contains "id=".toList svg.toList then .error (.fault ⟨.badValue, "no identifiers"⟩)
  else .ok { success := true, markup := some svg }

theorem stateless_picky : Stateless (scripted picky) picky where
  submit _ _ _ := rfl
  raises svg config := by
    rw [picky]
    split <;> simp
  log := rfl
  uncancelled _ := rfl

/-- An icon that is optimized, one that is refused, and a file that is not there. -/
def mixedItems : List Item :=
  [fileItem ⟨"", ["a.tsx"]⟩, fileItem ⟨"", ["b.tsx"]⟩, fileItem ⟨"", ["c.tsx"]⟩]

def mixedDisk : Disk where
  nodes := [(["a.tsx"], .file "<svg></svg>".toUTF8),
    (["b.tsx"], .file "<svg id=\"x\"></svg>".toUTF8)]

theorem run_perm_mixed :
    WorksOn Part.whole (scripted picky) ∧ Calm Part.whole (scripted picky) ∧
    Stateless (scripted picky) picky ∧ Independent mixedDisk.cwd mixedItems ∧
    mixedItems.reverse.Perm mixedItems ∧
    ((run (scripted picky) none "first" mixedItems mixedDisk).1.toOption.map fun report =>
      (report.optimized, report.errored, report.skipped)) = some (1, 2, 0) ∧
    ∃ report report' t t',
      run (scripted picky) none "first" mixedItems mixedDisk = (.ok report, t) ∧
      run (scripted picky) none "second" mixedItems.reverse mixedDisk = (.ok report', t') ∧
      report'.items = report.items.reverse ∧
      report'.processed = report.processed ∧ report'.optimized = report.optimized ∧
      report'.errored = report.errored ∧ report'.skipped = report.skipped ∧
      ∀ q, t'.find? q = t.find? q := by
  have hitems : Independent mixedDisk.cwd mixedItems := by
    constructor
    · rw [mixedItems, List.forall_mem_cons, List.forall_mem_cons, List.forall_mem_singleton]
      exact ⟨⟨_, rfl, by decide⟩, ⟨_, rfl, by decide⟩, ⟨_, rfl, by decide⟩⟩
    · decide
  obtain ⟨fates, report, report', t, t', hrun, hrun', _, hfirst, hsecond, hprocessed, hoptimized,
    herrored, hskipped, hfind, _⟩ := run_perm (worksOn_scripted picky) (calm_scripted picky)
      stateless_picky none (s := mixedDisk) rfl hitems (List.reverse_perm _) "first" "second"
  refine ⟨worksOn_scripted _, calm_scripted _, stateless_picky, hitems, List.reverse_perm _,
    by decide +kernel, report, report', t, t', hrun, hrun', ?_, hprocessed, hoptimized, herrored,
    hskipped, hfind⟩
  rw [hfirst, hsecond, List.map_reverse]

/-- Two paths to one file. -/
def aliasItems : List Item :=
  [{ identifier := "a", path := some ⟨"", ["a.tsx"]⟩ },
    { identifier := "b", path := some ⟨"", ["b", "..", "a.tsx"]⟩ }]

/-- A file, and a path that the system cannot be asked for. -/
def nullItems : List Item :=
  [{ identifier := "a", path := some ⟨"", ["a.tsx"]⟩ },
    { identifier := "b", path := some ⟨"", ["b\x00"]⟩ }]

def aliasDisk : Disk where
  nodes := [(["a.tsx"], .file "<svg></svg>".toUTF8), (["b"], .directory)]

/-- With two paths to one file the item that comes second is optimized again, and a path that the
system cannot be asked for ends the run where its turn comes. -/
theorem run_perm_aliases :
    (∀ items ∈ [aliasItems, nullItems], ∃ a b p q, items = [a, b] ∧ a.path = some p ∧
      b.path = some q ∧ p ≠ q ∧ ¬ p.names <+: q.names ∧ ¬ q.names <+: p.names) ∧
    ((run echoing none "r" aliasItems aliasDisk).1.toOption.map fun report =>
      report.items.map fun i => (i.identifier, i.outcome.markup)) =
        some [("a", some "<svg>\n</svg>"), ("b", some "<svg> </svg>")] ∧
    ((run echoing none "r" aliasItems.reverse aliasDisk).1.toOption.map fun report =>
      report.items.map fun i => (i.identifier, i.outcome.markup)) =
        some [("b", some "<svg>\n</svg>"), ("a", some "<svg> </svg>")] ∧
    (run echoing none "r" nullItems aliasDisk).1.toOption.isNone ∧
    (run echoing none "r" nullItems aliasDisk).2.read ⟨"", ["a.tsx"]⟩ =
      .ok "<svg> </svg>".toUTF8 ∧
    (run echoing none "r" nullItems.reverse aliasDisk).2.read ⟨"", ["a.tsx"]⟩ =
      .ok "<svg></svg>".toUTF8 := by
  refine ⟨?_, by decide +kernel, by decide +kernel, by decide +kernel, by decide +kernel,
    by decide +kernel⟩
  rw [List.forall_mem_cons, List.forall_mem_singleton]
  exact ⟨⟨_, _, _, _, rfl, rfl, rfl, by decide, by decide, by decide⟩,
    ⟨_, _, _, _, rfl, rfl, rfl, by decide, by decide, by decide⟩⟩

end Batch
end SvgIcon
