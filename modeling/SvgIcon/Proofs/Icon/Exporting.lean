import Mathlib.Data.List.Induction
import SvgIcon.Proofs.File.Trees
import SvgIcon.Proofs.Icon.Barrel

/-!
Exporting icons, call after call.  The index file of a directory is the barrel of what has been asked of
that directory, each icon where it was asked for first; it is the same file by whichever path the
directory is named, as long as the path can be followed to it.
-/

namespace SvgIcon
namespace Icon

variable {d d' : Disk} {q : Place} {directory p : Path} {e : Export} {es : List Export}

/-! ## A call -/

theorem run_orFail {α : Type} (describe : String → String) (act : Disk.Action α) (d : Disk) :
    (Disk.orFail describe act).run d = ((act.run d).1.mapError fun f =>
      if f.kind.isSystem then .failure (.persistence (describe f.text)) else .fault f,
      (act.run d).2) := rfl

theorem of_run_orFail {α : Type} {describe : String → String} {act : Disk.Action α} {a : α}
    (h : (Disk.orFail describe act).run d = (.ok a, d')) : act.run d = (.ok a, d') := by
  rw [run_orFail] at h
  rcases hact : act.run d with ⟨f | a, d₁⟩ <;> rw [hact] at h
  · exact absurd (Prod.mk.inj h).1 (by simp [Except.mapError])
  · obtain ⟨ha, rfl⟩ := Prod.mk.inj h
    obtain rfl := Except.ok.inj ha
    rfl

/-- What is read at an index is its text, or nothing if no file can be reached. -/
theorem readIndex_exits {text : String} (h : (readIndex p).run d = (.ok text, d')) :
    d' = d ∧ (d.readText p = .ok text ∨ text = "" ∧ ∀ bytes, d.read p ≠ .ok bytes) := by
  rw [readIndex, run_bind_of_ok (Disk.run_getThe d)] at h
  cases hexists : d.exists? p with
  | error f =>
    rw [hexists] at h
    exact absurd (Prod.mk.inj h).1 (by simp)
  | ok there =>
    rw [hexists] at h
    cases there with
    | false =>
      obtain ⟨htext, rfl⟩ := Prod.mk.inj h
      refine ⟨rfl, .inr ⟨(Except.ok.inj htext).symm, fun bytes hread => ?_⟩⟩
      obtain ⟨place, hplace, hfile⟩ := Disk.read_eq_ok_iff.1 hread
      simp [Disk.exists?, Disk.look, Disk.node, hplace, hfile, bind, Except.bind, Except.map] at hexists
    | true =>
      obtain ⟨htext, rfl⟩ := Prod.mk.inj h
      exact ⟨rfl, .inl htext⟩

/-- A call that succeeds has read the index, and has written it if the icon was not in it. -/
theorem exportFrom_exits {name iconType : String} {added : Bool}
    (h : (exportFrom directory name iconType).run d = (.ok added, d')) :
    ∃ index, (readIndex (directory.child indexFile)).run d = (.ok index, d) ∧
      match addExport? index.toList name.toList iconType.toList with
      | none => added = false ∧ d' = d
      | some updated => added = true ∧
        (Disk.writeText (directory.child indexFile) (String.ofList updated) .utf8).run d = (.ok (), d') := by
  obtain ⟨index, d₁, hindex, hrest⟩ := exists_of_run_bind h
  have hread := of_run_orFail hindex
  obtain rfl := (readIndex_exits hread).1
  refine ⟨index, hread, ?_⟩
  cases hadd : addExport? index.toList name.toList iconType.toList with
  | none =>
    simp only [hadd] at hrest ⊢
    obtain ⟨hadded, rfl⟩ := Prod.mk.inj hrest
    exact ⟨(Except.ok.inj hadded).symm, rfl⟩
  | some updated =>
    simp only [hadd] at hrest ⊢
    obtain ⟨_, d₂, hsave, hlast⟩ := exists_of_run_bind hrest
    obtain ⟨hadded, rfl⟩ := Prod.mk.inj hlast
    exact ⟨(Except.ok.inj hadded).symm, of_run_orFail hsave⟩

/-! ## What a directory exports -/

/-- The index file of a directory exports some icons; it is not there if they are none. -/
def Exports (d : Disk) (q : Place) (es : List Export) : Prop :=
  ∀ bytes, d.find? (q ++ [indexFile]) = some (.file bytes) ↔
    es ≠ [] ∧ bytes = (String.ofList (barrel es)).toUTF8

/-- The disk behind a call: in one place the index with the icon added, and no other file changed. -/
structure Exported (d : Disk) (q : Place) (e : Export) (es : List Export) (added : Bool) (d' : Disk) :
    Prop where
  added : added = decide (e ∉ es)
  tree : d'.Tree
  cwd : d'.cwd = d.cwd
  exports : Exports d' q (if e ∈ es then es else es ++ [e])
  others : ∀ r, r ≠ q ++ [indexFile] → ∀ bytes,
    d'.find? r = some (.file bytes) ↔ d.find? r = some (.file bytes)

theorem readText_barrel (hes : ∀ e ∈ es, e.WellNamed)
    (hread : d.read p = .ok (String.ofList (barrel es)).toUTF8) :
    d.readText p = .ok (String.ofList (barrel es)) :=
  Disk.readText_of_read hread (by rw [String.toList_ofList]; exact noReturn_barrel hes)

/-- An index that has been written with one icon more. -/
theorem exported_of_writeText (htree : d.Tree) (hmem : e ∉ es)
    (hplace : p.place d.cwd = q ++ [indexFile])
    (hrun : (Disk.writeText p (String.ofList (barrel (es ++ [e]))) .utf8).run d = (.ok (), d')) :
    Exported d q e es true d' := by
  obtain ⟨d₁, hspread, htrees, hlocate, hnot, rfl⟩ := Disk.exists_of_writeText_run hrun
  rw [hplace] at hlocate hnot ⊢
  have htree₁ := htrees htree
  obtain ⟨above, name, hname, habove⟩ := htree₁.exists_of_locate hlocate hnot
  obtain ⟨rfl, hlast⟩ := List.append_inj' hname rfl
  obtain rfl : indexFile = name := List.singleton_inj.1 hlast
  refine ⟨by simp [hmem], htree₁.put habove hnot, hspread.cwd, ?_, ?_⟩
  · intro bytes
    rw [if_neg hmem, Disk.find?_put_self _ (by simp)]
    constructor
    · rintro ⟨⟩
      exact ⟨by simp, rfl⟩
    · rintro ⟨_, rfl⟩
      rfl
  · intro r hr bytes
    rw [Disk.find?_put_of_ne _ hr]
    rcases hspread.find? r with hsame | ⟨hnone, hmade⟩
    · rw [hsame]
    · simp [hnone, hmade]

/-- A call in a directory whose index is a barrel adds the icon to the barrel unless it is there. -/
theorem exported_of_run {added : Bool} (htree : d.Tree) (hwalk : d.Walkable directory)
    (hes : ∀ e ∈ es, e.WellNamed) (he : e.WellNamed)
    (hexports : Exports d (directory.place d.cwd) es)
    (hrun : (exportFrom directory e.name e.iconType).run d = (.ok added, d')) :
    Exported d (directory.place d.cwd) e es added d' := by
  have hplace : (directory.child indexFile).place d.cwd = directory.place d.cwd ++ [indexFile] :=
    Path.place_child (by decide) _
  obtain ⟨index, hindex, hexit⟩ := exportFrom_exits hrun
  rcases (readIndex_exits hindex).2 with htext | ⟨rfl, hnone⟩
  · obtain ⟨⟨bytes, hread⟩, _⟩ := Disk.read_of_readText htext
    obtain ⟨place, hlocate, hfile⟩ := Disk.read_eq_ok_iff.1 hread
    obtain rfl := Disk.locate_spelled hlocate
    rw [hplace] at hfile
    obtain ⟨_, rfl⟩ := (hexports bytes).1 hfile
    obtain rfl := Except.ok.inj ((readText_barrel hes hread).symm.trans htext)
    rw [String.toList_ofList, addExport?_barrel hes he] at hexit
    by_cases hmem : e ∈ es
    · rw [if_pos hmem] at hexit
      obtain ⟨rfl, rfl⟩ := hexit
      exact ⟨by simp [hmem], htree, rfl, by rwa [if_pos hmem], fun _ _ _ => .rfl⟩
    · rw [if_neg hmem] at hexit
      obtain ⟨rfl, hwrite⟩ := hexit
      exact exported_of_writeText htree hmem hplace hwrite
  · have hempty : addExport? "".toList e.name.toList e.iconType.toList = some (barrel ([] ++ [e])) :=
      addExport?_barrel (List.forall_mem_nil Export.WellNamed) he
    rw [hempty] at hexit
    obtain ⟨rfl, hwrite⟩ := hexit
    -- an index that was there would have been reached
    obtain rfl : es = [] := Decidable.byContradiction fun hne => by
      obtain ⟨d₁, hspread, _, hlocate, _⟩ := Disk.exists_of_writeText_run hwrite
      rw [hplace] at hlocate
      have hfile := (hexports _).2 ⟨hne, rfl⟩
      have hback := hspread.locate_back htree (hwalk.child (by decide)) hlocate (by simp [hfile])
      exact hnone _ (Disk.read_eq_ok_iff.2 ⟨_, hback, hfile⟩)
    exact exported_of_writeText htree (by simp) hplace hwrite

/-! ## Calls in a row -/

/-- A call: an icon that is to be exported from a directory. -/
structure Request where
  directory : Path
  icon : Export
  deriving DecidableEq, Repr

def Request.place (r : Request) (cwd : Place) : Place := r.directory.place cwd

/-- Export icons one after the other, up to the first call that fails. -/
def exportAll (rs : List Request) : ExceptT Raised (StateM Disk) (List Bool) :=
  rs.mapM fun r => exportFrom r.directory r.icon.name r.icon.iconType

/-- The icons that are asked of a directory, in the order of the calls. -/
def asked (cwd q : Place) (rs : List Request) : List Export :=
  (rs.filter (·.place cwd = q)).map Request.icon

/-- Which calls are the first ones for their icon in their directory. -/
def firsts (cwd : Place) (rs : List Request) : List Bool :=
  rs.mapIdx fun i r => r.icon ∉ asked cwd (r.place cwd) (rs.take i)

section
variable {r : Request} {rs done : List Request} {cwd : Place}

/-- Calls in a row succeed if those in front do, and then those behind. -/
theorem exists_of_exportAll_append {rs' : List Request} {answers : List Bool}
    (h : (exportAll (rs ++ rs')).run d = (.ok answers, d')) : ∃ front back d₁,
      (exportAll rs).run d = (.ok front, d₁) ∧ (exportAll rs').run d₁ = (.ok back, d') ∧
        answers = front ++ back := by
  rw [exportAll, List.mapM_append] at h
  obtain ⟨front, d₁, hfront, hrest⟩ := exists_of_run_bind h
  obtain ⟨back, d₂, hback, hlast⟩ := exists_of_run_bind hrest
  obtain ⟨hanswers, rfl⟩ := Prod.mk.inj hlast
  exact ⟨front, back, d₁, hfront, hback, (Except.ok.inj hanswers).symm⟩

theorem exists_of_exportAll_singleton {answers : List Bool}
    (h : (exportAll [r]).run d = (.ok answers, d')) : ∃ added, answers = [added] ∧
      (exportFrom r.directory r.icon.name r.icon.iconType).run d = (.ok added, d') := by
  rw [exportAll, List.mapM_cons] at h
  obtain ⟨added, d₁, hcall, hrest⟩ := exists_of_run_bind h
  obtain ⟨hanswers, rfl⟩ := Prod.mk.inj hrest
  exact ⟨added, (Except.ok.inj hanswers).symm, hcall⟩

theorem asked_concat (cwd q : Place) (rs : List Request) (r : Request) : asked cwd q (rs ++ [r]) =
    asked cwd q rs ++ if r.place cwd = q then [r.icon] else [] := by
  by_cases h : r.place cwd = q <;> simp [asked, List.filter_append, h]

theorem eraseDups_concat (es : List Export) (e : Export) : (es ++ [e]).eraseDups =
    if e ∈ es.eraseDups then es.eraseDups else es.eraseDups ++ [e] := by
  rw [List.eraseDups_append]
  by_cases h : e ∈ es <;> simp [List.removeAll, List.eraseDups_cons, List.mem_eraseDups, h]

theorem firsts_concat (cwd : Place) (rs : List Request) (r : Request) : firsts cwd (rs ++ [r]) =
    firsts cwd rs ++ [decide (r.icon ∉ asked cwd (r.place cwd) rs)] := by
  have hearlier : (rs.mapIdx fun i r' => decide (r'.icon ∉
      asked cwd (r'.place cwd) ((rs ++ [r]).take i))) = firsts cwd rs := by
    refine List.ext_getElem (by simp [firsts]) fun i hi _ => ?_
    have hi : i ≤ rs.length := by simp at hi; omega
    simp [firsts, List.take_append_of_le_length hi]
  rw [firsts, List.mapIdx_concat, hearlier, List.take_left' rfl]

/-- Behind some of the calls: every directory's index is the barrel of what was asked of it. -/
structure Kept (d : Disk) (rs done : List Request) (d' : Disk) : Prop where
  tree : d'.Tree
  cwd : d'.cwd = d.cwd
  exports : ∀ r ∈ rs, Exports d' (r.place d.cwd) (asked d.cwd (r.place d.cwd) done).eraseDups

theorem Kept.step {d₁ : Disk} {added : Bool} (h : Kept d rs done d₁)
    (hexported : Exported d₁ (r.place d.cwd) r.icon (asked d.cwd (r.place d.cwd) done).eraseDups
      added d') : Kept d rs (done ++ [r]) d' := by
  refine ⟨hexported.tree, hexported.cwd.trans h.cwd, fun r' hr' => ?_⟩
  rw [asked_concat]
  by_cases hsame : r.place d.cwd = r'.place d.cwd
  · rw [if_pos hsame, eraseDups_concat, ← hsame]
    exact hexported.exports
  · rw [if_neg hsame, List.append_nil]
    intro bytes
    rw [hexported.others _ (fun heq => hsame (List.append_inj' heq rfl).1.symm)]
    exact h.exports r' hr' bytes

theorem exports_nil (h : d.find? (q ++ [indexFile]) = none) : Exports d q [] := by
  simp [Exports, h]

theorem wellNamed_asked (hnamed : ∀ r ∈ rs, r.icon.WellNamed) (hdone : done <+: rs) (cwd q : Place) :
    ∀ e ∈ (asked cwd q done).eraseDups, e.WellNamed := by
  intro e he
  obtain ⟨r, hr, rfl⟩ := List.mem_map.1 (List.mem_eraseDups.1 he)
  exact hnamed r (hdone.subset (List.mem_filter.1 hr).1)

/-- Every call of a run that succeeds answers whether it is the first one for its icon, and leaves the
indexes as they should be. -/
theorem run_exportAll {answers : List Bool} (htree : d.Tree) (hnamed : ∀ r ∈ rs, r.icon.WellNamed)
    (hnone : ∀ r ∈ rs, d.find? (r.place d.cwd ++ [indexFile]) = none)
    (hwalk : ∀ i (hi : i < rs.length), ((exportAll (rs.take i)).run d).2.Walkable rs[i].directory)
    (hok : ((exportAll rs).run d).1 = .ok answers) (hdone : done <+: rs) :
    ((exportAll done).run d).1 = .ok (firsts d.cwd done) ∧
      Kept d rs done ((exportAll done).run d).2 := by
  induction done using List.reverseRecOn with
  | nil => exact ⟨rfl, htree, rfl, fun r hr => exports_nil (hnone r hr)⟩
  | append_singleton done r ih =>
    have hbefore : done <+: rs := (List.prefix_append done [r]).trans hdone
    obtain ⟨hfirsts, hkept⟩ := ih hbefore
    obtain ⟨after, hrs⟩ := hdone
    have hr : r ∈ rs := by simp [← hrs]
    have hthere : ((exportAll done).run d).2.Walkable r.directory := by
      have hat := hwalk done.length (by simp [← hrs])
      simpa [← hrs] using hat
    -- the call succeeds, as the whole run does
    have hrun : (exportAll (done ++ [r] ++ after)).run d = (.ok answers, ((exportAll rs).run d).2) := by
      rw [hrs]
      exact Prod.ext hok rfl
    obtain ⟨_, _, d₂, hcalls, _⟩ := exists_of_exportAll_append hrun
    obtain ⟨front, back, d₁, hfront, hlast, rfl⟩ := exists_of_exportAll_append hcalls
    obtain ⟨added, rfl, hcall⟩ := exists_of_exportAll_singleton hlast
    rw [hfront] at hfirsts hkept hthere
    obtain rfl := Except.ok.inj hfirsts
    have hexports := hkept.exports r hr
    have hexported := exported_of_run hkept.tree hthere (wellNamed_asked hnamed hbefore d.cwd _)
      (hnamed r hr) (by rw [hkept.cwd]; exact hexports) hcall
    rw [hkept.cwd] at hexported
    rw [hcalls]
    refine ⟨?_, hkept.step hexported⟩
    rw [firsts_concat, hexported.added]
    simp only [List.mem_eraseDups]

/-- After each of the calls of a run that succeeds, the index file of a directory is the import and the
lines of the icons asked of that directory, once each and in the order in which they were first asked
for.  The answer of a call is whether it is the first one for its icon in its directory. -/
theorem exportAll_barrels {answers : List Bool} (htree : d.Tree)
    (hnamed : ∀ r ∈ rs, r.icon.WellNamed)
    (hnone : ∀ r ∈ rs, d.find? (r.place d.cwd ++ [indexFile]) = none)
    (hwalk : ∀ i (hi : i < rs.length), ((exportAll (rs.take i)).run d).2.Walkable rs[i].directory)
    (hok : ((exportAll rs).run d).1 = .ok answers) (hdone : done <+: rs) :
    ((exportAll done).run d).1 = .ok (firsts d.cwd done) ∧
    (∀ r ∈ done, ((exportAll done).run d).2.find? (r.place d.cwd ++ [indexFile]) =
      some (.file (String.ofList (importLine ++
        (asked d.cwd (r.place d.cwd) done).eraseDups.flatMap Export.line)).toUTF8)) ∧
    ∀ r ∈ rs, (∀ r' ∈ done, r'.place d.cwd ≠ r.place d.cwd) →
      ∀ bytes, ((exportAll done).run d).2.find? (r.place d.cwd ++ [indexFile]) ≠ some (.file bytes) := by
  obtain ⟨hfirsts, hkept⟩ := run_exportAll htree hnamed hnone hwalk hok hdone
  refine ⟨hfirsts, fun r hr => ?_, fun r hr hother bytes hfile => ?_⟩
  · have hmem : r.icon ∈ (asked d.cwd (r.place d.cwd) done).eraseDups :=
      List.mem_eraseDups.2 (List.mem_map_of_mem (List.mem_filter.2 ⟨hr, by simp⟩))
    have hne := List.ne_nil_of_mem hmem
    rw [(hkept.exports r (hdone.subset hr) _).2 ⟨hne, rfl⟩, barrel_eq hne, List.flatten_cons,
      List.flatMap_def]
  · have hnothing : asked d.cwd (r.place d.cwd) done = [] := by
      simpa [asked] using hother
    have hheld := (hkept.exports r hr bytes).1 hfile
    simp [hnothing] at hheld

end

/-- A disk with a directory. -/
def iconDisk : Disk := { nodes := [(["b"], .directory)] }

/-- An icon that is asked for again, by another path to the directory. -/
def iconRequests : List Request :=
  [⟨⟨"", ["a"]⟩, ⟨"A", "T"⟩⟩, ⟨⟨"", ["b", "..", "a"]⟩, ⟨"A", "T"⟩⟩]

theorem exportAll_barrels_iconRequests :
    iconDisk.Tree ∧ (∀ r ∈ iconRequests, r.icon.WellNamed) ∧
    (∀ r ∈ iconRequests, iconDisk.find? (r.place iconDisk.cwd ++ [indexFile]) = none) ∧
    (∀ i (hi : i < iconRequests.length),
      ((exportAll (iconRequests.take i)).run iconDisk).2.Walkable iconRequests[i].directory) ∧
    ((exportAll iconRequests).run iconDisk).1 = .ok [true, false] ∧
    ((exportAll iconRequests).run iconDisk).2.find? ["a", indexFile] =
      some (.file (String.ofList (importLine ++ [⟨"A", "T"⟩].flatMap Export.line)).toUTF8) := by
  have htree : iconDisk.Tree := Disk.tree_of_nodes rfl (by simp [iconDisk, Disk.find?])
  have hnamed : ∀ r ∈ iconRequests, r.icon.WellNamed := by decide +kernel
  have hnone : ∀ r ∈ iconRequests, iconDisk.find? (r.place iconDisk.cwd ++ [indexFile]) = none := by
    decide +kernel
  have hwalk : ∀ i (hi : i < iconRequests.length),
      ((exportAll (iconRequests.take i)).run iconDisk).2.Walkable iconRequests[i].directory := by
    decide +kernel
  have hsome : ((exportAll iconRequests).run iconDisk).1.toOption = some [true, false] := by
    decide +kernel
  have hok : ((exportAll iconRequests).run iconDisk).1 = .ok [true, false] := by
    generalize ((exportAll iconRequests).run iconDisk).1 = answer at hsome
    cases answer with
    | error e => exact absurd hsome (by simp [Except.toOption])
    | ok answers => exact congrArg _ (Option.some.inj hsome)
  have hplace : (⟨"", ["a"]⟩ : Path).place iconDisk.cwd = ["a"] := by decide +kernel
  have hasked : (asked iconDisk.cwd ["a"] iconRequests).eraseDups = [⟨"A", "T"⟩] := by
    decide +kernel
  obtain ⟨_, hindexes, _⟩ := exportAll_barrels htree hnamed hnone hwalk hok List.prefix_rfl
  have hindex := hindexes ⟨⟨"", ["a"]⟩, ⟨"A", "T"⟩⟩ List.mem_cons_self
  rw [Request.place, hplace, hasked] at hindex
  exact ⟨htree, hnamed, hnone, hwalk, hok, hindex⟩

/-- A path that goes through a directory which is not there yet does not reach the index that is there,
and the index is written over.  A directory in the place of an index is not an index that can be read. -/
theorem exportAll_astray :
    let around : List Request :=
      [⟨⟨"", ["a"]⟩, ⟨"A", "T"⟩⟩, ⟨⟨"", ["b", "..", "a"]⟩, ⟨"B", "T"⟩⟩]
    let beneath : List Request := [⟨⟨"", ["a", "index.ts"]⟩, ⟨"A", "T"⟩⟩, ⟨⟨"", ["a"]⟩, ⟨"B", "T"⟩⟩]
    (∀ r ∈ around ++ beneath, r.icon.WellNamed ∧ ({} : Disk).find? (r.place [] ++ [indexFile]) = none) ∧
    ((exportAll around).run {}).1.toOption = some [true, true] ∧
    asked [] ["a"] around = [⟨"A", "T"⟩, ⟨"B", "T"⟩] ∧
    ((exportAll around).run {}).2.bytesAt ["a", indexFile] =
      (String.ofList (barrel [⟨"B", "T"⟩])).toUTF8 ∧
    ((exportAll around).run {}).2.bytesAt ["a", indexFile] ≠
      (String.ofList (barrel [⟨"A", "T"⟩, ⟨"B", "T"⟩])).toUTF8 ∧
    (match ((exportAll beneath).run {}).1 with
      | .ok _ => ""
      | .error e => e.text) = "Failed to read a/index.ts: [Errno 21] Is a directory: 'a/index.ts'" := by
  decide +kernel

end Icon
end SvgIcon
