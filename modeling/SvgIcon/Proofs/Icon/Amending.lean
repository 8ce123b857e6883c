import SvgIcon.Proofs.Icon.Exporting

/-!
Index files that someone else has written or edited.  What is there stays, line by line, and an export
is added as a line of its own.  Whether it is there already is asked of the text, and the text answers
for the ends of the lines that a line feed ends: an export that is the end of a longer line counts, and
one on a last line without a line feed does not.
-/

namespace SvgIcon
namespace Icon

open Text

variable {e : Export} {s s' : List Char} {d d' : Disk} {directory p : Path} {index : String}

/-! ## Ending a text -/

theorem endLine_of_not_feed (hne : s ≠ []) (h : s.getLast? ≠ some '\n') :
    endLine s = s ++ ['\n'] := by
  simp [endLine, hne, h]

theorem endLine_feed (s : List Char) : endLine (s ++ ['\n']) = s ++ ['\n'] := by
  simp [endLine]

/-- Once a text is ended, its lines stay what they were, whatever follows. -/
theorem lines_endLine_append (s t : List Char) : lines (endLine s ++ t) = lines s ++ lines t := by
  by_cases hne : s = []
  · subst hne
    rfl
  by_cases hfeed : s.getLast? = some '\n'
  · obtain ⟨a, rfl⟩ := List.getLast?_eq_some_iff.1 hfeed
    have hnone : lines [] = [] := rfl
    rw [endLine_feed, List.append_assoc, List.singleton_append, lines_feed, lines_feed, hnone,
      List.append_nil]
  · rw [endLine_of_not_feed hne hfeed, List.append_assoc, List.singleton_append, lines_feed,
      lines_of_getLast?_ne hne hfeed]

/-- In a text that is ended, every line is. -/
theorem endedLines_endLine (s : List Char) : endedLines (endLine s) = lines s := by
  have hnone : endedLines [] = [] := rfl
  by_cases hne : s = []
  · subst hne
    rfl
  by_cases hfeed : s.getLast? = some '\n'
  · obtain ⟨a, rfl⟩ := List.getLast?_eq_some_iff.1 hfeed
    have hlines : lines [] = [] := rfl
    rw [endLine_feed, endedLines_feed, lines_feed, hnone, hlines]
  · rw [endLine_of_not_feed hne hfeed, endedLines_feed, hnone, List.append_nil,
      lines_of_getLast?_ne hne hfeed]

/-! ## Adding an export to a text -/

theorem addExport?_eq (s : List Char) (e : Export) :
    addExport? s e.name.toList e.iconType.toList =
      if contains e.line s then none else some (withImport (endLine s) ++ e.line) := rfl

theorem contains_line_of_addExport? (h : addExport? s e.name.toList e.iconType.toList = some s') :
    contains e.line s' = true := by
  rw [addExport?_eq] at h
  split at h
  · exact absurd h (by simp)
  obtain rfl := Option.some.inj h
  have hthere := contains_append e.line (withImport (endLine s)) []
  rwa [List.append_nil] at hthere

/-- Where an export is added, the import is. -/
theorem contains_importLine_addExport?
    (h : addExport? s e.name.toList e.iconType.toList = some s') : contains importLine s' = true := by
  rw [addExport?_eq] at h
  split at h
  · exact absurd h (by simp)
  obtain rfl := Option.some.inj h
  rw [withImport]
  split
  · rename_i hthere
    exact contains_iff.2 ((contains_iff.1 hthere).trans (List.prefix_append _ _).isInfix)
  · exact contains_append importLine (endLine s) e.line

theorem contains_importLine_iff (s : List Char) :
    contains importLine (endLine s) = true ↔ ∃ l ∈ lines s, importBody <:+ l := by
  rw [importLine_eq, contains_line_iff noBreak_importBody.1, endedLines_endLine]

/-- An export comes behind the lines that are there, with the import in front of it unless a line ends
as the import does. -/
theorem lines_addExport? (he : e.WellNamed)
    (h : addExport? s e.name.toList e.iconType.toList = some s') :
    lines s' = lines s ++
      ((if ∃ l ∈ lines s, importBody <:+ l then [] else [importBody]) ++ [e.body]) := by
  rw [addExport?_eq] at h
  split at h
  · exact absurd h (by simp)
  obtain rfl := Option.some.inj h
  have hbody : lines e.line = [e.body] := by
    rw [e.line_eq, lines_append (Export.noBreak_body he)]
    rfl
  rw [withImport]
  by_cases hthere : contains importLine (endLine s) = true
  · rw [if_pos hthere, if_pos ((contains_importLine_iff s).1 hthere), lines_endLine_append, hbody,
      List.nil_append]
  · have himport : lines (importLine ++ e.line) = [importBody, e.body] := by
      rw [importLine_eq, List.append_assoc, List.singleton_append,
        lines_append noBreak_importBody.1, hbody]
    rw [if_neg hthere, if_neg (mt (contains_importLine_iff s).2 hthere), List.append_assoc,
      lines_endLine_append, himport, List.singleton_append]

theorem noReturn_addExport? (hs : '\r' ∉ s) (hline : '\r' ∉ e.line)
    (h : addExport? s e.name.toList e.iconType.toList = some s') : '\r' ∉ s' := by
  rw [addExport?_eq] at h
  split at h
  · exact absurd h (by simp)
  obtain rfl := Option.some.inj h
  have hend : '\r' ∉ endLine s := by
    rw [endLine]
    split <;> simp [hs]
  have himport : '\r' ∉ importLine := by decide
  rw [withImport]
  split <;> simp [hend, himport, hline]

/-! ## Adding an export to a file -/

/-- What is read at an index that is a file is its text, if it has one. -/
theorem run_readIndex {bytes : ByteArray} (hread : d.read p = .ok bytes) :
    (readIndex p).run d = (d.readText p, d) := by
  obtain ⟨place, hplace, hfile⟩ := Disk.read_eq_ok_iff.1 hread
  have hthere : d.exists? p = .ok true := by
    simp [Disk.exists?, Disk.look, Disk.node, hplace, hfile, bind, Except.bind, Except.map]
  rw [readIndex, run_bind_of_ok (Disk.run_getThe d), hthere]
  rfl

theorem run_orFail_of_ok {α : Type} {describe : String → String} {act : Disk.Action α} {a : α}
    (h : act.run d = (.ok a, d')) : (Disk.orFail describe act).run d = (.ok a, d') := by
  rw [run_orFail, h]
  rfl

/-- An index that can be read is written over unless it exports the icon, and nothing fails. -/
theorem exportFrom_eq (h : d.readText (directory.child indexFile) = .ok index) (e : Export) :
    (exportFrom directory e.name e.iconType).run d =
      match addExport? index.toList e.name.toList e.iconType.toList with
      | none => (.ok false, d)
      | some updated => (.ok true, d.put ((directory.child indexFile).place d.cwd)
          (.file (String.ofList updated).toUTF8)) := by
  obtain ⟨⟨bytes, hread⟩, _⟩ := Disk.read_of_readText h
  obtain ⟨place, hplace, hfile⟩ := Disk.read_eq_ok_iff.1 hread
  have hname : (directory.child indexFile).EndsInName := by
    have hlast : (directory.child indexFile).name = indexFile := by simp [Path.child, Path.name]
    rw [Path.EndsInName, hlast]
    decide
  have hindex := run_readIndex hread
  rw [h] at hindex
  rw [exportFrom]
  refine (run_bind_of_ok (run_orFail_of_ok hindex)).trans ?_
  cases addExport? index.toList e.name.toList e.iconType.toList with
  | none => rfl
  | some updated =>
    rw [← Disk.locate_spelled hplace]
    exact run_bind_of_ok (run_orFail_of_ok (Disk.writeText_eq hname hplace hfile _))

/-- A call that has succeeded changes nothing when it is made again. -/
theorem exportFrom_again {added : Bool} (hline : '\r' ∉ e.line)
    (h : (exportFrom directory e.name e.iconType).run d = (.ok added, d')) :
    (exportFrom directory e.name e.iconType).run d' = (.ok false, d') := by
  obtain ⟨index, hindex, hexit⟩ := exportFrom_exits h
  cases hadd : addExport? index.toList e.name.toList e.iconType.toList with
  | none =>
    rw [hadd] at hexit
    obtain ⟨rfl, rfl⟩ := hexit
    exact h
  | some updated =>
    rw [hadd] at hexit
    obtain ⟨d₁, hspread, _, hplace, hnot, rfl⟩ := Disk.exists_of_writeText_run hexit.2
    have hindex : '\r' ∉ index.toList := by
      rcases (readIndex_exits hindex).2 with htext | ⟨rfl, _⟩
      · exact (Disk.read_of_readText htext).2
      · exact List.not_mem_nil
    have htext := Disk.readText_of_read (Disk.read_put hplace hnot)
      (by rw [String.toList_ofList]; exact noReturn_addExport? hindex hline hadd)
    rw [exportFrom_eq htext, addExport?_eq, String.toList_ofList,
      if_pos (contains_line_of_addExport? hadd)]

/-! ## What becomes of an index -/

theorem contains_export_iff (he : e.WellNamed) (s : List Char) :
    contains e.line s = true ↔ ∃ l ∈ endedLines s, e.body <:+ l := by
  rw [e.line_eq, contains_line_iff (Export.noBreak_body he)]

theorem addExport?_eq_none_iff (he : e.WellNamed) :
    addExport? s e.name.toList e.iconType.toList = none ↔ ∃ l ∈ endedLines s, e.body <:+ l := by
  rw [addExport?_eq, ← contains_export_iff he]
  simp

theorem Export.body_ne_importBody (he : e.WellNamed) : e.body ≠ importBody := fun heq =>
  Export.not_body_suffix_importBody he (heq ▸ List.suffix_rfl)

theorem count_addExport? (he : e.WellNamed)
    (h : addExport? s e.name.toList e.iconType.toList = some s') :
    (lines s').count e.body = (lines s).count e.body + 1 := by
  have hother : importBody ≠ e.body := (Export.body_ne_importBody he).symm
  rw [lines_addExport? he h, List.count_append]
  split <;> simp [hother]

theorem importBody_mem_addExport? (he : e.WellNamed)
    (h : addExport? s e.name.toList e.iconType.toList = some s') :
    importBody ∈ lines s' ↔ ((∃ l ∈ lines s, importBody <:+ l) → importBody ∈ lines s) := by
  have hother : importBody ≠ e.body := (Export.body_ne_importBody he).symm
  rw [lines_addExport? he h]
  by_cases hthere : ∃ l ∈ lines s, importBody <:+ l
  · simp only [hthere, if_true, List.nil_append, List.mem_append, List.mem_singleton, hother, or_false,
      true_imp_iff]
  · simp only [hthere, if_false, List.singleton_append, List.mem_append, List.mem_cons, true_or, or_true,
      false_imp_iff]

theorem exists_of_addExport?_some {updated : List Char} (hline : '\r' ∉ e.line)
    (hindex : d.readText (directory.child indexFile) = .ok index)
    (hadd : addExport? index.toList e.name.toList e.iconType.toList = some updated) :
    ∃ d', (exportFrom directory e.name e.iconType).run d = (.ok true, d') ∧
      d'.readText (directory.child indexFile) = .ok (String.ofList updated) := by
  obtain ⟨⟨bytes, hread⟩, hreturn⟩ := Disk.read_of_readText hindex
  obtain ⟨place, hplace, hfile⟩ := Disk.read_eq_ok_iff.1 hread
  have hback : '\r' ∉ (String.ofList updated).toList := by
    rw [String.toList_ofList]
    exact noReturn_addExport? hreturn hline hadd
  have htext := Disk.readText_of_read (Disk.read_put hplace (by rw [hfile]; simp)) hback
  rw [Disk.locate_spelled hplace] at htext
  have hrun := exportFrom_eq hindex e
  rw [hadd] at hrun
  exact ⟨_, hrun, htext⟩

/-- A call on an index that can be read succeeds and keeps the lines that are there; if it adds a line
the import is in the text, and made again it changes nothing.  An export that stands on one line at the
most then stands on exactly one, unless the text tells something else than the lines: the end of a
longer line is taken for the export, or the export stands on a last line without a line feed.  It is
the same with the import. -/
theorem exportFrom_lines (he : e.WellNamed)
    (hindex : d.readText (directory.child indexFile) = .ok index) :
    ∃ added d' index', (exportFrom directory e.name e.iconType).run d = (.ok added, d') ∧
      d'.readText (directory.child indexFile) = .ok index' ∧
      lines index.toList <+: lines index'.toList ∧
      (added = true → contains importLine index'.toList = true) ∧
      (exportFrom directory e.name e.iconType).run d' = (.ok false, d') ∧
      ((lines index.toList).count e.body ≤ 1 →
        ((lines index'.toList).count e.body = 1 ↔
          ((∃ l ∈ endedLines index.toList, e.body <:+ l) ↔ e.body ∈ lines index.toList))) ∧
      (added = true → (importBody ∈ lines index'.toList ↔
        ((∃ l ∈ lines index.toList, importBody <:+ l) → importBody ∈ lines index.toList))) := by
  cases hadd : addExport? index.toList e.name.toList e.iconType.toList with
  | none =>
    have hrun := exportFrom_eq hindex e
    rw [hadd] at hrun
    refine ⟨false, d, index, hrun, hindex, List.prefix_rfl, by simp, hrun, fun hfew => ?_, by simp⟩
    have hpos := List.count_pos_iff (a := e.body) (l := lines index.toList)
    rw [iff_true_left ((addExport?_eq_none_iff he).1 hadd), ← hpos]
    omega
  | some updated =>
    obtain ⟨d', hrun, htext⟩ := exists_of_addExport?_some he.noReturn hindex hadd
    have hnot : ¬ ∃ l ∈ endedLines index.toList, e.body <:+ l := fun hthere => by
      simp [(addExport?_eq_none_iff he).2 hthere] at hadd
    refine ⟨true, d', String.ofList updated, hrun, htext, ?_, ?_,
      exportFrom_again he.noReturn hrun, ?_, ?_⟩
    · rw [String.toList_ofList, lines_addExport? he hadd]
      exact List.prefix_append _ _
    · rw [String.toList_ofList]
      exact fun _ => contains_importLine_addExport? hadd
    · rw [String.toList_ofList, count_addExport? he hadd, iff_false_left hnot, ← List.count_pos_iff]
      omega
    · rw [String.toList_ofList]
      exact fun _ => importBody_mem_addExport? he hadd

/-- A disk with an index file in a directory. -/
def indexDisk (index : String) : Disk :=
  { nodes := [(["a", indexFile], .file index.toUTF8), (["a"], .directory)] }

theorem readText_indexDisk {index : String} (h : '\r' ∉ index.toList) :
    (indexDisk index).readText (Path.child ⟨"", ["a"]⟩ indexFile) = .ok index :=
  Disk.readText_of_read (Disk.read_eq_ok_iff.2 ⟨["a", indexFile], rfl, rfl⟩) h

/-- An index that was written by hand, without a line feed at its end. -/
def handWritten : String := "// icons\nexport const Old = 1;"

theorem exportFrom_lines_handWritten :
    Export.WellNamed ⟨"A", "T"⟩ ∧
    (indexDisk handWritten).readText (Path.child ⟨"", ["a"]⟩ indexFile) = .ok handWritten ∧
    ∃ d' index', (exportFrom ⟨"", ["a"]⟩ "A" "T").run (indexDisk handWritten) = (.ok true, d') ∧
      d'.readText (Path.child ⟨"", ["a"]⟩ indexFile) = .ok index' ∧
      lines handWritten.toList <+: lines index'.toList ∧ importBody ∈ lines index'.toList ∧
      (lines index'.toList).count (Export.body ⟨"A", "T"⟩) = 1 := by
  have hnamed : Export.WellNamed ⟨"A", "T"⟩ := by decide +kernel
  have htext : (indexDisk handWritten).readText (Path.child ⟨"", ["a"]⟩ indexFile) = .ok handWritten :=
    readText_indexDisk (by decide +kernel)
  have hadds : ((exportFrom ⟨"", ["a"]⟩ "A" "T").run (indexDisk handWritten)).1.toOption =
      some true := by decide +kernel
  have hfew : (lines handWritten.toList).count (Export.body ⟨"A", "T"⟩) ≤ 1 := by decide +kernel
  have hclear : (∃ l ∈ endedLines handWritten.toList, Export.body ⟨"A", "T"⟩ <:+ l) ↔
      Export.body ⟨"A", "T"⟩ ∈ lines handWritten.toList := by decide +kernel
  have himport : (∃ l ∈ lines handWritten.toList, importBody <:+ l) →
      importBody ∈ lines handWritten.toList := by decide +kernel
  obtain ⟨added, d', index', hrun, hback, hkept, _, _, honce, hthere⟩ := exportFrom_lines hnamed htext
  rw [hrun] at hadds
  obtain rfl := Option.some.inj hadds
  exact ⟨hnamed, htext, d', index', hrun, hback, hkept, (hthere rfl).2 himport, (honce hfew).2 hclear⟩

/-- The export of one icon, on a last line without a line feed. -/
def unended (e : Export) : String := String.ofList (importLine ++ e.body)

/-- The export of one icon, in a comment. -/
def commented (e : Export) : String := String.ofList (importLine ++ "// ".toList ++ e.line)

/-- An export on a last line without a line feed is added once more, and one that is commented out is
not added. -/
theorem exportFrom_lines_amiss :
    let e : Export := ⟨"A", "T"⟩
    let p : Path := Path.child ⟨"", ["a"]⟩ indexFile
    e.WellNamed ∧ (lines (unended e).toList).count e.body = 1 ∧
    (∃ d' index', (exportFrom ⟨"", ["a"]⟩ "A" "T").run (indexDisk (unended e)) = (.ok true, d') ∧
      d'.readText p = .ok index' ∧ (lines index'.toList).count e.body = 2) ∧
    (lines (commented e).toList).count e.body = 0 ∧
    (exportFrom ⟨"", ["a"]⟩ "A" "T").run (indexDisk (commented e)) =
      (.ok false, indexDisk (commented e)) := by
  intro e p
  have he : e.WellNamed := by decide +kernel
  have honce : (lines (unended e).toList).count e.body = 1 := by
    rw [unended, String.toList_ofList]
    decide +kernel
  have hnone : (lines (commented e).toList).count e.body = 0 := by
    rw [commented, String.toList_ofList]
    decide +kernel
  have hopen : ¬ ∃ l ∈ endedLines (unended e).toList, e.body <:+ l := by
    rw [unended, String.toList_ofList]
    decide +kernel
  have hended : ∃ l ∈ endedLines (commented e).toList, e.body <:+ l := by
    rw [commented, String.toList_ofList]
    decide +kernel
  have htext : (indexDisk (unended e)).readText p = .ok (unended e) :=
    readText_indexDisk (by rw [unended, String.toList_ofList]; decide +kernel)
  have htext' : (indexDisk (commented e)).readText p = .ok (commented e) :=
    readText_indexDisk (by rw [commented, String.toList_ofList]; decide +kernel)
  refine ⟨he, honce, ?_, hnone, ?_⟩
  · cases hadd : addExport? (unended e).toList e.name.toList e.iconType.toList with
    | none => exact absurd ((addExport?_eq_none_iff he).1 hadd) hopen
    | some updated =>
      obtain ⟨d', hrun, hback⟩ := exists_of_addExport?_some he.noReturn htext hadd
      refine ⟨d', _, hrun, hback, ?_⟩
      rw [String.toList_ofList, count_addExport? he hadd, honce]
  · have hrun := exportFrom_eq htext' e
    rwa [(addExport?_eq_none_iff he).2 hended] at hrun

end Icon
end SvgIcon
