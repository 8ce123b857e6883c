import SvgIcon.File.Disk
import SvgIcon.Proofs.Computation

/-!
Writing over a file.  Where there is a file, every name on the way to it leads through a directory.
Putting another file in its place moves none of them, so the same path leads to the new bytes.
-/

namespace SvgIcon
namespace Disk

variable {d d' : Disk} {place q r : Place} {p : Path} {name : String} {bytes new : ByteArray}

theorem run_getThe (d : Disk) : (getThe Disk : Action Disk).run d = (.ok d, d) := rfl

/-! ## Putting -/

theorem lookup_filter_ne (nodes : List (Place × Node)) (h : q ≠ place) :
    (nodes.filter (·.1 ≠ place)).lookup q = nodes.lookup q := by
  induction nodes with
  | nil => rfl
  | cons entry nodes ih =>
    obtain ⟨there, node⟩ := entry
    by_cases hthere : there = place
    · have hq : (q == there) = false := by simpa [hthere] using h
      rw [List.filter_cons_of_neg (by simpa using hthere), List.lookup_cons, hq, ih]
    · rw [List.filter_cons_of_pos (by simpa using hthere), List.lookup_cons, List.lookup_cons, ih]

theorem find?_put_of_ne (node : Node) (h : q ≠ place) : (d.put place node).find? q = d.find? q := by
  by_cases hroot : q = []
  · simp [find?, hroot]
  · have hq : (q == place) = false := by simpa using h
    simp only [find?, hroot, if_false, put, List.lookup_cons, hq]
    exact lookup_filter_ne d.nodes h

theorem find?_put_self (node : Node) (h : place ≠ []) :
    (d.put place node).find? place = some node := by
  simp [find?, h, put]

/-- At the root there is a directory. -/
theorem ne_nil_of_ne_directory (h : d.find? place ≠ some .directory) : place ≠ [] := by
  rintro rfl
  exact h rfl

theorem ne_nil_of_find? (h : d.find? place = some (.file bytes)) : place ≠ [] :=
  ne_nil_of_ne_directory (d := d) (by simp [h])

/-! ## Following names -/

theorem find?_of_step (h : d.step q name = .ok r) : d.find? q = some .directory := by
  rw [step] at h
  split at h
  · simp at h
  · simp at h
  · assumption

theorem follow_of_directories (hkeep : ∀ q, d.find? q = some .directory → d'.find? q = some .directory)
    {names : List String} (h : names.foldlM d.step q = .ok r) : names.foldlM d'.step q = .ok r := by
  induction names generalizing q with
  | nil => exact h
  | cons name names ih =>
    rw [List.foldlM_cons] at h ⊢
    obtain ⟨q', hstep, hrest⟩ := exists_of_bind_eq_ok h
    have hdirectory := find?_of_step hstep
    have hsame : d'.step q name = .ok q' := by
      rw [← hstep, step, step, hkeep q hdirectory, hdirectory]
    rw [hsame]
    exact ih hrest

/-- A path still leads to its place as long as every directory stays. -/
theorem locate_of_directories (hcwd : d'.cwd = d.cwd)
    (hkeep : ∀ q, d.find? q = some .directory → d'.find? q = some .directory)
    (h : d.locate p = .ok r) : d'.locate p = .ok r := by
  rw [locate] at h ⊢
  split at h
  · simp at h
  · split at h
    · simp at h
    · simp only [*, if_false]
      exact follow_of_directories hkeep h

/-- What is put where no directory is leaves the way of every path as it was. -/
theorem locate_put {node : Node} (hnot : d.find? place ≠ some .directory)
    (h : d.locate p = .ok r) : (d.put place node).locate p = .ok r := by
  refine locate_of_directories (d := d) rfl (fun q hq => ?_) h
  have hne : q ≠ place := by
    rintro rfl
    exact hnot hq
  rwa [find?_put_of_ne _ hne]

theorem read_eq_ok_iff :
    d.read p = .ok bytes ↔ ∃ place, d.locate p = .ok place ∧ d.find? place = some (.file bytes) := by
  rw [read, node]
  cases d.locate p with
  | error e => simp [bind, Except.bind]
  | ok place =>
    rcases hfind : d.find? place with _ | (there | _) <;> simp [bind, Except.bind, hfind]

theorem read_put (hplace : d.locate p = .ok place) (hnot : d.find? place ≠ some .directory) :
    (d.put place (.file new)).read p = .ok new :=
  read_eq_ok_iff.2 ⟨place, locate_put hnot hplace, find?_put_self _ (ne_nil_of_ne_directory hnot)⟩

end Disk

/-! ## The directory of a file -/

namespace Path

variable {p : Path}

/-- The path leads to something by a name, and not to a directory that was left or stayed in. -/
def EndsInName (p : Path) : Prop := p.name ≠ "" ∧ p.name ≠ ".."

instance : Decidable p.EndsInName := inferInstanceAs (Decidable (_ ∧ _))

theorem EndsInName.names_ne_nil (h : p.EndsInName) : p.names ≠ [] := by
  intro hnil
  exact h.1 (by simp [name, hnil])

theorem names_eq (h : p.names ≠ []) : p.names = p.parent.names ++ [p.name] := by
  obtain ⟨root, names⟩ := p
  rcases List.eq_nil_or_concat names with rfl | ⟨above, last, rfl⟩
  · exact absurd rfl h
  · simp [parent, name]

theorem text_parent (h : p.names ≠ []) :
    p.parent.text = "." ∨ ∃ rest, p.text = p.parent.text ++ rest := by
  have hnames := names_eq h
  have htext : p.text = p.root ++ "/".intercalate p.names := by
    simp [text, hnames]
  have hroots : p.parent.root = p.root := rfl
  by_cases habove : p.parent.names = []
  · rw [habove] at hnames
    by_cases hroot : p.root = ""
    · exact Or.inl (by simp [text, habove, hroots, hroot])
    · refine Or.inr ⟨p.name, ?_⟩
      rw [htext, hnames]
      simp [text, habove, hroots, hroot]
  · refine Or.inr ⟨"/" ++ p.name, ?_⟩
    rw [htext, hnames, String.intercalate_append_of_ne_nil habove (by simp)]
    simp [text, habove, hroots, String.append_assoc]

end Path

namespace Disk

variable {d : Disk} {place : Place} {p : Path} {bytes : ByteArray} {whenMissing : Action Unit}

theorem locate_parent (hnames : p.names ≠ []) (hplace : d.locate p = .ok place) :
    ∃ above, d.locate p.parent = .ok above ∧ d.find? above = some .directory := by
  rw [locate] at hplace
  split at hplace
  · simp at hplace
  rename_i hnull
  split at hplace
  · simp at hplace
  rename_i hlimit
  rw [Path.names_eq hnames, List.foldlM_append] at hplace
  obtain ⟨above, habove, hlast⟩ := exists_of_bind_eq_ok hplace
  obtain ⟨_, hstep, _⟩ := exists_of_bind_eq_ok hlast
  refine ⟨above, ?_, find?_of_step hstep⟩
  have hfit : p.parent.text.toList.any (·.toNat = 0) = false ∧
      ¬ pathLimit < p.parent.text.utf8ByteSize := by
    rcases Path.text_parent hnames with hhere | ⟨rest, hrest⟩
    · rw [hhere]
      decide
    · rw [hrest] at hnull hlimit
      simp only [String.toList_append, List.any_append, Bool.or_eq_true, not_or,
        String.utf8ByteSize_append] at hnull hlimit
      exact ⟨Bool.eq_false_iff.2 hnull.1, by omega⟩
  rw [locate, if_neg (by simp [hfit.1]), if_neg hfit.2]
  exact habove

theorem ensureDirectory_there (hplace : d.locate p = .ok place)
    (hthere : d.find? place = some .directory) :
    (ensureDirectory p whenMissing).run d = (.ok (), d) := by
  have hmake : d.makeDirectory p = .error .taken := by
    simp [makeDirectory, hplace, hthere, bind, Except.bind]
  have his : d.isDirectory? p = .ok true := by
    simp [isDirectory?, look, node, hplace, hthere, bind, Except.bind, Except.map]
  rw [ensureDirectory]
  refine (run_bind_of_ok (run_getThe d)).trans ?_
  rw [hmake, his]
  rfl

/-- The directory itself is made first, and once more when those on the way to it have been made. -/
theorem exists_makeDirectories (p : Path) : ∃ whenMissing : Action Unit,
    makeDirectories p = ensureDirectory p whenMissing ∧
      (whenMissing = throw (Refusal.missing.fault p) ∨
        ∃ above : Action Unit, whenMissing = above >>= fun _ => ensureLast p) := by
  obtain ⟨root, names⟩ := p
  rcases List.eq_nil_or_concat names with rfl | ⟨front, last, rfl⟩
  · exact ⟨_, rfl, .inl rfl⟩
  · rw [List.concat_eq_append]
    refine ⟨makeDirectoriesAt root front.reverse >>= fun _ => ensureLast ⟨root, front ++ [last]⟩, ?_,
      .inr ⟨_, rfl⟩⟩
    rw [makeDirectories, List.reverse_append, List.reverse_singleton, List.singleton_append,
      makeDirectoriesAt, List.reverse_cons, List.reverse_reverse]

theorem makeDirectories_there (hplace : d.locate p = .ok place)
    (hthere : d.find? place = some .directory) :
    (makeDirectories p).run d = (.ok (), d) := by
  obtain ⟨whenMissing, hmake, _⟩ := exists_makeDirectories p
  rw [hmake]
  exact ensureDirectory_there hplace hthere

/-- A text that is written over a file takes its place. -/
theorem writeText_eq (hname : p.EndsInName) (hplace : d.locate p = .ok place)
    (hfile : d.find? place = some (.file bytes)) (text : String) :
    (writeText p text .utf8).run d = (.ok (), d.put place (.file text.toUTF8)) := by
  obtain ⟨above, habove, hthere⟩ := locate_parent hname.names_ne_nil hplace
  have hmade := makeDirectories_there habove hthere
  have htarget : d.target p = .ok place := by
    simp [target, hplace, hname.1, hname.2, hfile, bind, Except.bind]
  rw [writeText]
  refine (run_bind_of_ok hmade).trans ?_
  refine (run_bind_of_ok (run_getThe d)).trans ?_
  rw [htarget]
  rfl

/-- A text that is written over a file is what the file holds. -/
theorem writeText_over (hname : p.EndsInName) (hread : d.read p = .ok bytes) (text : String) :
    ∃ d', (writeText p text .utf8).run d = (.ok (), d') ∧ d'.read p = .ok text.toUTF8 := by
  obtain ⟨place, hplace, hfile⟩ := read_eq_ok_iff.1 hread
  exact ⟨_, writeText_eq hname hplace hfile text, read_put hplace (by simp [hfile])⟩

/-! ## Texts and items -/

theorem notMem_unifyLines (s : List Char) : '\r' ∉ Text.unifyLines s := by
  induction s using Text.unifyLines.induct with
  | case1 => simp [Text.unifyLines]
  | case2 s ih => simpa [Text.unifyLines] using ih
  | case3 c s hne ih =>
    rw [Text.unifyLines]
    · split
      · simpa using ih
      · rename_i hc
        exact fun hmem => (List.mem_cons.1 hmem).elim (fun h => hc h.symm) ih
    · exact hne

theorem unifyLines_of_notMem {s : List Char} (h : '\r' ∉ s) : Text.unifyLines s = s := by
  induction s using Text.unifyLines.induct with
  | case1 => rfl
  | case2 s ih => exact absurd List.mem_cons_self h
  | case3 c s hne ih =>
    have hc : c ≠ '\r' := fun heq => h (heq ▸ List.mem_cons_self)
    rw [Text.unifyLines, if_neg hc, ih fun hmem => h (List.mem_cons_of_mem c hmem)]
    exact hne

theorem decode_toUTF8 (s : String) : Utf8.decode s.toUTF8 = .ok s := by
  have hback : String.fromUTF8? s.toUTF8 = some s := dif_pos s.isValidUTF8
  rw [Utf8.decode, hback]

theorem readText_of_read {text : String} (hread : d.read p = .ok text.toUTF8)
    (hbreaks : '\r' ∉ text.toList) : d.readText p = .ok text := by
  simp only [readText, hread, bind, Except.bind, decode_toUTF8, unifyLines_of_notMem hbreaks,
    String.ofList_toList]
  rfl

theorem read_of_readText {text : String} (h : d.readText p = .ok text) :
    (∃ bytes, d.read p = .ok bytes) ∧ '\r' ∉ text.toList := by
  obtain ⟨bytes, hread, hdecode⟩ := exists_of_bind_eq_ok h
  refine ⟨⟨bytes, hread⟩, ?_⟩
  split at hdecode
  · obtain rfl := Except.ok.inj hdecode
    rw [String.toList_ofList]
    exact notMem_unifyLines _
  · exact absurd hdecode (by simp [throw, throwThe, MonadExceptOf.throw])

/-- A path to a file stands for the file alone, whatever its suffix is. -/
theorem filesAtAll_file (suffixes : List String) (hread : d.read p = .ok bytes) :
    d.filesAtAll suffixes [p] = .ok [p] := by
  obtain ⟨place, hplace, hfile⟩ := read_eq_ok_iff.1 hread
  have hlook : d.look p = .ok (some (.file bytes)) := by
    simp [look, node, hplace, hfile, bind, Except.bind]
  have hfiles : d.filesAt suffixes p = .ok [p] := by
    rw [filesAt, hlook]
    rfl
  simp [filesAtAll, hfiles, bind, Except.bind]
  rfl

end Disk
end SvgIcon
