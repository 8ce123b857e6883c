import SvgIcon.Proofs.File.Standing

/-!
Files that texts are added to.  Whether a text can be added is a matter of the path and not of the text,
and where one has been added there is a file from then on, so that more can be added.
-/

namespace SvgIcon
namespace Disk

variable {d d' : Disk} {p : Path} {place : Place} {text : String}

/-- A file can be added to, and so can a path with nothing there if the last directory is there. -/
theorem takes_of_locate (hnames : p.names ≠ []) (hplace : d.locate p = .ok place)
    (hthere : d.find? place ≠ some .directory) : d.Takes p := by
  obtain ⟨above, habove, hdirectory⟩ := locate_parent hnames hplace
  exact ⟨d, place, makeDirectories_there habove hdirectory, hplace, hthere⟩

/-- A path without names leads to a directory once the directories on the way are made. -/
theorem Takes.names_ne_nil (h : d.Takes p) : p.names ≠ [] := by
  obtain ⟨d', place, hmake, hplace, hthere⟩ := h
  intro hnil
  have hself : p.parent = p := by rw [Path.parent, hnil, List.dropLast_nil, ← hnil]
  have hreach := reaches_of_makeDirectories (hself ▸ hmake)
  rw [hreach.locate] at hplace
  obtain rfl := Except.ok.inj hplace
  exact hthere hreach.directory

theorem appendText_takes_iff (text : String) :
    (∃ d', (appendText p text).run d = (.ok (), d')) ↔ d.Takes p := by
  have hexit := appendText_exits p text d
  constructor
  · rintro ⟨d', hrun⟩
    rw [hrun] at hexit
    cases hexit with
    | added hmake hplace hthere => exact ⟨_, _, hmake, hplace, hthere⟩
  · intro htakes
    generalize (appendText p text).run d = answered at hexit ⊢
    obtain ⟨answer, d'⟩ := answered
    cases hexit with
    | refused hnot => exact absurd htakes hnot
    | added => exact ⟨_, rfl⟩

/-- What has been added to is read as a file, and more can be added. -/
theorem read_of_appendText (h : (appendText p text).run d = (.ok (), d')) :
    d'.read p = .ok (d.bytesAt (p.place d.cwd) ++ text.toUTF8) ∧ d'.Takes p := by
  have hnames := ((appendText_takes_iff text).1 ⟨d', h⟩).names_ne_nil
  obtain ⟨hcwd, hbytes⟩ := bytesAt_appendText h
  cases added_of_run h with
  | @added place d₁ hmake hplace hthere =>
    have hspread : Spread d ((makeDirectories p.parent).run d).2 :=
      moves_makeDirectories admits_spread _ d
    rw [hmake] at hspread
    obtain rfl : p.place d.cwd = place := by rw [locate_spelled hplace, hspread.cwd]
    have hroot := ne_nil_of_ne_directory hthere
    refine ⟨?_, takes_of_locate hnames (locate_put hthere hplace) ?_⟩
    · rw [read_put hplace hthere, ← hbytes, bytesAt_put hroot]
    · rw [find?_put_self _ hroot]
      simp

end Disk
end SvgIcon
