import SvgIcon.Icon.Barrel
import SvgIcon.Icon.Name
import SvgIcon.Proofs.Text.Classes
import SvgIcon.Proofs.Text.Lines

/-!
The text of an index file.  Whether it exports an icon is asked of the text, and the text answers for
the list of the icons that have been added: the line of an icon stands in it nowhere but as the line of
that icon.
-/

namespace SvgIcon
namespace Icon

open Text

/-! ## Exports -/

/-- An icon as an index file knows it. -/
@[ext]
structure Export where
  name : String
  iconType : String
  deriving DecidableEq, Repr

namespace Export

def line (e : Export) : List Char := exportLine e.name.toList e.iconType.toList

/-- The name is a capital letter with ASCII letters and digits behind it, and the type is made of
letters and numbers and not empty. -/
structure WellNamed (e : Export) : Prop where
  name : isPascalCase e.name.toList = true
  noBreak : '\n' ∉ e.name.toList
  iconType : ∀ c ∈ e.iconType.toList, isAlphanumeric c = true
  notEmpty : e.iconType ≠ ""

instance (e : Export) : Decidable e.WellNamed :=
  decidable_of_iff (isPascalCase e.name.toList = true ∧ '\n' ∉ e.name.toList ∧
      (∀ c ∈ e.iconType.toList, isAlphanumeric c = true) ∧ e.iconType ≠ "")
    ⟨fun h => ⟨h.1, h.2.1, h.2.2.1, h.2.2.2⟩, fun h => ⟨h.name, h.noBreak, h.iconType, h.notEmpty⟩⟩

end Export

theorem isWord_of_isNameChar {c : Char} (h : isNameChar c = true) : isWord c = true :=
  (Bool.or_eq_true_iff.1 h).elim isWord_of_isAsciiLetter isWord_of_isAsciiDigit

theorem isNameChar_of_isCapital {c : Char} (h : isCapital c = true) : isNameChar c = true := by
  obtain ⟨hlow, hhigh⟩ := Bool.and_eq_true_iff.1 h
  have hlow : 65 ≤ c.toNat := of_decide_eq_true hlow
  have hhigh : c.toNat ≤ 90 := of_decide_eq_true hhigh
  simp [isNameChar, isAsciiLetter, hlow, hhigh]

theorem isNameChar_of_isNameTail {s : List Char} (h : isNameTail s = true) :
    ∀ c ∈ s, isNameChar c = true ∨ c = '\n' := by
  induction s using isNameTail.induct with
  | case1 => simp
  | case2 => simp
  | case3 c s hne ih =>
    rw [isNameTail] at h
    · obtain ⟨hc, hs⟩ := Bool.and_eq_true_iff.1 h
      exact List.forall_mem_cons.2 ⟨.inl hc, ih hs⟩
    · exact hne

/-- Nothing but name characters is in a name, but for the line feed that is let through. -/
theorem isNameChar_of_isPascalCase {s : List Char} (h : isPascalCase s = true) :
    ∀ c ∈ s, isNameChar c = true ∨ c = '\n' := by
  cases s with
  | nil => simp
  | cons c s =>
    obtain ⟨hc, hs⟩ := Bool.and_eq_true_iff.1 h
    exact List.forall_mem_cons.2 ⟨.inl (isNameChar_of_isCapital hc), isNameChar_of_isNameTail hs⟩

namespace Export

variable {e e' : Export}

/-- Nothing that the line puts around the name and the type stands in them. -/
theorem WellNamed.notMem (h : e.WellNamed) {c : Char} (hc : isWord c = false) :
    c ∉ e.name.toList ∧ c ∉ e.iconType.toList := by
  constructor
  · intro hmem
    rcases isNameChar_of_isPascalCase h.name c hmem with hchar | rfl
    · have hword := isWord_of_isNameChar hchar
      simp [hc] at hword
    · exact h.noBreak hmem
  · intro hmem
    have hword : isWord c = true := by simp [isWord, h.iconType c hmem]
    simp [hc] at hword

/-! The texts around the name and the type in a line, but for the slash and the line feed. -/

def opening : List Char := "export const ".toList

def loading : List Char := " = dynamic(() => import('.".toList

def closing : List Char := "'));".toList

/-- The line without the line feed at its end. -/
def body (e : Export) : List Char :=
  opening ++ e.name.toList ++ e.iconType.toList ++ loading ++ '/' :: e.name.toList ++ closing

theorem line_eq (e : Export) : e.line = e.body ++ ['\n'] := by
  have hparts : e.line = opening ++ e.name.toList ++ e.iconType.toList ++ (loading ++ ['/']) ++
      e.name.toList ++ (closing ++ ['\n']) := rfl
  rw [hparts, body]
  simp only [List.append_assoc, List.cons_append, List.nil_append]

theorem notMem_body {c : Char} (hname : c ∉ e.name.toList) (htype : c ∉ e.iconType.toList)
    (hopening : c ∉ opening) (hloading : c ∉ loading ++ ['/']) (hclosing : c ∉ closing) :
    c ∉ e.body := by
  have hparts : c ∉ loading ∧ c ≠ '/' := by simpa using hloading
  simp [body, hname, htype, hopening, hparts.1, hparts.2, hclosing]

theorem noReturn_line (hname : '\r' ∉ e.name.toList) (htype : '\r' ∉ e.iconType.toList) :
    '\r' ∉ e.line := by
  have hbody := notMem_body hname htype (by decide) (by decide) (by decide)
  simp [line_eq, hbody]

/-- A line is one line. -/
theorem noBreak_body (h : e.WellNamed) : '\n' ∉ e.body := by
  obtain ⟨hname, htype⟩ := h.notMem (c := '\n') (by decide)
  exact notMem_body hname htype (by decide) (by decide) (by decide)

/-- None of the kind that is read as another one, either. -/
theorem WellNamed.noReturn (h : e.WellNamed) : '\r' ∉ e.line := by
  obtain ⟨hname, htype⟩ := h.notMem (c := '\r') (by decide)
  exact noReturn_line hname htype

theorem count_space_body (h : e.WellNamed) : e.body.count ' ' = 6 := by
  have hnot := h.notMem (c := ' ') (by decide)
  have hopening : opening.count ' ' = 2 := by decide
  have hloading : loading.count ' ' = 4 := by decide
  have hclosing : closing.count ' ' = 0 := by decide
  simp [body, List.count_append, hopening, hloading, hclosing,
    List.count_eq_zero_of_not_mem hnot.1, List.count_eq_zero_of_not_mem hnot.2]

/-- The name is read off the end of a line, and the type is what is left. -/
theorem body_inj (h : e.WellNamed) (h' : e'.WellNamed) (heq : e.body = e'.body) : e = e' := by
  have hslash := (h.notMem (c := '/') (by decide)).1
  have hslash' := (h'.notMem (c := '/') (by decide)).1
  have hback := congrArg List.reverse (List.append_cancel_right heq)
  simp only [List.reverse_append, List.reverse_cons, List.append_assoc, List.cons_append,
    List.nil_append] at hback
  obtain ⟨hname, hrest⟩ := append_cons_inj (by simpa using hslash) (by simpa using hslash') hback
  have hname := List.reverse_inj.1 hname
  have htype := List.append_cancel_left hrest
  rw [← hname, ← List.append_assoc, ← List.append_assoc] at htype
  have htype := List.reverse_inj.1 (List.append_cancel_right (List.append_cancel_right
    (by simpa only [List.append_assoc] using htype)))
  exact Export.ext (String.toList_inj.1 hname) (String.toList_inj.1 htype)

/-- An export stands at the end of no other one. -/
theorem eq_of_body_suffix (h : e.WellNamed) (h' : e'.WellNamed) (hsuffix : e.body <:+ e'.body) :
    e = e' := by
  obtain ⟨front, heq⟩ := hsuffix
  -- as many blanks are in both lines, so none is in what comes before the first one
  have hblanks := congrArg (List.count ' ') heq
  rw [List.count_append, count_space_body h, count_space_body h'] at hblanks
  have hfront : ' ' ∉ front := List.count_eq_zero.1 (by omega)
  have hopening : opening = "export".toList ++ ' ' :: "const ".toList := by decide
  have hnone : ' ' ∉ "export".toList := by decide
  have hwords : ∀ e : Export, ∃ rest, e.body = "export".toList ++ ' ' :: rest := fun e =>
    ⟨_, by rw [body, hopening]; simp only [List.append_assoc, List.cons_append]; rfl⟩
  obtain ⟨rest, hrest⟩ := hwords e
  obtain ⟨rest', hrest'⟩ := hwords e'
  rw [hrest, hrest', ← List.append_assoc] at heq
  have hempty := (append_cons_inj (by simp only [List.mem_append, hfront, hnone, or_self,
    not_false_eq_true]) hnone heq).1
  obtain rfl : front = [] := List.append_left_eq_self.1 hempty
  exact body_inj h h' (by rw [hrest, hrest']; exact heq)

end Export

/-! ## The import -/

/-- The import without the line feed at its end. -/
def importBody : List Char := "import dynamic from 'next/dynamic';".toList

theorem importLine_eq : importLine = importBody ++ ['\n'] := by decide

theorem noBreak_importBody : '\n' ∉ importBody ∧ '\r' ∉ importBody := by decide

/-- The import has fewer blanks than any export. -/
theorem Export.not_body_suffix_importBody {e : Export} (h : e.WellNamed) :
    ¬ e.body <:+ importBody := by
  intro hsuffix
  have hfew : importBody.count ' ' = 3 := by decide
  have hblanks := hsuffix.sublist.count_le ' '
  rw [count_space_body h, hfew] at hblanks
  omega

/-! ## Barrels -/

/-- The text of an index file that exports some icons; without any there is no file. -/
def barrel : List Export → List Char
  | [] => []
  | e :: es => importLine ++ (e :: es).flatMap Export.line

section
variable {e : Export} {es : List Export}

theorem barrel_eq (h : es ≠ []) : barrel es = (importLine :: es.map Export.line).flatten := by
  cases es with
  | nil => exact absurd rfl h
  | cons e es => rw [barrel, List.flatten_cons, List.flatMap_def]

theorem endedLines_exports (hes : ∀ e ∈ es, e.WellNamed) :
    endedLines (es.flatMap Export.line) = es.map Export.body := by
  induction es with
  | nil => rfl
  | cons e es ih =>
    obtain ⟨he, hes⟩ := List.forall_mem_cons.1 hes
    rw [List.flatMap_cons, Export.line_eq, List.append_assoc, List.singleton_append,
      endedLines_append (Export.noBreak_body he), ih hes, List.map_cons]

theorem endedLines_barrel (hes : ∀ e ∈ es, e.WellNamed) (hne : es ≠ []) :
    endedLines (barrel es) = importBody :: es.map Export.body := by
  obtain ⟨e, es, rfl⟩ := List.exists_cons_of_ne_nil hne
  rw [barrel, importLine_eq, List.append_assoc, List.singleton_append,
    endedLines_append noBreak_importBody.1, endedLines_exports hes]

theorem noReturn_barrel (hes : ∀ e ∈ es, e.WellNamed) : '\r' ∉ barrel es := by
  cases es with
  | nil => exact List.not_mem_nil
  | cons first es =>
    rw [barrel, importLine_eq, List.mem_append, List.mem_flatMap]
    rintro (himport | ⟨e, he, hline⟩)
    · simp [noBreak_importBody.2] at himport
    · exact (hes e he).noReturn hline

/-- An index file exports an icon exactly when it has been added. -/
theorem contains_barrel_iff (hes : ∀ e ∈ es, e.WellNamed) (he : e.WellNamed) :
    contains e.line (barrel es) = true ↔ e ∈ es := by
  rw [Export.line_eq, contains_line_iff (Export.noBreak_body he)]
  by_cases hne : es = []
  · simp [hne, barrel, endedLines, pieces]
  rw [endedLines_barrel hes hne]
  constructor
  · rintro ⟨l, hl, hsuffix⟩
    rcases List.mem_cons.1 hl with rfl | hl
    · exact absurd hsuffix (Export.not_body_suffix_importBody he)
    · obtain ⟨e', he', rfl⟩ := List.mem_map.1 hl
      exact Export.eq_of_body_suffix he (hes e' he') hsuffix ▸ he'
  · intro hmem
    exact ⟨e.body, List.mem_cons_of_mem _ (List.mem_map_of_mem hmem), List.suffix_rfl⟩

theorem endLine_barrel (es : List Export) : endLine (barrel es) = barrel es := by
  rcases List.eq_nil_or_concat es with rfl | ⟨es, e, rfl⟩
  · rfl
  · have hlast : (barrel (es ++ [e])).getLast? = some '\n' := by
      rw [barrel_eq (by simp)]
      simp [Export.line_eq]
    rw [List.concat_eq_append, endLine, hlast]
    simp

theorem withImport_barrel (es : List Export) (e : Export) :
    withImport (barrel es) ++ e.line = barrel (es ++ [e]) := by
  cases es with
  | nil =>
    have hnone : contains importLine [] = false := by decide
    simp [withImport, barrel, hnone]
  | cons first es =>
    have hthere := contains_append importLine [] ((first :: es).flatMap Export.line)
    rw [withImport, barrel, if_pos (by simpa using hthere)]
    simp [barrel]

/-- Adding an icon to an index file puts its line at the end, unless it has been added before. -/
theorem addExport?_barrel (hes : ∀ e ∈ es, e.WellNamed) (he : e.WellNamed) :
    addExport? (barrel es) e.name.toList e.iconType.toList =
      if e ∈ es then none else some (barrel (es ++ [e])) := by
  have hline : addExport? (barrel es) e.name.toList e.iconType.toList =
      if contains e.line (barrel es) then none
      else some (withImport (endLine (barrel es)) ++ e.line) := rfl
  rw [hline, endLine_barrel, withImport_barrel]
  simp only [contains_barrel_iff hes he]

end
end Icon
end SvgIcon
