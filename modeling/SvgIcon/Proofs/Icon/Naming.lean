import SvgIcon.Proofs.Icon.Creating
import SvgIcon.Proofs.Markup.Literals

/-!
Names of icons, and what is made of them.  A name that is accepted is a capital letter with letters and
digits behind it, or such a name with one line feed more.  What is made of a name is sound exactly if
the line feed is not there: its export is one line, a script reads it as the export of one name, and its
component file is named plainly.
-/

namespace SvgIcon

namespace Script

open Text

/-! ## Exports as a script reads them -/

namespace Alphabet

variable (alphabet : Alphabet)

/-- `export const name = dynamic(() => import('text'));` on a line of its own: the name that is exported,
and the units of the text that tells where from. -/
def export? (s : List Char) : Option (List Char × List Nat) := do
  let s ← after? "export const ".toList s
  let name := s.takeWhile alphabet.isPart
  if alphabet.isIdentifier name then
    let s ← after? " = dynamic(() => import('".toList (s.dropWhile alphabet.isPart)
    let (source, rest) ← stringFrom? 0 s
    if rest = "));\n".toList then some (name, source) else none
  else none

variable {alphabet}

theorem isStart_of_isUpper {c : Char} (h : c.isUpper = true) : alphabet.isStart c = true := by
  obtain ⟨hlow, hhigh⟩ := isUpper_iff_toNat.1 h
  have hascii : c.toNat < 128 := by omega
  simp [isStart, isAsciiLetter, hlow, hhigh, hascii]

/-- Letters and numbers of ASCII are parts of names, and for all others it is up to the alphabet. -/
theorem isPart_iff_of_isAlphanumeric {c : Char} (h : isAlphanumeric c = true) :
    alphabet.isPart c = true ↔ (128 ≤ c.toNat → alphabet.part c = true) := by
  rw [isAlphanumeric] at h
  rw [isPart]
  by_cases hascii : c.toNat < 128
  · rw [if_pos hascii] at h ⊢
    simp only [h, Bool.true_or, true_iff]
    intro hlarge
    omega
  · rw [if_neg hascii]
    exact ⟨fun hpart _ => hpart, fun hpart => hpart (Nat.le_of_not_lt hascii)⟩

theorem isPart_feed : alphabet.isPart '\n' = false := rfl

theorem isPart_space : alphabet.isPart ' ' = false := rfl

/-- An export is read if its name can be read, and then its text is. -/
theorem export?_line {name source : List Char} (hname : alphabet.isIdentifier name = true)
    (hsource : Plain source) :
    alphabet.export? ("export const ".toList ++ (name ++ (" = dynamic(() => import('".toList ++
      (source ++ '\'' :: "));\n".toList)))) = some (name, units source) := by
  have hparts := isPart_of_mem hname
  have hspace : ∀ c ∈ (" = dynamic(() => import('".toList ++
      (source ++ '\'' :: "));\n".toList)).head?, alphabet.isPart c = false := by
    intro c hc
    obtain rfl : ' ' = c := by simpa using hc
    exact isPart_space
  simp only [export?, after?_append, Option.bind_eq_bind, Option.bind_some,
    takeWhile_append_of_head hparts hspace, dropWhile_append_of_head hparts hspace, hname, if_true,
    stringFrom?_plain hsource]

/-- All of the name that is read is made of parts of names. -/
theorem isPart_of_export? {s name : List Char} {source : List Nat}
    (h : alphabet.export? s = some (name, source)) : ∀ c ∈ name, alphabet.isPart c = true := by
  obtain ⟨rest, _, hrest⟩ := Option.bind_eq_some_iff.1 h
  simp only at hrest
  split at hrest
  · obtain ⟨_, _, hrest⟩ := Option.bind_eq_some_iff.1 hrest
    obtain ⟨_, _, hread⟩ := Option.bind_eq_some_iff.1 hrest
    split at hread
    · obtain ⟨rfl, _⟩ := Prod.mk.inj (Option.some.inj hread)
      exact fun c hc => List.mem_takeWhile_imp hc
    · exact absurd hread (by simp)
  · exact absurd hrest (by simp)

end Alphabet
end Script

namespace Icon

open Text Script

/-! ## Names that are accepted -/

/-- A capital letter, and then letters and digits, all of them ASCII. -/
def IsIconName (s : List Char) : Prop :=
  ∃ c rest, s = c :: rest ∧ c.isUpper = true ∧ ∀ d ∈ rest, d.isAlphanum = true

theorem isCapital_eq (c : Char) : isCapital c = c.isUpper := by
  rw [Bool.eq_iff_iff, isUpper_iff_toNat]
  simp [isCapital, Char.le_def, UInt32.le_iff_toNat_le]

theorem isNameChar_eq (c : Char) : isNameChar c = c.isAlphanum := by
  have hzero : '0'.toNat = 48 := rfl
  have hnine : '9'.toNat = 57 := rfl
  have halphanum : c.isAlphanum = (c.isUpper || c.isLower || c.isDigit) := rfl
  rw [Bool.eq_iff_iff, halphanum, Bool.or_eq_true, Bool.or_eq_true, isUpper_iff_toNat,
    isLower_iff_toNat, Char.isDigit_iff_toNat, hzero, hnine]
  simp only [isNameChar, isAsciiLetter, isAsciiDigit, Bool.or_eq_true, Bool.and_eq_true,
    decide_eq_true_eq]
  omega

theorem isNameTail_iff (s : List Char) : isNameTail s = true ↔
    (∀ c ∈ s, c.isAlphanum = true) ∨
      ∃ front, s = front ++ ['\n'] ∧ ∀ c ∈ front, c.isAlphanum = true := by
  have hfeed : ('\n' : Char).isAlphanum = false := by decide
  induction s using isNameTail.induct with
  | case1 => simp [isNameTail]
  | case2 => exact iff_of_true rfl (.inr ⟨[], rfl, List.forall_mem_nil _⟩)
  | case3 c s hne ih =>
    rw [isNameTail.eq_3 c s hne, Bool.and_eq_true, isNameChar_eq]
    refine (and_congr_right fun _ => ih).trans ⟨?_, ?_⟩
    · rintro ⟨hc, hs | ⟨front, rfl, hfront⟩⟩
      · exact .inl (List.forall_mem_cons.2 ⟨hc, hs⟩)
      · exact .inr ⟨c :: front, rfl, List.forall_mem_cons.2 ⟨hc, hfront⟩⟩
    · rintro (hall | ⟨front, hsplit, hfront⟩)
      · exact (List.forall_mem_cons.1 hall).imp_right .inl
      · cases front with
        | nil =>
          obtain ⟨rfl, rfl⟩ := List.cons.inj hsplit
          exact (hne rfl rfl).elim
        | cons d front =>
          obtain ⟨rfl, rfl⟩ := List.cons.inj hsplit
          obtain ⟨hd, hfront⟩ := List.forall_mem_cons.1 hfront
          exact ⟨hd, .inr ⟨front, rfl, hfront⟩⟩

/-- The names that are accepted are icon names, with or without a line feed at the end. -/
theorem nameError?_eq_none_iff (name : String) : nameError? name = none ↔
    IsIconName name.toList ∨ ∃ front, IsIconName front ∧ name.toList = front ++ ['\n'] := by
  have haccepted : nameError? name = none ↔ isPascalCase name.toList = true := by
    rw [nameError?]
    by_cases hempty : name = ""
    · subst hempty
      simp [isPascalCase]
    · simp [hempty]
  rw [haccepted]
  cases name.toList with
  | nil => simp [isPascalCase, IsIconName]
  | cons c s =>
    rw [isPascalCase, Bool.and_eq_true, isCapital_eq, isNameTail_iff]
    constructor
    · rintro ⟨hc, hs | ⟨front, rfl, hfront⟩⟩
      · exact .inl ⟨c, s, rfl, hc, hs⟩
      · exact .inr ⟨c :: front, ⟨c, front, rfl, hc, hfront⟩, rfl⟩
    · rintro (⟨_, _, heq, hc, hs⟩ | ⟨_, ⟨_, front, rfl, hc, hfront⟩, heq⟩)
      · obtain ⟨rfl, rfl⟩ := List.cons.inj heq
        exact ⟨hc, .inl hs⟩
      · obtain ⟨rfl, rfl⟩ := List.cons.inj heq
        exact ⟨hc, .inr ⟨front, rfl, hfront⟩⟩

namespace IsIconName

variable {s : List Char}

theorem isNameChar (h : IsIconName s) : ∀ c ∈ s, Icon.isNameChar c = true := by
  obtain ⟨c, rest, rfl, hc, hrest⟩ := h
  refine List.forall_mem_cons.2 ⟨isNameChar_of_isCapital ((isCapital_eq c).trans hc), ?_⟩
  intro d hd
  exact (isNameChar_eq d).trans (hrest d hd)

theorem isAscii (h : IsIconName s) : ∀ c ∈ s, c.toNat < 128 := by
  intro c hc
  have hchar := h.isNameChar c hc
  simp only [Icon.isNameChar, isAsciiLetter, isAsciiDigit, Bool.or_eq_true, Bool.and_eq_true,
    decide_eq_true_eq] at hchar
  omega

theorem notMem (h : IsIconName s) {c : Char} (hc : Icon.isNameChar c = false) : c ∉ s :=
  fun hmem => absurd (h.isNameChar c hmem) (by simp [hc])

/-- A line feed is behind the name, or the name is an icon name. -/
theorem of_accepted {name : String} (h : nameError? name = none) (hfeed : '\n' ∉ name.toList) :
    IsIconName name.toList := by
  rcases (nameError?_eq_none_iff name).1 h with hname | ⟨front, _, hsplit⟩
  · exact hname
  · exact absurd (hsplit ▸ List.mem_append_right front (List.mem_singleton_self _)) hfeed

end IsIconName

/-! ## What is made of a name -/

/-- A text with one line feed, at its end. -/
def IsLine (s : List Char) : Prop := ∃ body, '\n' ∉ body ∧ s = body ++ ['\n']

/-- No white space, no point and no slash. -/
def IsPlainStem (s : List Char) : Prop := ∀ c ∈ s, isBlank c = false ∧ c ≠ '.' ∧ c ≠ '/'

namespace Export

variable {e : Export}

theorem isLine_line (hname : '\n' ∉ e.name.toList) (htype : '\n' ∉ e.iconType.toList) :
    IsLine e.line :=
  ⟨e.body, notMem_body hname htype (by decide) (by decide) (by decide), e.line_eq⟩

theorem notMem_of_isLine (h : IsLine e.line) : '\n' ∉ e.name.toList := by
  obtain ⟨body, hbody, heq⟩ := h
  obtain rfl : e.body = body := List.append_cancel_right (e.line_eq.symm.trans heq)
  intro hmem
  refine hbody ?_
  rw [Export.body]
  exact List.mem_append_left _ (List.mem_append_right _ (List.mem_cons_of_mem _ hmem))

end Export

/-- The name and the type are one name if what is beyond ASCII in the type may stand in names. -/
theorem IsIconName.isIdentifier_append {alphabet : Alphabet} {name iconType : List Char}
    (hname : IsIconName name)
    (htype : ∀ c ∈ iconType, alphabet.isPart c = true) :
    alphabet.isIdentifier (name ++ iconType) = true := by
  have hparts : ∀ c ∈ name, alphabet.isPart c = true := by
    intro c hc
    have hascii := hname.isAscii c hc
    have hchar := hname.isNameChar c hc
    rw [Alphabet.isPart, if_pos hascii, ← Icon.isNameChar, hchar, Bool.true_or, Bool.true_or]
  obtain ⟨c, rest, rfl, hc, _⟩ := hname
  simp only [List.cons_append, Alphabet.isIdentifier, Bool.and_eq_true, List.all_eq_true]
  refine ⟨Alphabet.isStart_of_isUpper hc, fun d hd => ?_⟩
  rcases List.mem_append.1 hd with hd | hd
  · exact hparts d (List.mem_cons_of_mem c hd)
  · exact htype d hd

theorem IsIconName.plain_source {name : List Char} (hname : IsIconName name) :
    Plain ("./".toList ++ name) := by
  intro c hc
  rcases List.mem_append.1 hc with hc | hc
  · have hfront : Plain "./".toList := by decide
    exact hfront c hc
  · have hchar := hname.isNameChar c hc
    simp only [isPlain, ne_eq, Bool.and_eq_true, decide_not, Bool.not_eq_true',
      decide_eq_false_iff_not]
    refine ⟨⟨⟨?_, ?_⟩, ?_⟩, ?_⟩ <;> rintro rfl <;> exact absurd hchar (by decide)

theorem exportLine_read {alphabet : Alphabet} {name iconType : List Char}
    (hname : alphabet.isIdentifier (name ++ iconType) = true) (hsource : Plain ("./".toList ++ name)) :
    alphabet.export? (exportLine name iconType) =
      some (name ++ iconType, units ("./".toList ++ name)) := by
  have hsplit : exportLine name iconType = "export const ".toList ++ ((name ++ iconType) ++
      (" = dynamic(() => import('".toList ++ (("./".toList ++ name) ++ '\'' :: "));\n".toList))) := by
    have hfront : " = dynamic(() => import('./".toList =
        " = dynamic(() => import('".toList ++ "./".toList := by decide
    have hend : "'));\n".toList = '\'' :: "));\n".toList := by decide
    unfold exportLine
    simp only [hfront, hend, List.append_assoc]
  rw [hsplit, Alphabet.export?_line hname hsource]

theorem IsIconName.isPlainStem {name : List Char} (hname : IsIconName name) : IsPlainStem name := by
  intro c hc
  have hchar := hname.isNameChar c hc
  refine ⟨isBlank_eq_false_of_isWord (isWord_of_isNameChar hchar), ?_, ?_⟩ <;>
    rintro rfl <;> exact absurd hchar (by decide)

/-- The component of an icon is in a file that is named after the icon. -/
theorem name_path_of_create {c : Config} {root : Path} {svg name iconType : String} {d d' : Disk}
    {icon : Icon} (h : (create c root svg name iconType).run d = (.ok icon, d')) :
    icon.path.name = name ++ ".tsx" := by
  cases exit_of_run h
  simp [answered, Path.child, Path.name, componentFile]

/-- The names that are accepted are the icon names and, against what is meant, these with a line feed
behind them.  Of an accepted name a line is made, an export that a script reads and a plain file name
exactly if the line feed is not there; and what is beyond ASCII in the type must be what the script
takes for a part of a name. -/
theorem exportLine_accepted_iff (alphabet : Alphabet) (name iconType : String)
    (htype : ∀ c ∈ iconType.toList, isAlphanumeric c = true) :
    (nameError? name = none ↔
      IsIconName name.toList ∨ ∃ front, IsIconName front ∧ name.toList = front ++ ['\n']) ∧
    (nameError? name = none →
      (IsLine (exportLine name.toList iconType.toList) ↔ IsIconName name.toList) ∧
      (alphabet.export? (exportLine name.toList iconType.toList) =
          some (name.toList ++ iconType.toList, units ("./".toList ++ name.toList)) ↔
        IsIconName name.toList ∧
          ∀ c ∈ iconType.toList, 128 ≤ c.toNat → alphabet.part c = true) ∧
      (∀ c root svg d icon d', (create c root svg name iconType).run d = (.ok icon, d') →
        icon.path.name = name ++ ".tsx") ∧
      (IsPlainStem name.toList ↔ IsIconName name.toList)) := by
  refine ⟨nameError?_eq_none_iff name, fun haccepted => ⟨?_, ?_, ?_, ?_⟩⟩
  · constructor
    · exact fun hline => .of_accepted haccepted (Export.notMem_of_isLine (e := ⟨name, iconType⟩) hline)
    · intro hname
      have hfeed : '\n' ∉ iconType.toList := fun hmem => absurd (htype _ hmem) (by decide)
      exact Export.isLine_line (e := ⟨name, iconType⟩) (hname.notMem (by decide)) hfeed
  · constructor
    · intro hread
      have hparts := Alphabet.isPart_of_export? hread
      refine ⟨.of_accepted haccepted fun hmem => ?_, fun c hc => ?_⟩
      · exact absurd (hparts _ (List.mem_append_left _ hmem)) (by simp [Alphabet.isPart_feed])
      · exact (Alphabet.isPart_iff_of_isAlphanumeric (htype c hc)).1
          (hparts c (List.mem_append_right _ hc))
    · rintro ⟨hname, hlarge⟩
      have hidentifier := hname.isIdentifier_append fun c hc =>
        (Alphabet.isPart_iff_of_isAlphanumeric (htype c hc)).2 (hlarge c hc)
      exact exportLine_read hidentifier hname.plain_source
  · exact fun _ _ _ _ _ _ => name_path_of_create
  · refine ⟨fun hplain => .of_accepted haccepted fun hmem => ?_, IsIconName.isPlainStem⟩
    exact absurd (hplain _ hmem).1 (by decide)

theorem exportLine_accepted_iff_home :
    (∀ c ∈ "Outline".toList, isAlphanumeric c = true) ∧
      nameError? "Home2" = none ∧ IsIconName "Home2".toList ∧
      IsLine (exportLine "Home2".toList "Outline".toList) ∧
      Markup.asciiNames.export? (exportLine "Home2".toList "Outline".toList) =
        some ("Home2Outline".toList, units "./Home2".toList) ∧
      IsPlainStem "Home2".toList := by
  have htype : ∀ c ∈ "Outline".toList, isAlphanumeric c = true := by decide
  have hname : IsIconName "Home2".toList := ⟨'H', "ome2".toList, by decide, by decide, by decide⟩
  obtain ⟨haccepts, hmade⟩ := exportLine_accepted_iff Markup.asciiNames "Home2" "Outline" htype
  have haccepted : nameError? "Home2" = none := haccepts.2 (.inl hname)
  obtain ⟨hline, hread, _, hstem⟩ := hmade haccepted
  have hascii : ∀ c ∈ "Outline".toList, 128 ≤ c.toNat → Markup.asciiNames.part c = true := by decide
  exact ⟨htype, haccepted, hname, hline.2 hname, hread.2 ⟨hname, hascii⟩, hstem.2 hname⟩

/-- A line feed behind a name goes through the check and into all that is made of the name. -/
theorem nameError?_feed :
    nameError? "A\n" = none ∧ ¬ IsIconName "A\n".toList ∧
      exportLine "A\n".toList "T".toList =
        "export const A\nT = dynamic(() => import('./A\n'));\n".toList ∧
      ¬ IsLine (exportLine "A\n".toList "T".toList) ∧
      Markup.asciiNames.export? (exportLine "A\n".toList "T".toList) = none ∧
      componentFile "A\n" = "A\n.tsx" ∧ ¬ IsPlainStem "A\n".toList := by
  have hnot : ¬ IsIconName "A\n".toList := fun h =>
    h.notMem (show Icon.isNameChar '\n' = false by decide) (by decide)
  have hline : ¬ IsLine (exportLine "A\n".toList "T".toList) :=
    fun h => Export.notMem_of_isLine (e := ⟨"A\n", "T"⟩) h (by decide)
  have hstem : ¬ IsPlainStem "A\n".toList := fun h => absurd (h '\n' (by decide)).1 (by decide)
  exact ⟨by decide, hnot, by decide, hline, by decide +kernel, by decide, hstem⟩

end Icon
end SvgIcon
