import SvgIcon.Proofs.Json.Numbers
import SvgIcon.Proofs.Json.Texts
import SvgIcon.Proofs.Value.Keyed

/-!
Written values are read back.  The text of a value is long enough for its reading: it has a character
for each level of its lists and objects and for every two steps, so the bounds that a reader takes
from the length are never reached.
-/

namespace SvgIcon
namespace Json

open Text Value

/-! ## Blanks -/

variable {c : Char} {s rest : List Char} {depth steps level : Nat}

theorem skipSpace_append {blanks : List Char} (h : blanks.all isSpace = true) (s : List Char) :
    skipSpace (blanks ++ s) = skipSpace s :=
  List.dropWhile_append_of_pos (List.all_eq_true.1 h)

theorem skipSpace_cons (h : isSpace c = false) (s : List Char) : skipSpace (c :: s) = c :: s := by
  simp [skipSpace, h]

theorem lineBreak_all (style : Style) (level : Nat) : (lineBreak style level).all isSpace = true := by
  rw [lineBreak]
  split
  · rfl
  · rw [List.all_cons, List.all_replicate]
    simp [isSpace]

theorem separator_eq (style : Style) (level : Nat) :
    ∃ blanks : List Char, blanks.all isSpace = true ∧ separator style level = ',' :: blanks := by
  rw [separator]
  split
  · exact ⟨[' '], by decide, rfl⟩
  · exact ⟨_, lineBreak_all style level, rfl⟩

/-- A value ends at a line break too. -/
theorem stops_lineBreak (style : Style) (level : Nat)
    (hc : c ∈ [',', ' ', '\n', ']', '\x7d']) (s : List Char) :
    Stops (lineBreak style level ++ c :: s) := by
  rw [lineBreak]
  split
  · exact .cons hc s
  · exact .cons (by decide) _

/-! ## Values that stand alone -/

theorem name?_digit (h : isAsciiDigit c = true) : name? (c :: s) = none := by
  have hletters : ∀ d ∈ ['n', 't', 'f', 'N', 'I', '-'], d ≠ c := by
    rintro d hd rfl
    have hnone : ['n', 't', 'f', 'N', 'I', '-'].all (!isAsciiDigit ·) = true := by decide
    simpa [h] using List.all_eq_true.1 hnone d hd
  simp only [List.mem_cons, List.not_mem_nil, or_false, forall_eq_or_imp, forall_eq] at hletters
  simp [name?, after?, hletters]

theorem name?_minus (h : isAsciiDigit c = true) : name? ('-' :: c :: s) = none := by
  have hletter : 'I' ≠ c := by
    rintro rfl
    exact absurd h (by decide)
  simp [name?, after?, hletter]

theorem digit_of_number {negative : Bool} {read : Value × List Char}
    (h : number negative s = .ok read) : ∃ c t, s = c :: t ∧ isAsciiDigit c = true := by
  cases s with
  | nil => exact absurd h (by simp [number])
  | cons c t =>
    refine ⟨c, t, rfl, ?_⟩
    by_cases hc : isAsciiDigit c = true
    · exact hc
    · have hzero : c ≠ '0' := by
        rintro rfl
        exact hc (by decide)
      exact absurd h (by simp [number, hc, hzero])

/-- A number is read wherever a value is. -/
theorem value_number {read : Value × List Char} (h : number false s = .ok read) :
    value depth (steps + 1) s = .ok read := by
  obtain ⟨c, t, rfl, hc⟩ := digit_of_number h
  have hapart : ∀ d ∈ ['"', '[', '\x7b', '-'], c ≠ d := by
    rintro d hd rfl
    have hnone : ['"', '[', '\x7b', '-'].all (!isAsciiDigit ·) = true := by decide
    simpa [hc] using List.all_eq_true.1 hnone c hd
  simp only [List.mem_cons, List.not_mem_nil, or_false, forall_eq_or_imp, forall_eq] at hapart
  simp only [value, hapart, if_false, name?_digit hc, h]

theorem value_minus {read : Value × List Char} (h : number true s = .ok read) :
    value depth (steps + 1) ('-' :: s) = .ok read := by
  obtain ⟨c, t, rfl, hc⟩ := digit_of_number h
  simp [value, name?_minus hc, h]

theorem value_signed {negative : Bool} {read : Value × List Char}
    (h : number negative s = .ok read) :
    value depth (steps + 1) ((if negative then ['-'] else []) ++ s) = .ok read := by
  cases negative with
  | false => exact value_number h
  | true => exact value_minus h

theorem value_int {i : Int} (hfits : Numeral.fits i = true) (hrest : Stops rest) :
    value depth (steps + 1) ((toString i).toList ++ rest) = .ok (.int i, rest) := by
  have hread : ∀ negative (n : Nat), n < 10 ^ Numeral.maxDigits →
      number negative (Nat.toDigits 10 n ++ rest) =
        .ok (.int (if negative then -(n : Int) else n), rest) := by
    intro negative n hn
    have hlength : (Nat.toDigits 10 n).length ≤ Numeral.maxDigits :=
      (Nat.length_toDigits_le_iff (by omega) (by decide)).2 hn
    rw [number_whole negative (.of_toDigits n) hlength hrest, Numeral.value_toDigits]
  have hsmall := Numeral.fits_iff.1 hfits
  cases i with
  | ofNat n =>
    rw [show (toString (Int.ofNat n)).toList = Nat.toDigits 10 n from Nat.toList_repr]
    exact value_number (hread false n hsmall)
  | negSucc n =>
    have htext : (toString (Int.negSucc n)).toList = '-' :: Nat.toDigits 10 (n + 1) := by
      show ("-" ++ Nat.repr (n + 1)).toList = _
      rw [String.toList_append, Nat.toList_repr]
      rfl
    rw [htext]
    exact value_minus (hread true (n + 1) hsmall)

theorem number_text (negative : Bool) (rank : Fin Double.rankCount) (hrest : Stops rest) :
    number negative ((if rank.val = 0 then "0.0".toList
      else Double.layoutDecimal Double.plainLayout (Double.shortest rank)) ++ rest) =
      .ok (.float (.finite negative rank), rest) := by
  split
  · rename_i hzero
    have hrank : rank = 0 := Fin.ext hzero
    have hread := number_point negative .zero (.zeros 1) (by decide) hrest
    rw [show Numeral.value (['0'] ++ List.replicate 1 '0') = 0 from rfl, Double.ofDecimal,
      if_pos rfl] at hread
    rw [hrank]
    exact hread
  · rename_i hne
    have hshortest := Double.ofDecimal_shortest rank
    have hdigits : (Double.shortest rank).digits ≠ 0 := by
      intro hzero
      rw [hzero, Double.ofDecimal, if_pos rfl, Double.signedZero] at hshortest
      exact hne (congrArg Fin.val (Double.finite.inj hshortest).2).symm
    rw [number_layoutDecimal Double.plainLayout negative hdigits hrest,
      Double.ofDecimal_sign hshortest]

theorem value_float (x : Double) (hrest : Stops rest) :
    value depth (steps + 1) (floatText x ++ rest) = .ok (.float x, rest) := by
  cases x with
  | nan => rfl
  | infinite negative => cases negative <;> rfl
  | finite negative rank =>
    show value depth (steps + 1) (Double.text (.finite negative rank) ++ rest) = _
    rw [Double.text, List.append_assoc]
    exact value_signed (number_text negative rank hrest)

theorem value_text (asciiOnly : Bool) (s : String) :
    value depth (steps + 1) (textText asciiOnly s.toList ++ rest) = .ok (.text s, rest) := by
  have hread := textFrom_written asciiOnly s.toList rest
  rw [textText, List.cons_append, List.cons_append, List.append_assoc]
  simp only [value, if_true, List.cons_append, List.nil_append, hread]
  show Except.ok (Value.text (String.ofList s.toList), rest) = _
  rw [String.ofList_toList]

/-! ## Lists and objects -/

/-- No value begins with a blank, nor with what closes a list. -/
theorem front_of_value {read : Value × List Char} (h : value depth steps s = .ok read) :
    ∃ c t, s = c :: t ∧ isSpace c = false ∧ c ≠ ']' := by
  cases steps with
  | zero => exact absurd h (by simp [value])
  | succ steps =>
    cases s with
    | nil => exact absurd h (by simp [value])
    | cons c t =>
      refine ⟨c, t, rfl, ?_⟩
      have hother : c ∉ [' ', '\t', '\n', '\r', ']'] := by
        intro hc
        simp only [List.mem_cons, List.not_mem_nil, or_false] at hc
        rcases hc with rfl | rfl | rfl | rfl | rfl <;>
          exact absurd h (by simp [value, name?, after?, number, isAsciiDigit])
      simp only [List.mem_cons, List.not_mem_nil, or_false, not_or] at hother
      simp [isSpace, hother]

/-- The text of the value is read back where it stands at the level. -/
def Reads (style : Style) (level : Nat) (v : Value) : Prop :=
  ∀ (depth steps : Nat) ⦃rest : List Char⦄, Stops rest →
    (valueText style level v).length ≤ depth → 2 * (valueText style level v).length ≤ steps + 1 →
    value depth steps (valueText style level v ++ rest) = .ok (v, rest)

def ReadsItems (style : Style) (level : Nat) (found : List Value) : Prop :=
  ∀ (depth steps outer : Nat) (rest : List Char),
    (itemsText style level found).length ≤ depth → 2 * (itemsText style level found).length ≤ steps →
    items depth steps (itemsText style level found ++ (lineBreak style outer ++ ']' :: rest)) =
      .ok (found, rest)

def ReadsFields (style : Style) (level : Nat) (found : Fields) : Prop :=
  ∀ (depth steps outer : Nat) (rest : List Char),
    (fieldsText style level found).length ≤ depth →
    2 * (fieldsText style level found).length ≤ steps →
    fields depth steps (fieldsText style level found ++ (lineBreak style outer ++ '\x7d' :: rest)) =
      .ok (found, rest)

variable {style : Style} {v w : Value} {more : List Value} {key : String} {others : Fields}

/-- A value that stands alone takes a single step. -/
theorem Reads.of_value (h : ∀ (depth steps : Nat) {rest : List Char}, Stops rest →
    value depth (steps + 1) (valueText style level v ++ rest) = .ok (v, rest)) :
    Reads style level v := by
  have hlength : 0 < (valueText style level v).length := by
    obtain ⟨c, t, htext, _⟩ := front_of_value (h 0 0 .nil)
    rw [List.append_nil] at htext
    rw [htext]
    exact Nat.succ_pos _
  intro depth steps rest hrest _ hsteps
  obtain ⟨steps, rfl⟩ : ∃ n, steps = n + 1 := ⟨steps - 1, by omega⟩
  exact h depth steps hrest

/-- A text that is read as a value wherever it stands is not empty. -/
theorem Reads.front (h : Reads style level v) :
    ∃ c t, valueText style level v = c :: t ∧ isSpace c = false ∧ c ≠ ']' := by
  obtain ⟨c, t, htext, hc⟩ := front_of_value (h _ (2 * (valueText style level v).length) .nil
    (Nat.le_refl _) (Nat.le_succ _))
  rw [List.append_nil] at htext
  exact ⟨c, t, htext, hc⟩

theorem Reads.length_pos (h : Reads style level v) : 0 < (valueText style level v).length := by
  obtain ⟨c, t, htext, _⟩ := h.front
  rw [htext]
  exact Nat.succ_pos _

/-- Blanks in front of a value are passed over. -/
theorem Reads.skip (h : Reads style level v) {blanks : List Char} (hblanks : blanks.all isSpace = true)
    (s : List Char) :
    skipSpace (blanks ++ (valueText style level v ++ s)) = valueText style level v ++ s := by
  obtain ⟨c, t, htext, hc, _⟩ := h.front
  rw [skipSpace_append hblanks, htext]
  exact skipSpace_cons hc _

theorem skip_closing (style : Style) (outer : Nat) (hc : isSpace c = false) (rest : List Char) :
    skipSpace (lineBreak style outer ++ c :: rest) = c :: rest := by
  rw [skipSpace_append (lineBreak_all style outer), skipSpace_cons hc]

theorem readsItems_one (h : Reads style level v) : ReadsItems style level [v] := by
  intro depth steps outer rest hdepth hsteps
  have hpos := h.length_pos
  simp only [itemsText] at hdepth hsteps ⊢
  obtain ⟨steps, rfl⟩ : ∃ n, steps = n + 1 := ⟨steps - 1, by omega⟩
  have hv := h depth steps (stops_lineBreak style outer (c := ']') (by decide) rest) hdepth hsteps
  rw [items, hv]
  simp only [bind, Except.bind, skip_closing style outer (c := ']') (by decide)]
  rfl

theorem itemsText_cons (style : Style) (level : Nat) (v : Value) (more : List Value) :
    ∃ t, itemsText style level (v :: more) = valueText style level v ++ t := by
  cases more with
  | nil => exact ⟨[], (List.append_nil _).symm⟩
  | cons w more => exact ⟨_, List.append_assoc _ _ _⟩

theorem readsItems_cons (h : Reads style level v) (hw : Reads style level w)
    (hmore : ReadsItems style level (w :: more)) : ReadsItems style level (v :: w :: more) := by
  intro depth steps outer rest hdepth hsteps
  obtain ⟨blanks, hblanks, hseparator⟩ := separator_eq style level
  have htext : itemsText style level (v :: w :: more) =
      valueText style level v ++ separator style level ++ itemsText style level (w :: more) := rfl
  rw [htext, hseparator] at hdepth hsteps ⊢
  simp only [List.length_append, List.length_cons] at hdepth hsteps
  obtain ⟨steps, rfl⟩ : ∃ n, steps = n + 1 := ⟨steps - 1, by omega⟩
  have hread := hmore depth steps outer rest (by omega) (by omega)
  obtain ⟨t, ht⟩ := itemsText_cons style level w more
  simp only [ht, List.append_assoc, List.cons_append] at hread ⊢
  have hv := h depth steps (.cons (c := ',') (by decide) (blanks ++ (valueText style level w ++ (t ++
    (lineBreak style outer ++ ']' :: rest))))) (by omega) (by omega)
  rw [items, hv]
  simp only [bind, Except.bind, skipSpace_cons (c := ',') (by decide), hw.skip hblanks, hread]
  rfl

/-- The values of a list that are read one by one are read as a list. -/
theorem readsItems : ∀ {found : List Value}, found ≠ [] → (∀ v ∈ found, Reads style level v) →
    ReadsItems style level found
  | [], hne, _ => absurd rfl hne
  | [_], _, h => readsItems_one (h _ List.mem_cons_self)
  | _ :: w :: more, _, h =>
    readsItems_cons (h _ List.mem_cons_self) (h w (by simp))
      (readsItems (List.cons_ne_nil w more) fun x hx => h x (List.mem_cons_of_mem _ hx))

/-- A list that is not closed at once is as good as its items. -/
theorem value_opened {t : List Char} (hskip : skipSpace s = c :: t) (hc : c ≠ ']') :
    value (depth + 1) (steps + 1) ('[' :: s) =
      (items depth steps (c :: t)).map fun found => (.array found.1, found.2) := by
  have hopen : ∀ rest, skipSpace s = ']' :: rest → False := by
    intro rest hclosed
    rw [hskip] at hclosed
    exact hc (List.cons.inj hclosed).1
  rw [value.eq_5 _ _ _ _ hopen, if_neg (by decide), if_pos rfl, hskip]

theorem value_array {t : List Char} {found : List Value} (hskip : skipSpace s = c :: t)
    (hc : c ≠ ']') (hread : items depth steps (c :: t) = .ok (found, rest)) :
    value (depth + 1) (steps + 1) ('[' :: s) = .ok (.array found, rest) := by
  rw [value_opened hskip hc, hread]
  rfl

/-- A list is read if each of its values is. -/
theorem reads_array {found : List Value} (h : ∀ v ∈ found, Reads style (level + 1) v) :
    Reads style level (.array found) := by
  intro depth steps rest hrest hdepth hsteps
  cases found with
  | nil =>
    simp only [valueText, List.isEmpty_nil, if_true, List.length_cons] at hdepth hsteps
    obtain ⟨depth, rfl⟩ : ∃ n, depth = n + 1 := ⟨depth - 1, by omega⟩
    obtain ⟨steps, rfl⟩ : ∃ n, steps = n + 1 := ⟨steps - 1, by omega⟩
    rfl
  | cons v more =>
    have htext : valueText style level (.array (v :: more)) =
        '[' :: lineBreak style (level + 1) ++ itemsText style (level + 1) (v :: more) ++
          lineBreak style level ++ [']'] := rfl
    rw [htext] at hdepth hsteps ⊢
    simp only [List.cons_append, List.length_cons, List.length_append] at hdepth hsteps
    obtain ⟨depth, rfl⟩ : ∃ n, depth = n + 1 := ⟨depth - 1, by omega⟩
    obtain ⟨steps, rfl⟩ : ∃ n, steps = n + 1 := ⟨steps - 1, by omega⟩
    have hread := readsItems (List.cons_ne_nil v more) h depth steps level rest (by omega) (by omega)
    have hv := h v List.mem_cons_self
    obtain ⟨c, front, hfront, _, hc⟩ := hv.front
    obtain ⟨t, ht⟩ := itemsText_cons style (level + 1) v more
    have hskip := hv.skip (lineBreak_all style (level + 1))
      (t ++ (lineBreak style level ++ ']' :: rest))
    simp only [ht, hfront, List.append_assoc, List.cons_append, List.nil_append] at hread hskip ⊢
    exact value_array hskip hc hread

/-! ## Objects -/

theorem fieldsText_cons (style : Style) (level : Nat) (f : String × Value) (others : Fields) :
    ∃ t, fieldsText style level (f :: others) = '"' :: t := by
  obtain ⟨key, v⟩ := f
  cases others <;> exact ⟨_, rfl⟩

theorem after?_quote (s : List Char) : after? ['"'] ('"' :: s) = some s := rfl

theorem after?_colon (s : List Char) : after? [':'] (skipSpace ([':', ' '] ++ s)) = some (' ' :: s) :=
  rfl

theorem skipSpace_blank (h : isSpace c = false) (s : List Char) :
    skipSpace (' ' :: c :: s) = c :: s :=
  have hskip : skipSpace ([' '] ++ c :: s) = skipSpace (c :: s) := skipSpace_append (by decide) _
  hskip.trans (skipSpace_cons h s)

/-- A key, its colon and its value are passed before what follows them is looked at. -/
theorem fields_last (asciiOnly : Bool) (key : String) (hv : isSpace c = false) {back : List Char}
    (hread : value depth steps (c :: s) = .ok (v, back)) (hback : skipSpace back = '\x7d' :: rest) :
    fields depth (steps + 1) (textText asciiOnly key.toList ++ ([':', ' '] ++ c :: s)) =
      .ok ([(key, v)], rest) := by
  have htext := textFrom_written asciiOnly key.toList ([':', ' '] ++ c :: s)
  rw [textText, List.cons_append, List.cons_append, List.append_assoc, fields, after?_quote]
  simp only [List.singleton_append, bind, Except.bind, wanted, htext, after?_colon,
    skipSpace_blank hv, hread, hback, String.ofList_toList]
  rfl

theorem fields_next (asciiOnly : Bool) (key : String) (hv : isSpace c = false) {back next : List Char}
    (hread : value depth steps (c :: s) = .ok (v, back)) (hback : skipSpace back = ',' :: next)
    (hmore : fields depth steps (skipSpace next) = .ok (others, rest)) :
    fields depth (steps + 1) (textText asciiOnly key.toList ++ ([':', ' '] ++ c :: s)) =
      .ok ((key, v) :: others, rest) := by
  have htext := textFrom_written asciiOnly key.toList ([':', ' '] ++ c :: s)
  rw [textText, List.cons_append, List.cons_append, List.append_assoc, fields, after?_quote]
  simp only [List.singleton_append, bind, Except.bind, wanted, htext, after?_colon,
    skipSpace_blank hv, hread, hback, hmore, String.ofList_toList]
  rfl

theorem readsFields_one (key : String) (h : Reads style level v) :
    ReadsFields style level [(key, v)] := by
  intro depth steps outer rest hdepth hsteps
  have htext : fieldsText style level [(key, v)] =
      textText style.asciiOnly key.toList ++ [':', ' '] ++ valueText style level v := rfl
  rw [htext] at hdepth hsteps ⊢
  simp only [List.length_append] at hdepth hsteps
  have hpos := h.length_pos
  obtain ⟨steps, rfl⟩ : ∃ n, steps = n + 1 := ⟨steps - 1, by omega⟩
  have hv := h depth steps (stops_lineBreak style outer (c := '\x7d') (by decide) rest) (by omega)
    (by omega)
  obtain ⟨c, t, hfront, hc, _⟩ := h.front
  simp only [hfront, List.append_assoc, List.cons_append (a := c)] at hv ⊢
  exact fields_last style.asciiOnly key hc hv (skip_closing style outer (by decide) rest)

theorem readsFields_cons (key : String) (h : Reads style level v) {f : String × Value}
    (hmore : ReadsFields style level (f :: others)) :
    ReadsFields style level ((key, v) :: f :: others) := by
  intro depth steps outer rest hdepth hsteps
  obtain ⟨blanks, hblanks, hseparator⟩ := separator_eq style level
  have htext : fieldsText style level ((key, v) :: f :: others) =
      textText style.asciiOnly key.toList ++ [':', ' '] ++ valueText style level v ++
        separator style level ++ fieldsText style level (f :: others) := rfl
  rw [htext, hseparator] at hdepth hsteps ⊢
  simp only [List.length_append, List.length_cons] at hdepth hsteps
  obtain ⟨steps, rfl⟩ : ∃ n, steps = n + 1 := ⟨steps - 1, by omega⟩
  have hread := hmore depth steps outer rest (by omega) (by omega)
  have hv := h depth steps (.cons (c := ',') (by decide) (blanks ++ (fieldsText style level
    (f :: others) ++ (lineBreak style outer ++ '\x7d' :: rest)))) (by omega) (by omega)
  have hskip : skipSpace (blanks ++ (fieldsText style level (f :: others) ++
      (lineBreak style outer ++ '\x7d' :: rest))) =
      fieldsText style level (f :: others) ++ (lineBreak style outer ++ '\x7d' :: rest) := by
    obtain ⟨t, ht⟩ := fieldsText_cons style level f others
    rw [skipSpace_append hblanks, ht]
    exact skipSpace_cons (by decide) _
  obtain ⟨c, t, hfront, hc, _⟩ := h.front
  simp only [hfront, List.append_assoc, List.cons_append (a := c), List.cons_append (a := ',')] at hv ⊢
  exact fields_next style.asciiOnly key hc hv (skipSpace_cons (by decide) _) (by rw [hskip, hread])

theorem readsFields : ∀ {found : Fields}, found ≠ [] → (∀ f ∈ found, Reads style level f.2) →
    ReadsFields style level found
  | [], hne, _ => absurd rfl hne
  | [(key, _)], _, h => readsFields_one key (h _ List.mem_cons_self)
  | (key, _) :: f :: others, _, h =>
    readsFields_cons key (h _ List.mem_cons_self)
      (readsFields (List.cons_ne_nil f others) fun x hx => h x (List.mem_cons_of_mem _ hx))

theorem value_object {t : List Char} {found : Fields} (hskip : skipSpace s = '"' :: t)
    (hread : fields depth steps ('"' :: t) = .ok (found, rest)) (hkeys : (Assoc.keys found).Nodup) :
    value (depth + 1) (steps + 1) ('\x7b' :: s) = .ok (.object found, rest) := by
  have hopen : ∀ rest, skipSpace s = ']' :: rest → False := by
    intro rest hclosed
    rw [hskip] at hclosed
    exact absurd (List.cons.inj hclosed).1 (by decide)
  rw [value.eq_5 _ _ _ _ hopen, if_neg (by decide), if_neg (by decide), if_pos rfl, hskip]
  show (fields depth steps ('"' :: t)).map _ = _
  rw [hread]
  show Except.ok (Value.object (Assoc.ofPairs found), rest) = _
  rw [Assoc.ofPairs_of_nodup hkeys]

/-- An object is read if each of its values is and its keys are different. -/
theorem reads_object {found : Fields} (hkeys : (Assoc.keys found).Nodup)
    (h : ∀ f ∈ found, Reads style (level + 1) f.2) : Reads style level (.object found) := by
  intro depth steps rest hrest hdepth hsteps
  cases found with
  | nil =>
    simp only [valueText, List.isEmpty_nil, if_true, List.length_cons] at hdepth hsteps
    obtain ⟨depth, rfl⟩ : ∃ n, depth = n + 1 := ⟨depth - 1, by omega⟩
    obtain ⟨steps, rfl⟩ : ∃ n, steps = n + 1 := ⟨steps - 1, by omega⟩
    rfl
  | cons f others =>
    have htext : valueText style level (.object (f :: others)) =
        '\x7b' :: lineBreak style (level + 1) ++ fieldsText style (level + 1) (f :: others) ++
          lineBreak style level ++ ['\x7d'] := rfl
    rw [htext] at hdepth hsteps ⊢
    simp only [List.cons_append, List.length_cons, List.length_append] at hdepth hsteps
    obtain ⟨depth, rfl⟩ : ∃ n, depth = n + 1 := ⟨depth - 1, by omega⟩
    obtain ⟨steps, rfl⟩ : ∃ n, steps = n + 1 := ⟨steps - 1, by omega⟩
    have hread := readsFields (List.cons_ne_nil f others) h depth steps level rest (by omega)
      (by omega)
    obtain ⟨t, ht⟩ := fieldsText_cons style (level + 1) f others
    have hskip : skipSpace (lineBreak style (level + 1) ++
        ('"' :: (t ++ (lineBreak style level ++ '\x7d' :: rest)))) =
        '"' :: (t ++ (lineBreak style level ++ '\x7d' :: rest)) := by
      rw [skipSpace_append (lineBreak_all style (level + 1)), skipSpace_cons (by decide)]
    simp only [ht, List.append_assoc, List.cons_append, List.nil_append] at hread ⊢
    exact value_object hskip hread hkeys

/-! ## Whole texts -/

/-- A value that can be written as JSON is read back from its text. -/
theorem reads (style : Style) (level : Nat) (v : Value) (hv : v.Sound) : Reads style level v := by
  match v, hv with
  | .null, _ => exact .of_value (fun _ _ _ _ => rfl)
  | .bool b, _ => cases b <;> exact .of_value (fun _ _ _ _ => rfl)
  | .int i, hv =>
    have hfits : Numeral.fits i = true := by simpa [defects] using hv.defects
    exact .of_value (fun _ _ _ hrest => value_int hfits hrest)
  | .float x, _ => exact .of_value (fun _ _ _ hrest => value_float x hrest)
  | .text s, _ => exact .of_value (fun _ _ _ _ => value_text _ s)
  | .moment m, hv => exact absurd hv.defects (by simp [defects])
  | .array found, hv => exact reads_array fun v hmem => reads style (level + 1) v (hv.item hmem)
  | .object found, hv =>
    exact reads_object hv.keyed.1 fun f hmem => reads style (level + 1) f.2 (hv.field hmem)
termination_by v
decreasing_by
  · simp_wf
    have := List.sizeOf_lt_of_mem hmem
    omega
  · simp_wf
    have := List.sizeOf_lt_of_mem hmem
    obtain ⟨key, w⟩ := f
    simp at this ⊢
    omega

/-- A written value, with blanks behind it, is read as a whole text, where it may be as deep as it is
long. -/
theorem readWithin_valueText (style : Style) (hv : v.Sound) {blanks : List Char} {depth : Nat}
    (hstops : Stops blanks) (hblanks : blanks.all isSpace = true)
    (hdepth : (valueText style 0 v).length ≤ depth) :
    readWithin depth (valueText style 0 v ++ blanks) = .ok v := by
  have hreads := reads style 0 v hv
  have hfront : skipSpace ([] ++ (valueText style 0 v ++ blanks)) = valueText style 0 v ++ blanks :=
    hreads.skip rfl blanks
  have hrest : skipSpace blanks = [] := by
    rw [← List.append_nil blanks, skipSpace_append hblanks]
    rfl
  have hread := hreads depth (2 * (valueText style 0 v ++ blanks).length + 2) hstops hdepth
    (by rw [List.length_append]; omega)
  rw [List.nil_append] at hfront
  rw [readWithin, hfront, hread]
  simp only [bind, Except.bind, hrest]
  rfl

theorem readWithin_write (style : Style) (depth : Nat) (hv : v.Sound)
    (hdepth : (write style v).length ≤ depth) :
    readWithin depth (write style v).toList = .ok v := by
  rw [← String.length_toList] at hdepth
  rw [write, String.toList_ofList] at hdepth ⊢
  have hread := readWithin_valueText style hv .nil rfl hdepth
  rwa [List.append_nil] at hread

theorem read?_valueText (style : Style) (hv : v.Sound) {blanks : List Char} (hstops : Stops blanks)
    (hblanks : blanks.all isSpace = true) : read? (valueText style 0 v ++ blanks) = some v := by
  rw [read?, readWithin_valueText style hv hstops hblanks (by rw [List.length_append]; omega)]
  rfl

theorem read?_write (style : Style) (hv : v.Sound) : read? (write style v).toList = some v := by
  rw [read?, readWithin_write style _ hv (Nat.le_of_eq String.length_toList.symm)]
  rfl

/-! ## Texts that go too deep -/

/-- Each bracket is one level down, and behind the last level that there is comes one more. -/
theorem value_brackets (s : List Char) : ∀ {depth steps n : Nat}, depth < n → 2 * depth < steps →
    value depth steps (List.replicate n '[' ++ s) = .error (.tooDeep .array)
  | _, 0, _, _, hsteps => absurd hsteps (Nat.not_lt_zero _)
  | 0, steps + 1, n + 1, _, _ => by
    rw [List.replicate_succ, List.cons_append, value, if_neg (by decide), if_pos rfl]
  | depth + 1, steps + 1, n + 1, hdepth, hsteps => by
    obtain ⟨n, rfl⟩ : ∃ m, n = m + 1 := ⟨n - 1, by omega⟩
    obtain ⟨steps, rfl⟩ : ∃ m, steps = m + 1 := ⟨steps - 1, by omega⟩
    have hread : value depth steps (List.replicate (n + 1) '[' ++ s) = .error (.tooDeep .array) :=
      value_brackets s (by omega) (by omega)
    rw [List.replicate_succ, List.cons_append] at hread
    have hskip : skipSpace (List.replicate (n + 1) '[' ++ s) = '[' :: (List.replicate n '[' ++ s) :=
      skipSpace_cons (by decide) _
    rw [List.replicate_succ, List.cons_append, value_opened hskip (by decide), items, hread]
    rfl

theorem readWithin_brackets {depth n : Nat} (h : depth < n) (s : List Char) :
    readWithin depth (List.replicate n '[' ++ s) = .error (.tooDeep .array) := by
  have hskip : skipSpace (List.replicate n '[' ++ s) = List.replicate n '[' ++ s := by
    obtain ⟨n, rfl⟩ : ∃ m, n = m + 1 := ⟨n - 1, by omega⟩
    exact skipSpace_cons (by decide) _
  rw [readWithin, hskip, value_brackets s h (by simp; omega)]
  rfl

end Json
end SvgIcon
