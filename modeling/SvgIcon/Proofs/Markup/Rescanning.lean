import SvgIcon.Proofs.Markup.Dressing

/-!
Attribute names rewritten twice.  A renaming puts names in the place of names, on any text; the
scans for tags and attributes read past a name whatever it is, so the second time they find what
they found the first time, and two renamings are one.
-/

namespace SvgIcon
namespace Text

/-- Induction along a text that is scanned from the left: where nothing is read one character is
passed over, and where something is read the scan goes on behind it. -/
theorem scan_induction {α : Type} (read : List Char → Option α) (text : α → List Char)
    (hread : ∀ s a, read s = some a → ∃ r, s = text a ++ r ∧ text a ≠ [])
    {P : List Char → Prop} (nil : P [])
    (passed : ∀ c s, read (c :: s) = none → P s → P (c :: s))
    (found : ∀ a s, read (text a ++ s) = some a → P s → P (text a ++ s)) (s : List Char) :
    P s := by
  induction hlength : s.length using Nat.strongRecOn generalizing s with
  | ind n ih =>
    cases s with
    | nil => exact nil
    | cons c s =>
      cases hfront : read (c :: s) with
      | none => exact passed c s hfront (ih s.length (by simp [← hlength]) s rfl)
      | some a =>
        obtain ⟨r, hsplit, hne⟩ := hread _ a hfront
        have hshorter : r.length < n := by
          have hpos := List.length_pos_iff.2 hne
          have hsum := congrArg List.length hsplit
          rw [List.length_append, hlength] at hsum
          omega
        rw [hsplit] at hfront ⊢
        exact found a r hfront (ih r.length hshorter r rfl)

end Text

namespace Markup

open Text

/-! ## Texts with other names -/

/-- The second text has other names than the first in some of the places where a blank stands
before a name and none of its characters behind it. -/
inductive Renamed : List Char → List Char → Prop
  | nil : Renamed [] []
  | copy (c : Char) {s s' : List Char} (h : Renamed s s') : Renamed (c :: s) (c :: s')
  | name {b c : Char} {n n' s s' : List Char} (hb : isBlank b = true)
      (hn : isAttributeName n = true) (hn' : isAttributeName n' = true) (h : Renamed s s') :
      Renamed (b :: (n ++ c :: s)) (b :: (n' ++ c :: s'))

namespace Renamed

variable {s s' t t' : List Char}

theorem refl (s : List Char) : Renamed s s := by
  induction s with
  | nil => exact nil
  | cons c s ih => exact copy c ih

theorem append (h : Renamed s s') (ht : Renamed t t') : Renamed (s ++ t) (s' ++ t') := by
  induction h with
  | nil => exact ht
  | copy c _ ih => exact copy c ih
  | @name b c n n' u u' hb hn hn' _ ih =>
    have hall := name (c := c) hb hn hn' ih
    simpa using hall

theorem head?_eq (h : Renamed s s') : s.head? = s'.head? := by
  cases h <;> rfl

theorem getLast?_eq (h : Renamed s s') : s.getLast? = s'.getLast? := by
  have hlast : ∀ (u : List Char) (c : Char) (v : List Char),
      (u ++ c :: v).getLast? = some (v.getLast?.getD c) := fun u c v => by
    rw [List.getLast?_append, List.getLast?_cons]
    rfl
  induction h with
  | nil => rfl
  | copy c _ ih => rw [List.getLast?_cons, List.getLast?_cons, ih]
  | name _ _ _ _ ih => rw [← List.cons_append, ← List.cons_append, hlast, hlast, ih]

theorem filter_eq {p : Char → Bool} (hp : ∀ c, Attribute.isNameChar c = true → p c = false)
    (h : Renamed s s') : s.filter p = s'.filter p := by
  have hname : ∀ n, isAttributeName n = true → n.filter p = [] := fun n hn =>
    List.filter_eq_nil_iff.2 fun c hc => by simp [hp c (isNameChar_of_mem_attributeName hn hc)]
  induction h with
  | nil => rfl
  | copy c _ ih => rw [List.filter_cons, List.filter_cons, ih]
  | @name b c n n' u u' hb hn hn' _ ih =>
    rw [List.filter_cons, List.filter_cons, List.filter_append, List.filter_append, hname n hn,
      hname n' hn', List.nil_append, List.nil_append, List.filter_cons, List.filter_cons, ih]

theorem mem_iff {c : Char} (hc : Attribute.isNameChar c = false) (h : Renamed s s') :
    c ∈ s ↔ c ∈ s' := by
  have hsame := h.filter_eq (p := (· == c)) fun d hd => by
    rw [beq_eq_false_iff_ne]
    rintro rfl
    rw [hd] at hc
    exact Bool.noConfusion hc
  have hmem : ∀ u : List Char, c ∈ u ↔ c ∈ u.filter (· == c) := fun u => by simp
  rw [hmem, hsame, ← hmem]

theorem dropWhile_isNameChar (h : Renamed s s') :
    Renamed (s.dropWhile Attribute.isNameChar) (s'.dropWhile Attribute.isNameChar) := by
  induction h with
  | nil => exact nil
  | copy c h ih =>
    rw [List.dropWhile_cons, List.dropWhile_cons]
    split
    · exact ih
    · exact copy c h
  | @name b c n n' u u' hb hn hn' h ih =>
    have hstop : ¬ Attribute.isNameChar b = true := fun hname => by
      rw [isBlank_eq_false_of_isNameChar hname] at hb
      exact Bool.noConfusion hb
    rw [List.dropWhile_cons_of_neg hstop, List.dropWhile_cons_of_neg hstop]
    exact name hb hn hn' h

/-- Behind the blanks in front of them, the texts have other names as before, or both start with a
name. -/
theorem dropWhile_isBlank (h : Renamed s s') :
    Renamed (s.dropWhile isBlank) (s'.dropWhile isBlank) ∨
      ∃ c u c' u', s.dropWhile isBlank = c :: u ∧ s'.dropWhile isBlank = c' :: u' ∧
        isAsciiLetter c = true ∧ isAsciiLetter c' = true := by
  induction h with
  | nil => exact Or.inl nil
  | copy c h ih =>
    rw [List.dropWhile_cons, List.dropWhile_cons]
    split
    · exact ih
    · exact Or.inl (copy c h)
  | @name b c n n' u u' hb hn hn' h ih =>
    have hstart : ∀ m v, isAttributeName m = true → ∃ d w, (b :: (m ++ c :: v)).dropWhile isBlank =
        d :: w ∧ isAsciiLetter d = true := by
      intro m v hm
      cases m with
      | nil => exact absurd hm (by decide)
      | cons d w =>
        have hd : isAsciiLetter d = true := by
          simp only [isAttributeName, Bool.and_eq_true] at hm
          exact hm.1
        have hsolid := isBlank_eq_false_of_isNameChar (isNameChar_of_isAsciiLetter hd)
        refine ⟨d, w ++ c :: v, ?_, hd⟩
        rw [List.dropWhile_cons_of_pos hb, List.cons_append,
          List.dropWhile_cons_of_neg (by simp [hsolid])]
    obtain ⟨d, w, hw, hd⟩ := hstart n u hn
    obtain ⟨d', w', hw', hd'⟩ := hstart n' u' hn'
    exact Or.inr ⟨d, w, d', w', hw, hw', hd, hd'⟩

end Renamed

/-! ## Attributes read again -/

namespace Attribute

/-- A value that starts with a quote or a brace has to be closed somewhere. -/
theorem delimited?_eq_none_iff {c : Char} {s : List Char} :
    delimited? (c :: s) = none ↔
      if c = '"' ∨ c = '\'' then c ∉ s else if c = '\x7b' then '\x7d' ∉ s
      else isBareChar c = false := by
  rw [delimited?]
  split
  · simp
  · split <;> simp

theorem delimited?_letter {c : Char} (h : isAsciiLetter c = true) (s : List Char) :
    delimited? (c :: s) ≠ none := by
  have hne : ∀ d, isAsciiLetter d = false → c ≠ d := by
    rintro d hd rfl
    rw [hd] at h
    exact Bool.noConfusion h
  have hsolid := isBlank_eq_false_of_isNameChar (isNameChar_of_isAsciiLetter h)
  have hquote : ¬ (c = '"' ∨ c = '\'') := not_or.2 ⟨hne _ (by decide), hne _ (by decide)⟩
  rw [ne_eq, delimited?_eq_none_iff, if_neg hquote, if_neg (hne '\x7b' (by decide))]
  simp [isBareChar, hsolid, hne '"' (by decide), hne '\'' (by decide), hne '>' (by decide),
    hne '\x7b' (by decide), hne '\x7d' (by decide)]

/-- A value that is not closed still is not with other names behind its start. -/
theorem delimited?_renamed {s s' : List Char} (h : Renamed s s') (hnone : delimited? s = none) :
    delimited? s' = none := by
  cases h with
  | nil => exact hnone
  | @copy c u u' h =>
    rw [delimited?_eq_none_iff] at hnone ⊢
    split
    · rename_i hquote
      have hc : isNameChar c = false := by rcases hquote with rfl | rfl <;> decide
      rw [if_pos hquote] at hnone
      rwa [← h.mem_iff hc]
    · rename_i hquote
      rwa [if_neg hquote, h.mem_iff (by decide)] at hnone
  | @name b c n n' u u' hb hn hn' h =>
    rw [delimited?_eq_none_iff] at hnone ⊢
    have hne : ∀ d, isBlank d = false → b ≠ d := by
      rintro d hd rfl
      rw [hd] at hb
      exact Bool.noConfusion hb
    have hquote : ¬ (b = '"' ∨ b = '\'') := not_or.2 ⟨hne _ (by decide), hne _ (by decide)⟩
    rw [if_neg hquote, if_neg (hne '\x7b' (by decide))]
    simp [isBareChar, hb]

theorem read?_eq_none_iff {b c : Char} {s : List Char} (hb : isBlank b = true)
    (hc : isAsciiLetter c = true) :
    read? (b :: c :: s) = none ↔
      ∀ rest, (s.dropWhile isNameChar).dropWhile isBlank = '=' :: rest →
        delimited? (rest.dropWhile isBlank) = none := by
  rw [read?, hb, hc, Bool.and_self, if_pos rfl]
  split
  · rename_i rest heq
    simp [heq]
  · rename_i hother
    exact iff_of_true rfl fun rest hrest => absurd hrest (hother rest)

/-- Where no attribute is read, none is read with other names behind the first character. -/
theorem read?_renamed {b : Char} {s s' : List Char} (h : Renamed s s')
    (hnone : read? (b :: s) = none) : read? (b :: s') = none := by
  by_cases hb : isBlank b = true
  · cases h with
    | nil => exact hnone
    | name hc _ _ _ => exact read?_of_not_letter (isAsciiLetter_eq_false_of_isBlank hc) _
    | @copy c u u' h =>
      by_cases hc : isAsciiLetter c = true
      · rw [read?_eq_none_iff hb hc] at hnone ⊢
        intro rest' hrest'
        rcases h.dropWhile_isNameChar.dropWhile_isBlank with hsame | ⟨d, v, d', v', _, hv', _, hd'⟩
        · -- the equals sign stands in both texts, and what is behind it differs in names
          rw [hrest'] at hsame
          generalize hleft : (u.dropWhile isNameChar).dropWhile isBlank = w at hsame
          cases hsame with
          | copy _ hvalue =>
            have hvalue' := hnone _ hleft
            rcases hvalue.dropWhile_isBlank with hsame | ⟨d, v, d', v', hv, _, hd, _⟩
            · exact delimited?_renamed hsame hvalue'
            · exact absurd (hv ▸ hvalue') (delimited?_letter hd v)
          | name hblank _ _ _ => exact absurd hblank (by decide)
        · rw [hv'] at hrest'
          obtain ⟨rfl, _⟩ := List.cons.inj hrest'
          exact absurd hd' (by decide)
      · exact read?_of_not_letter (by simpa using hc) _
  · exact read?_of_not_blank (by simpa using hb) _

/-- A value with what stands behind it: of that, the value depends on the first character only. -/
inductive Delimited : List Char → List Char → Prop
  | quoted {q : Char} {x r : List Char} (hq : q = '"' ∨ q = '\'') (hx : q ∉ x) :
      Delimited (q :: (x ++ [q])) r
  | braced {x z r : List Char} (hx : '\x7d' ∉ x) (hz : ∀ c ∈ z, c = '\x7d')
      (hr : ∀ c ∈ r.head?, c ≠ '\x7d') :
      Delimited ('\x7b' :: (x ++ '\x7d' :: z)) r
  | bare {c : Char} {w r : List Char} (hc : isBareChar c = true)
      (hw : ∀ d ∈ w, isBareChar d = true) (hr : ∀ d ∈ r.head?, isBareChar d = false) :
      Delimited (c :: w) r

theorem Delimited.congr {v r r' : List Char} (h : Delimited v r) (hhead : r.head? = r'.head?) :
    Delimited v r' := by
  cases h with
  | quoted hq hx => exact .quoted hq hx
  | braced hx hz hr => exact .braced hx hz (hhead ▸ hr)
  | bare hc hw hr => exact .bare hc hw (hhead ▸ hr)

theorem Delimited.head {v r : List Char} (h : Delimited v r) :
    ∃ c w, v = c :: w ∧ isBlank c = false := by
  cases h with
  | @quoted q x r hq hx => exact ⟨q, x ++ [q], rfl, by rcases hq with rfl | rfl <;> decide⟩
  | @braced x z r hx hz hr => exact ⟨'\x7b', x ++ '\x7d' :: z, rfl, by decide⟩
  | @bare c w r hc hw hr =>
    refine ⟨c, w, rfl, ?_⟩
    simp only [isBareChar, Bool.not_eq_true', Bool.or_eq_false_iff] at hc
    exact hc.1.1.1.1.1

theorem Delimited.delimited? {v r : List Char} (h : Delimited v r) :
    Attribute.delimited? (v ++ r) = some v := by
  cases h with
  | @quoted q x r hq hx =>
    have htext : q :: (x ++ [q]) ++ r = q :: (x ++ q :: r) := by simp
    rw [htext, Attribute.delimited?, if_pos hq, if_pos (by simp), takeWhile_ne hx]
    rfl
  | @braced x z r hx hz hr =>
    have htext : '\x7b' :: (x ++ '\x7d' :: z) ++ r = '\x7b' :: (x ++ '\x7d' :: (z ++ r)) := by simp
    rw [htext, Attribute.delimited?, if_neg (by decide), if_pos rfl, if_pos (by simp),
      takeWhile_ne hx, dropWhile_ne hx, List.takeWhile_cons_of_pos (by decide),
      takeWhile_append_of_head (by simpa using hz) (by simpa using hr)]
    rfl
  | @bare c w r hc hw hr =>
    have hne : ∀ d, isBareChar d = false → c ≠ d := by
      rintro d hd rfl
      rw [hd] at hc
      exact Bool.noConfusion hc
    have hquote : ¬ (c = '"' ∨ c = '\'') := not_or.2 ⟨hne _ (by decide), hne _ (by decide)⟩
    rw [List.cons_append, Attribute.delimited?, if_neg hquote, if_neg (hne '\x7b' (by decide)),
      if_pos hc, takeWhile_append_of_head hw hr]

theorem exists_of_delimited? {s v : List Char} (h : delimited? s = some v) :
    ∃ r, s = v ++ r ∧ Delimited v r := by
  have hstop : ∀ (p : Char → Bool) (u : List Char), ∀ c ∈ (u.dropWhile p).head?, p c = false :=
    fun p u c hc => by simpa [Option.mem_def.1 hc] using List.head?_dropWhile_not p u
  cases s with
  | nil => exact absurd h (by simp [delimited?])
  | cons c s =>
    rw [delimited?] at h
    split_ifs at h with hquote hin hbrace hin hbare
    · obtain ⟨x, r, rfl, hx⟩ := List.eq_append_cons_of_mem (List.contains_iff_mem.1 hin)
      rw [takeWhile_ne hx] at h
      obtain rfl := Option.some.inj h
      exact ⟨r, by simp, .quoted hquote hx⟩
    · obtain ⟨x, r, rfl, hx⟩ := List.eq_append_cons_of_mem (List.contains_iff_mem.1 hin)
      rw [takeWhile_ne hx, dropWhile_ne hx, List.takeWhile_cons_of_pos (by decide)] at h
      obtain rfl := Option.some.inj h
      subst hbrace
      refine ⟨r.dropWhile (· = '\x7d'), by simp, .braced hx (fun c hc => ?_) fun c hc => ?_⟩
      · simpa using List.mem_takeWhile_imp hc
      · simpa using hstop _ r c hc
    · obtain rfl := Option.some.inj h
      exact ⟨s.dropWhile isBareChar, by simp, .bare hbare (fun c hc => List.mem_takeWhile_imp hc)
        (hstop _ s)⟩

/-- Of what an attribute that is read is made. -/
structure ReadBefore (a : Attribute) (s : List Char) : Prop where
  space : isBlank a.space = true
  name : isAttributeName a.name = true
  equals : ∃ g, Blank g ∧ a.equals = g ++ ['=']
  value : ∃ g v, Blank g ∧ a.value = g ++ v ∧ Delimited v s

theorem exists_of_read? {s : List Char} {a : Attribute} (h : Attribute.read? s = some a) :
    ∃ r, s = a.text ++ r ∧ a.ReadBefore r := by
  match s with
  | [] => exact absurd h (by simp [Attribute.read?])
  | [_] => exact absurd h (by simp [Attribute.read?])
  | b :: c :: s =>
    rw [Attribute.read?] at h
    split_ifs at h with hfront
    split at h
    · rename_i rest heq
      obtain ⟨v, hv, rfl⟩ := Option.map_eq_some_iff.1 h
      obtain ⟨r, hr, hdelimited⟩ := exists_of_delimited? hv
      rw [Bool.and_eq_true] at hfront
      have hname : ∀ d ∈ s.takeWhile isNameChar, isNameChar d = true := fun d hd =>
        List.mem_takeWhile_imp hd
      have hblank : ∀ u : List Char, Blank (u.takeWhile isBlank) := fun u d hd =>
        List.mem_takeWhile_imp hd
      refine ⟨r, ?_, hfront.1, ?_, ⟨_, hblank _, rfl⟩, ⟨_, v, hblank _, rfl, hdelimited⟩⟩
      · have hrest : rest.takeWhile isBlank ++ (v ++ r) = rest := by
          rw [← hr, List.takeWhile_append_dropWhile]
        have hequals : (s.dropWhile isNameChar).takeWhile isBlank ++ '=' :: rest =
            s.dropWhile isNameChar := by
          rw [← heq, List.takeWhile_append_dropWhile]
        have hs : s.takeWhile isNameChar ++ s.dropWhile isNameChar = s :=
          List.takeWhile_append_dropWhile
        calc b :: c :: s
            = b :: c :: (s.takeWhile isNameChar ++ ((s.dropWhile isNameChar).takeWhile isBlank ++
                '=' :: (rest.takeWhile isBlank ++ (v ++ r)))) := by rw [hrest, hequals, hs]
          _ = _ := by simp [Attribute.text]
      · simp only [isAttributeName, hfront.2, Bool.true_and, List.all_eq_true]
        exact hname
    · exact absurd h (by simp)

theorem ReadBefore.read? {a : Attribute} {s : List Char} (h : a.ReadBefore s) :
    Attribute.read? (a.text ++ s) = some a := by
  obtain ⟨b, name, equals, value⟩ := a
  obtain ⟨g, hg, rfl⟩ := h.equals
  obtain ⟨g', v, hg', rfl, hv⟩ := h.value
  obtain ⟨d, w, hhead, hd⟩ := hv.head
  cases name with
  | nil => exact absurd h.name (by simp [isAttributeName])
  | cons c n =>
    have hb : isBlank b = true := h.space
    have hname := h.name
    simp only [isAttributeName, Bool.and_eq_true, List.all_eq_true] at hname
    have hequals : ∀ r : List Char, ∀ e ∈ (g ++ '=' :: r).head?, isNameChar e = false := by
      intro r e he
      cases g with
      | nil =>
        obtain rfl : '=' = e := by simpa using he
        decide
      | cons e' g =>
        obtain rfl : e' = e := by simpa using he
        have hblank := hg e' List.mem_cons_self
        rw [← Bool.not_eq_true]
        intro hchar
        rw [isBlank_eq_false_of_isNameChar hchar] at hblank
        exact Bool.noConfusion hblank
    have hstop : ∀ r : List Char, ∀ e ∈ ('=' :: r).head?, isBlank e = false := fun r e he => by
      obtain rfl : '=' = e := by simpa using he
      decide
    have hvalue : ∀ e ∈ (v ++ s).head?, isBlank e = false := fun e he => by
      obtain rfl : d = e := by simpa [hhead] using he
      exact hd
    have htext : Attribute.text ⟨b, c :: n, g ++ ['='], g' ++ v⟩ ++ s =
        b :: c :: (n ++ (g ++ '=' :: (g' ++ (v ++ s)))) := by simp [Attribute.text]
    rw [htext, Attribute.read?, hb, hname.1, Bool.and_self, if_pos rfl,
      dropWhile_append_of_head hname.2 (hequals _), dropWhile_append_of_head hg (hstop _),
      takeWhile_append_of_head hname.2 (hequals _), takeWhile_append_of_head hg (hstop _)]
    simp only [dropWhile_append_of_head hg' hvalue, takeWhile_append_of_head hg' hvalue,
      hv.delimited?, Option.map_some]

theorem ReadBefore.renamed {a : Attribute} {s s' : List Char} (h : a.ReadBefore s)
    {g : List Char → List Char} (hg : isAttributeName (g a.name) = true)
    (hhead : s.head? = s'.head?) : (a.rename g).ReadBefore s' where
  space := h.space
  name := hg
  equals := h.equals
  value := by
    obtain ⟨gap, v, hgap, hvalue, hv⟩ := h.value
    exact ⟨gap, v, hgap, hvalue, hv.congr hhead⟩

theorem text_ne_nil (a : Attribute) : a.text ≠ [] := by simp [text]

end Attribute

/-! ## Names in a tag -/

section
variable {f g : List Char → List Char}
  (hg : ∀ n, isAttributeName n = true → isAttributeName (g n) = true)

/-- Induction along the attributes that are read in a text. -/
theorem attribute_induction {P : List Char → Prop} (nil : P [])
    (passed : ∀ c s, Attribute.read? (c :: s) = none → P s → P (c :: s))
    (found : ∀ (a : Attribute) s, a.ReadBefore s → P s → P (a.text ++ s)) (s : List Char) :
    P s := by
  refine scan_induction Attribute.read? Attribute.text
    (fun s a h => ?_) nil passed (fun a s h hs => ?_) s
  · obtain ⟨r, hsplit, _⟩ := Attribute.exists_of_read? h
    exact ⟨r, hsplit, a.text_ne_nil⟩
  · obtain ⟨r, hsplit, hr⟩ := Attribute.exists_of_read? h
    obtain rfl := List.append_cancel_left hsplit
    exact found a s hr hs

include hg

theorem Attribute.ReadBefore.renamed_text {a : Attribute} {s s' : List Char} (h : a.ReadBefore s)
    (hs : Renamed s s') : Renamed (a.text ++ s) ((a.rename g).text ++ s') := by
  obtain ⟨gap, hgap, hequals⟩ := h.equals
  obtain ⟨c, r, hcons⟩ : ∃ c r, a.equals = c :: r := by
    cases gap with
    | nil => exact ⟨'=', [], hequals⟩
    | cons c gap => exact ⟨c, gap ++ ['='], hequals⟩
  have hrest := (Renamed.refl (r ++ a.value)).append hs
  have hall := Renamed.name (c := c) h.space h.name (hg _ h.name) hrest
  simpa [Attribute.text, Attribute.rename, hcons] using hall

theorem renamed_renameInTag (s : List Char) : Renamed s (renameInTag g s) := by
  induction s using attribute_induction with
  | nil => exact .nil
  | passed c s hnone ih =>
    rw [renameInTag_of_none hnone]
    exact ih.copy c
  | found a s ha ih =>
    rw [renameInTag_of_some ha.read? rfl]
    exact ha.renamed_text hg ih

theorem renameInTag_renameInTag (s : List Char) :
    renameInTag f (renameInTag g s) = renameInTag (f ∘ g) s := by
  induction s using attribute_induction with
  | nil => rfl
  | passed c s hnone ih =>
    have hagain := Attribute.read?_renamed (renamed_renameInTag hg s) hnone
    rw [renameInTag_of_none hnone, renameInTag_of_none hagain, renameInTag_of_none hnone, ih]
  | found a s ha ih =>
    have hagain := ha.renamed (hg _ ha.name) (renamed_renameInTag hg s).head?_eq
    rw [renameInTag_of_some ha.read? rfl, renameInTag_of_some hagain.read? rfl,
      renameInTag_of_some ha.read? rfl, ih]
    rfl

end

/-! ## Tags read again -/

def isTagMark (c : Char) : Bool := c = '<' || c = '>' || c = '"' || c = '\''

theorem isTagMark_of_isNameChar {c : Char} (h : Attribute.isNameChar c = true) :
    isTagMark c = false := by
  rw [← Bool.not_eq_true]
  intro hmark
  simp only [isTagMark, Bool.or_eq_true, decide_eq_true_eq] at hmark
  rcases hmark with ((rfl | rfl) | rfl) | rfl <;> exact absurd h (by decide)

/-- The scan for the end of a tag takes note of nothing but brackets and quotes. -/
theorem tagEnd?_of_not_mark {q : Option Char} (hq : ∀ c ∈ q, isTagMark c = true) {c : Char}
    (hc : ¬ isTagMark c = true) (s : List Char) : tagEnd? q (c :: s) = (tagEnd? q s).map (· + 1) := by
  cases q with
  | none =>
    simp only [isTagMark, Bool.or_eq_true, decide_eq_true_eq, not_or] at hc
    rw [tagEnd?, if_neg hc.1.1.2, if_neg hc.1.1.1, if_neg (not_or.2 ⟨hc.1.2, hc.2⟩)]
  | some k =>
    have hne : c ≠ k := by
      rintro rfl
      exact hc (hq c rfl)
    rw [tagEnd?, if_neg hne]

theorem tagEnd?_filter {q : Option Char} (hq : ∀ c ∈ q, isTagMark c = true) (s : List Char) :
    tagEnd? q (s.filter isTagMark) =
      (tagEnd? q s).map fun n => ((s.take n).filter isTagMark).length := by
  induction s generalizing q with
  | nil => cases q <;> rfl
  | cons c s ih =>
    by_cases hc : isTagMark c = true
    · have hstep : ∀ k : Option Char, (∀ d ∈ k, isTagMark d = true) →
          (tagEnd? k (s.filter isTagMark)).map (· + 1) =
            ((tagEnd? k s).map (· + 1)).map fun n =>
              (((c :: s).take n).filter isTagMark).length := by
        intro k hk
        rw [ih hk, Option.map_map, Option.map_map]
        congr 1
        funext n
        simp [hc]
      rw [List.filter_cons_of_pos hc]
      cases q with
      | none =>
        rw [tagEnd?, tagEnd?]
        split_ifs with hclose hopen hquote
        · simp [hc]
        · rfl
        · exact hstep (some c) (by simp [hc])
        · exact hstep none (by simp)
      | some k =>
        rw [tagEnd?, tagEnd?]
        split_ifs with hsame
        · exact hstep none (by simp)
        · exact hstep (some k) hq
    · rw [List.filter_cons_of_neg hc, ih hq, tagEnd?_of_not_mark hq hc, Option.map_map]
      congr 1
      funext n
      simp [hc]

theorem exists_of_tagEnd? {q : Option Char} {s : List Char} {n : Nat} (h : tagEnd? q s = some n) :
    ∃ a r, s = a ++ '>' :: r ∧ n = a.length + 1 ∧
      ∀ r', tagEnd? q (a ++ '>' :: r') = some (a.length + 1) := by
  induction s generalizing q n with
  | nil => exact absurd h (by cases q <;> simp [tagEnd?])
  | cons c s ih =>
    have hlater : ∀ {k}, (∀ u, tagEnd? q (c :: u) = (tagEnd? k u).map (· + 1)) →
        ∃ a r, c :: s = a ++ '>' :: r ∧ n = a.length + 1 ∧
          ∀ r', tagEnd? q (a ++ '>' :: r') = some (a.length + 1) := by
      intro k hk
      rw [hk] at h
      obtain ⟨m, hm, rfl⟩ := Option.map_eq_some_iff.1 h
      obtain ⟨a, r, rfl, rfl, hall⟩ := ih hm
      exact ⟨c :: a, r, rfl, rfl, fun r' => by rw [List.cons_append, hk, hall]; rfl⟩
    cases q with
    | none =>
      by_cases hclose : c = '>'
      · subst hclose
        obtain rfl : 1 = n := by simpa [tagEnd?] using h
        exact ⟨[], s, rfl, rfl, fun r' => by simp [tagEnd?]⟩
      · by_cases hopen : c = '<'
        · exact absurd h (by simp [tagEnd?, hopen])
        · exact hlater fun u => by rw [tagEnd?, if_neg hclose, if_neg hopen]
    | some k => exact hlater fun u => by rw [tagEnd?]

/-- The text is read as one tag, whatever stands behind it. -/
def IsTag (t : List Char) : Prop := t ≠ [] ∧ ∀ r, tagLength? (t ++ r) = some t.length

theorem tagLength?_letter {c : Char} (hc : isAsciiLetter c = true) (s : List Char) :
    tagLength? ('<' :: c :: s) = (tagEnd? none s).map (· + 2) := by
  rw [tagLength?, if_pos hc]

theorem isTag_of_tagEnd? {c : Char} {x : List Char} (hc : isAsciiLetter c = true)
    (hx : tagEnd? none x = some x.length) : IsTag ('<' :: c :: x) := by
  obtain ⟨a, r, hsplit, hlength, hall⟩ := exists_of_tagEnd? hx
  -- the end of the tag is the end of the text, so it does not depend on what follows
  obtain rfl : r = [] := by
    have hsum := congrArg List.length hsplit
    rw [List.length_append, List.length_cons, hlength] at hsum
    exact List.length_eq_zero_iff.1 (by omega)
  refine ⟨by simp, fun r => ?_⟩
  have hend := hall r
  rw [← hlength] at hend
  rw [List.cons_append, List.cons_append, tagLength?_letter hc, hsplit, List.append_assoc,
    List.singleton_append, hend, ← hsplit]
  rfl

theorem exists_of_tagLength? {s : List Char} {n : Nat} (h : tagLength? s = some n) :
    ∃ c x r, s = '<' :: c :: x ++ r ∧ isAsciiLetter c = true ∧ n = x.length + 2 ∧
      tagEnd? none x = some x.length := by
  unfold tagLength? at h
  split at h
  · rename_i c s
    split_ifs at h with hc
    obtain ⟨m, hm, rfl⟩ := Option.map_eq_some_iff.1 h
    obtain ⟨a, r, rfl, rfl, hall⟩ := exists_of_tagEnd? hm
    exact ⟨c, a ++ ['>'], r, by simp, hc, by simp, by simpa using hall []⟩
  · exact absurd h (by simp)

/-- A tag with other names ends where it ended. -/
theorem Renamed.tagEnd?_eq {x x' : List Char} (h : Renamed x x')
    (hx : tagEnd? none x = some x.length) : tagEnd? none x' = some x'.length := by
  have hsame := h.filter_eq fun _ => isTagMark_of_isNameChar
  have hmarks := tagEnd?_filter (q := none) (by simp) x
  rw [hx, Option.map_some, List.take_length, hsame, tagEnd?_filter (by simp)] at hmarks
  obtain ⟨n, hn, hlength⟩ := Option.map_eq_some_iff.1 hmarks
  obtain ⟨a, r, hsplit, hlast, _⟩ := exists_of_tagEnd? hx
  obtain ⟨a', r', hsplit', hlast', _⟩ := exists_of_tagEnd? hn
  -- no mark stands behind the end that is found, so it is the last character
  have hfront : x'.take n = a' ++ ['>'] := by
    rw [hsplit', hlast', show a' ++ '>' :: r' = a' ++ ['>'] ++ r' by simp]
    exact List.take_left' (by simp)
  have hnone : r'.filter isTagMark = [] := by
    rw [hfront, hsplit', show a' ++ '>' :: r' = a' ++ ['>'] ++ r' by simp, List.filter_append _ r',
      List.length_append] at hlength
    exact List.length_eq_zero_iff.1 (by omega)
  have hend : x'.getLast? = some '>' := by
    obtain rfl : r = [] := by
      have hsum := congrArg List.length hsplit
      rw [List.length_append, List.length_cons, hlast] at hsum
      exact List.length_eq_zero_iff.1 (by omega)
    rw [← h.getLast?_eq, hsplit, List.getLast?_append]
    rfl
  obtain rfl : r' = [] := by
    rw [hsplit', show a' ++ '>' :: r' = a' ++ ['>'] ++ r' by simp, List.getLast?_append] at hend
    cases hr : r'.getLast? with
    | none => exact List.getLast?_eq_none_iff.1 hr
    | some d =>
      rw [hr, Option.some_or] at hend
      obtain rfl := Option.some.inj hend
      exact absurd (List.filter_eq_nil_iff.1 hnone '>' (List.mem_of_getLast? hr)) (by decide)
  rw [hn, hlast', hsplit']
  simp

theorem tagLength?_renamed {c : Char} {s s' : List Char} (h : Renamed s s')
    (hnone : tagLength? (c :: s) = none) : tagLength? (c :: s') = none := by
  by_cases hopen : c = '<'
  · subst hopen
    cases h with
    | nil => exact hnone
    | @name b _ _ _ _ _ hb _ _ _ =>
      rw [tagLength?, if_neg (by simp [isAsciiLetter_eq_false_of_isBlank hb])]
    | @copy d u u' h =>
      by_cases hd : isAsciiLetter d = true
      · have hsame := h.filter_eq fun _ => isTagMark_of_isNameChar
        have hmarks := tagEnd?_filter (q := none) (by simp) u
        rw [tagLength?_letter hd, Option.map_eq_none_iff] at hnone ⊢
        rw [hnone, hsame, tagEnd?_filter (by simp)] at hmarks
        exact Option.map_eq_none_iff.1 hmarks
      · rw [tagLength?, if_neg hd]
  · exact Stretch.tagLength?_of_ne hopen s'

/-! ## Names in the tags of a text -/

/-- Induction along the tags that are read in a text. -/
theorem tag_induction {P : List Char → Prop} (nil : P [])
    (passed : ∀ c s, tagLength? (c :: s) = none → P s → P (c :: s))
    (found : ∀ c x s, isAsciiLetter c = true → tagEnd? none x = some x.length → P s →
      P ('<' :: c :: x ++ s)) (s : List Char) : P s := by
  refine scan_induction (fun s => (tagLength? s).map fun n => s.take n) id
    (fun s t h => ?_) nil (fun c s h hs => passed c s (Option.map_eq_none_iff.1 h) hs)
    (fun t s h hs => ?_) s
  · obtain ⟨n, hn, rfl⟩ := Option.map_eq_some_iff.1 h
    obtain ⟨c, x, r, rfl, _, rfl, _⟩ := exists_of_tagLength? hn
    exact ⟨r, by simp, by simp⟩
  · obtain ⟨n, hn, ht⟩ := Option.map_eq_some_iff.1 h
    obtain ⟨c, x, r, hsplit, hc, rfl, hx⟩ := exists_of_tagLength? hn
    have hfront : t = '<' :: c :: x := by
      rw [← ht, hsplit]
      exact List.take_left' (by simp)
    obtain rfl : s = r := by
      rw [hfront] at hsplit
      exact List.append_cancel_left hsplit
    rw [id, hfront]
    exact found c x s hc hx hs

section
variable {f g : List Char → List Char}

theorem renameAttributes_of_none {c : Char} {s : List Char} (h : tagLength? (c :: s) = none) :
    renameAttributes f (c :: s) = c :: renameAttributes f s := by
  unfold renameAttributes mapTags
  exact rewrite_of_none (by rw [h, Option.map_none])

theorem IsTag.turns_renameAttributes {t : List Char} (h : IsTag t) :
    Turns (renameAttributes f) t (renameInTag f t) :=
  turns_rewrite_match h.1 fun rest => by rw [h.2, Option.map_some, List.take_left]

variable (hg : ∀ n, isAttributeName n = true → isAttributeName (g n) = true)

include hg

theorem isTag_renameInTag {c : Char} {x : List Char} (hc : isAsciiLetter c = true)
    (hx : tagEnd? none x = some x.length) : IsTag (renameInTag g ('<' :: c :: x)) := by
  have hsolid := isBlank_eq_false_of_isNameChar (isNameChar_of_isAsciiLetter hc)
  have hfront : renameInTag g ('<' :: c :: x) = '<' :: c :: renameInTag g x := by
    have hcopy := (turns_renameInTag_char (f := g) (c := '<') (by decide)).append
      (turns_renameInTag_char hsolid)
    exact hcopy x
  rw [hfront]
  exact isTag_of_tagEnd? hc ((renamed_renameInTag hg x).tagEnd?_eq hx)

theorem renamed_renameAttributes (s : List Char) : Renamed s (renameAttributes g s) := by
  induction s using tag_induction with
  | nil => exact .nil
  | passed c s hnone ih =>
    rw [renameAttributes_of_none hnone]
    exact ih.copy c
  | found c x s hc hx ih =>
    rw [(isTag_of_tagEnd? hc hx).turns_renameAttributes]
    exact (renamed_renameInTag hg _).append ih

theorem renameAttributes_renameAttributes (s : List Char) :
    renameAttributes f (renameAttributes g s) = renameAttributes (f ∘ g) s := by
  induction s using tag_induction with
  | nil => rfl
  | passed c s hnone ih =>
    have hagain := tagLength?_renamed (renamed_renameAttributes hg s) hnone
    rw [renameAttributes_of_none hnone, renameAttributes_of_none hagain,
      renameAttributes_of_none hnone, ih]
  | found c x s hc hx ih =>
    have htag := isTag_of_tagEnd? hc hx
    rw [htag.turns_renameAttributes, (isTag_renameInTag hg hc hx).turns_renameAttributes,
      htag.turns_renameAttributes, renameInTag_renameInTag hg, ih]

end

/-! ## Two renamings in one -/

theorem propertyName_propertyName (n : List Char) :
    propertyName (propertyName n) = propertyName n := by
  unfold propertyName
  by_cases hn : n = "class".toList
  · rw [if_pos hn]
    decide
  · rw [if_neg hn, if_neg fun h => hn (eq_of_camelize (by decide) h), camelize_camelize]

/-- On any text, renaming attributes twice is renaming them once through both functions, as long as
the first leaves the scan names to read.  So making properties of the names is done with once, and
takes `class` to where it would have gone alone. -/
theorem renameAttributes_comp :
    (∀ f g : List Char → List Char,
      (∀ n, isAttributeName n = true → isAttributeName (g n) = true) →
      ∀ s, renameAttributes f (renameAttributes g s) = renameAttributes (f ∘ g) s) ∧
    (∀ s, renameToProperties (renameClass s) = renameToProperties s) ∧
    (∀ s, renameToProperties (renameToProperties s) = renameToProperties s) := by
  refine ⟨fun f g hg s => renameAttributes_renameAttributes hg s, fun s => ?_, fun s => ?_⟩
  · have hclass : propertyName ∘ classToProperty = propertyName :=
      funext propertyName_classToProperty
    calc renameToProperties (renameClass s)
        = renameAttributes (propertyName ∘ classToProperty) s :=
          renameAttributes_renameAttributes (fun _ => Stretch.isAttributeName_classToProperty) s
      _ = renameToProperties s := by rw [hclass, renameToProperties]
  · have hproperty : propertyName ∘ propertyName = propertyName :=
      funext propertyName_propertyName
    calc renameToProperties (renameToProperties s)
        = renameAttributes (propertyName ∘ propertyName) s :=
          renameAttributes_renameAttributes (fun _ => isAttributeName_propertyName) s
      _ = renameToProperties s := by rw [hproperty, renameToProperties]

/-- Tags in an open quotation, and attributes in a tag that does not end. -/
def unbalanced : List Char :=
  "<a b-c='<i d-e=\x7b1\x7d\x7d f-g=\x7b> h-i=1>'> <j k-l=\"m < n-o='p' <q r-s=1/>".toList

theorem renameAttributes_comp_unbalanced :
    (∀ n, isAttributeName n = true → isAttributeName ('x' :: n) = true) ∧
      renameAttributes propertyName (renameAttributes (List.cons 'x') unbalanced) =
        renameAttributes (propertyName ∘ List.cons 'x') unbalanced ∧
      renameAttributes (propertyName ∘ List.cons 'x') unbalanced =
        "<a xbC='<i d-e=\x7b1\x7d\x7d f-g=\x7b> h-i=1>'> <j k-l=\"m < n-o='p' <q xrS=1/>".toList := by
  have hname : ∀ n, isAttributeName n = true → isAttributeName ('x' :: n) = true := by
    intro n hn
    have hall := fun c hc => isNameChar_of_mem_attributeName (c := c) hn hc
    simpa [isAttributeName, isAsciiLetter] using hall
  refine ⟨hname, renameAttributes_comp.1 propertyName (List.cons 'x') hname _, ?_⟩
  decide +kernel

end Markup
end SvgIcon
