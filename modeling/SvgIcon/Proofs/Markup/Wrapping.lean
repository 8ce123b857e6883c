import SvgIcon.Proofs.Markup.Unwrapping

/-!
Names on the way into a component, on stretches without expressions.  A tag is found where it starts
with a letter, and its attributes are found by what the pattern takes for a name; those that it does
not find keep their names.
-/

namespace SvgIcon
namespace Markup

open Text

/-! ## Reading attributes -/

theorem dropWhile_append_stop {p : Char → Bool} {c : Char} (hc : p c = false)
    (a rest : List Char) : (a ++ c :: rest).dropWhile p = a.dropWhile p ++ c :: rest := by
  induction a with
  | nil => rw [List.nil_append, List.dropWhile_cons_of_neg (by simp [hc])]; rfl
  | cons d a ih =>
    rw [List.cons_append, List.dropWhile_cons, List.dropWhile_cons, ih]
    split <;> rfl

theorem isNameChar_of_isAsciiLetter {c : Char} (h : isAsciiLetter c = true) :
    Attribute.isNameChar c = true := by
  simp [Attribute.isNameChar, isWord_of_isAsciiLetter h]

theorem isAsciiLetter_eq_false_of_isBlank {c : Char} (h : isBlank c = true) :
    isAsciiLetter c = false := by
  rw [← Bool.not_eq_true]
  intro hc
  rw [isBlank_eq_false_of_isNameChar (isNameChar_of_isAsciiLetter hc)] at h
  exact Bool.noConfusion h

/-- No attribute is read where a character that belongs neither to a name nor to the blanks comes
before any equals sign. -/
theorem read?_of_stop {u : List Char} {c : Char} (hu : '=' ∉ u)
    (hname : Attribute.isNameChar c = false) (hblank : isBlank c = false) (hc : c ≠ '=')
    (rest : List Char) : Attribute.read? (u ++ c :: rest) = none := by
  have hletter : isAsciiLetter c = false := by
    rw [← Bool.not_eq_true]
    intro hc
    rw [isNameChar_of_isAsciiLetter hc] at hname
    exact Bool.noConfusion hname
  match u with
  | [] => exact read?_of_not_blank hblank rest
  | [b] => exact read?_of_not_letter hletter rest
  | b :: d :: u =>
    have hsub : ∀ e ∈ (u.dropWhile Attribute.isNameChar).dropWhile isBlank, e ≠ '=' := by
      rintro e he rfl
      exact hu (by simp [(List.dropWhile_sublist _).subset ((List.dropWhile_sublist _).subset he)])
    rw [List.cons_append, List.cons_append, Attribute.read?, dropWhile_append_stop hname,
      dropWhile_append_stop hblank]
    split
    · split
      · rename_i r heq
        cases hrest : (u.dropWhile Attribute.isNameChar).dropWhile isBlank with
        | nil =>
          rw [hrest] at heq
          exact absurd (List.cons.inj heq).1 hc
        | cons e v =>
          rw [hrest] at heq hsub
          exact absurd (List.cons.inj heq).1 (hsub e List.mem_cons_self)
      · rfl
    · rfl

section
variable {f : List Char → List Char}

theorem turns_renameInTag_char {c : Char} (hc : isBlank c = false) :
    Turns (renameInTag f) [c] [c] :=
  turns_rewrite_char fun s => by rw [read?_of_not_blank hc, Option.map_none]

theorem renameInTag_of_none {c : Char} {s : List Char} (h : Attribute.read? (c :: s) = none) :
    renameInTag f (c :: s) = c :: renameInTag f s :=
  rewrite_of_none (by rw [h, Option.map_none])

theorem renameInTag_of_some {a : Attribute} {s r : List Char} (h : Attribute.read? s = some a)
    (hs : s = a.text ++ r) : renameInTag f s = (a.rename f).text ++ renameInTag f r := by
  have hfind : (Attribute.read? s).map (fun a => (a.text.length, (a.rename f).text)) =
      some ((a.name ++ a.equals ++ a.value).length + 1, (a.rename f).text) := by
    rw [h]
    rfl
  have hdrop : s.drop ((a.name ++ a.equals ++ a.value).length + 1) = r := by
    rw [hs]
    exact List.drop_left' rfl
  rw [renameInTag, rewrite_of_some hfind (by simp [hs, Attribute.text]), hdrop]

/-- Blanks in front of something that is no letter are copied. -/
theorem renameInTag_gap {g : List Char} {c : Char} (hg : Blank g) (hc : isAsciiLetter c = false)
    (s : List Char) : renameInTag f (g ++ c :: s) = g ++ renameInTag f (c :: s) := by
  induction g with
  | nil => rfl
  | cons b g ih =>
    have hrest := ih fun d hd => hg d (List.mem_cons_of_mem b hd)
    have hnone : Attribute.read? (b :: (g ++ c :: s)) = none := by
      cases g with
      | nil => exact read?_of_not_letter hc s
      | cons d g =>
        have hd : isAsciiLetter d = false := isAsciiLetter_eq_false_of_isBlank (hg d (by simp))
        exact read?_of_not_letter hd (g ++ c :: s)
    rw [List.cons_append, renameInTag_of_none hnone, hrest, List.cons_append]

theorem renameInTag_value {s : Spelling} (h : s.WellFormed) (rest : List Char) :
    renameInTag f (s.text ++ rest) = s.text ++ renameInTag f rest := by
  obtain ⟨x, c, htext, hc⟩ := Spelling.exists_text_concat s
  have hmark : c ∈ marks ∧ c ≠ '=' := by
    simp only [Spelling.enclosers, List.mem_cons, List.not_mem_nil, or_false] at hc
    rcases hc with rfl | rfl | rfl | rfl <;> decide
  obtain ⟨hblank, hname⟩ := solid_of_mem_marks hmark.1
  have heq : '=' ∉ x := fun hmem => by
    have hnot : '=' ∉ s.text := Spelling.notMem_text h (by decide)
    rw [htext] at hnot
    exact hnot (List.mem_append_left _ hmem)
  rw [htext]
  clear htext
  induction x with
  | nil => exact turns_renameInTag_char hblank rest
  | cons d x ih =>
    have hnone : Attribute.read? (d :: (x ++ [c] ++ rest)) = none := by
      have hread := read?_of_stop (u := d :: x) heq hname hblank hmark.2 rest
      simpa using hread
    rw [List.cons_append, List.cons_append, renameInTag_of_none hnone,
      ih fun hmem => heq (List.mem_cons_of_mem d hmem)]
    rfl

theorem read?_of_not_attributeName {a : Spelled} (h : a.WellFormed) {b : Char}
    (hb : isBlank b = true) (hn : ¬ isAttributeName a.name = true) (rest : List Char) :
    Attribute.read? (b :: (a.name ++ '=' :: rest)) = none := by
  obtain ⟨d, n, hname⟩ := List.exists_cons_of_ne_nil h.named
  by_cases hd : isAsciiLetter d = true
  · obtain ⟨e, he, hchar⟩ : ∃ e ∈ n, Attribute.isNameChar e = false := by
      simpa [hname, isAttributeName, hd] using hn
    have hmem : e ∈ a.name := by simp [hname, he]
    obtain ⟨n₁, n₂, rfl⟩ := List.append_of_mem he
    have hnot : ∀ c ∈ a.name, c ≠ '=' := fun c hc heq => h.name '=' (by decide) (heq ▸ hc)
    have hequals : '=' ∉ b :: d :: n₁ := by
      intro hin
      rcases List.mem_cons.1 hin with rfl | hin
      · exact absurd hb (by decide)
      · refine hnot '=' ?_ rfl
        rw [hname, ← List.cons_append]
        exact List.mem_append_left _ hin
    have hread := read?_of_stop hequals hchar (h.unspaced e hmem) (hnot e hmem) (n₂ ++ '=' :: rest)
    rw [hname]
    simpa using hread
  · rw [hname]
    exact read?_of_not_letter (by simpa using hd) _

/-! ## Renaming -/

theorem delimited?_text {s : Spelling} (h : s.WellFormed) (hplain : s.isPlain = true) {c : Char}
    (hc : isNameEnd c = true) (rest : List Char) :
    Attribute.delimited? (s.text ++ c :: rest) = some s.text := by
  cases s with
  | number ds => exact absurd hplain (by simp [Spelling.isPlain])
  | expression q v => exact absurd hplain (by simp [Spelling.isPlain])
  | quoted v =>
    have hread := delimited?_quote (h '"' (by decide)) (c :: rest)
    simpa [Spelling.text, Spelling.front, Spelling.inner, Spelling.back] using hread
  | literal b =>
    have hclose : '\x7d' ∉ '\x7b' :: b := by
      have hb := h.1 '\x7d' (by decide)
      simpa using hb
    have hne : ¬ decide (c = '\x7d') = true := by
      simp only [decide_eq_true_eq]
      rintro rfl
      exact absurd hc (by decide)
    have htext : (Spelling.literal b).text ++ c :: rest =
        '\x7b' :: ('\x7b' :: b ++ '\x7d' :: '\x7d' :: c :: rest) := by
      simp [Spelling.text, Spelling.front, Spelling.inner, Spelling.back]
    rw [htext, Attribute.delimited?, if_neg (by decide), if_pos rfl, if_pos (by simp),
      takeWhile_ne hclose, dropWhile_ne hclose, List.takeWhile_cons_of_pos (by decide),
      List.takeWhile_cons_of_pos (by decide),
      List.takeWhile_cons_of_neg (p := fun d => decide (d = '\x7d')) hne]
    simp [Spelling.text, Spelling.front, Spelling.inner, Spelling.back]

theorem Spelling.exists_text_cons (s : Spelling) :
    ∃ c x, s.text = c :: x ∧ c ∈ enclosers := by
  cases s with
  | quoted v => exact ⟨'"', v ++ ['"'], rfl, by decide⟩
  | number ds => exact ⟨'\x7b', ds ++ ['\x7d'], rfl, by decide⟩
  | expression q v => exact ⟨'\x7b', q :: (v ++ [q, '\x7d']), rfl, by decide⟩
  | literal b => exact ⟨'\x7b', '\x7b' :: (b ++ ['\x7d', '\x7d']), rfl, by decide⟩

theorem read?_spelled {b : Char} {n : List Char} {s : Spelling} (hb : isBlank b = true)
    (hn : isAttributeName n = true) (h : s.WellFormed) (hplain : s.isPlain = true) {c : Char}
    (hc : isNameEnd c = true) (rest : List Char) :
    Attribute.read? (b :: (n ++ '=' :: (s.text ++ c :: rest))) =
      some { space := b, name := n, equals := ['='], value := s.text } := by
  obtain ⟨e, x, htext, he⟩ := Spelling.exists_text_cons s
  have hsolid := (Spelling.solid_of_mem_enclosers he).1
  have hdelimited := delimited?_text h hplain hc rest
  rw [htext] at hdelimited ⊢
  cases n with
  | nil => exact absurd hn (by decide)
  | cons d n =>
    simp only [isAttributeName, Bool.and_eq_true, List.all_eq_true] at hn
    obtain ⟨hd, hn⟩ := hn
    have htake : ∀ r, (n ++ '=' :: r).takeWhile Attribute.isNameChar = n := fun r => by
      rw [List.takeWhile_append_of_pos hn, List.takeWhile_cons_of_neg (by decide), List.append_nil]
    have hdrop : ∀ r, (n ++ '=' :: r).dropWhile Attribute.isNameChar = '=' :: r := fun r => by
      rw [List.dropWhile_append_of_pos hn, List.dropWhile_cons_of_neg (by decide)]
    have hequals : isBlank '=' = false := by decide
    simp only [List.cons_append] at hdelimited ⊢
    simp only [Attribute.read?, hb, hd, Bool.and_self, if_true, hdrop, htake, List.dropWhile_cons,
      List.takeWhile_cons, hequals, hsolid, Bool.false_eq_true, if_false, hdelimited]
    rfl

theorem renameInTag_spelled {a : Spelled} (h : a.WellFormed) (hplain : a.value.isPlain = true)
    {c : Char} (hc : isNameEnd c = true) (rest : List Char) :
    renameInTag f (a.text ++ c :: rest) =
      (a.rename (readName f)).text ++ renameInTag f (c :: rest) := by
  obtain ⟨g, b, hgap⟩ : ∃ g b, a.gap = g ++ [b] := ⟨_, _, (List.dropLast_concat_getLast h.spaced).symm⟩
  have hblank : Blank g ∧ isBlank b = true := by
    have hall := h.gap
    rw [hgap] at hall
    exact ⟨fun d hd => hall d (List.mem_append_left _ hd), hall b (by simp)⟩
  have hb : isAsciiLetter b = false := isAsciiLetter_eq_false_of_isBlank hblank.2
  have htext : a.text ++ c :: rest =
      g ++ b :: (a.name ++ '=' :: (a.value.text ++ c :: rest)) := by
    simp [Spelled.text, hgap]
  rw [htext, renameInTag_gap hblank.1 hb]
  by_cases hn : isAttributeName a.name = true
  · have hread := read?_spelled hblank.2 hn h.value hplain hc rest
    have hname : readName f a.name = f a.name := if_pos hn
    rw [renameInTag_of_some hread (r := c :: rest) (by simp [Attribute.text])]
    simp [Spelled.text, Spelled.rename, hgap, Attribute.rename, Attribute.text, hname]
  · have hname : readName f a.name = a.name := if_neg hn
    have hnone := read?_of_not_attributeName h hblank.2 hn (a.value.text ++ c :: rest)
    have hcopy : Turns (renameInTag f) (a.name ++ ['=']) (a.name ++ ['=']) :=
      (Turns.copy fun d hd => turns_renameInTag_char (h.unspaced d hd)).append
        (turns_renameInTag_char (by decide))
    have hrest := hcopy (a.value.text ++ c :: rest)
    simp only [List.append_assoc, List.singleton_append] at hrest
    rw [renameInTag_of_none hnone, hrest, renameInTag_value h.value]
    simp [Spelled.text, Spelled.rename, hgap, hname]

/-! ## Tags -/

theorem renameInTag_attributes {as : List Spelled}
    (h : ∀ a ∈ as, a.WellFormed ∧ a.value.isPlain = true) {c : Char} (hc : isNameEnd c = true)
    (rest : List Char) :
    renameInTag f (as.flatMap Spelled.text ++ c :: rest) =
      (as.map (Spelled.rename (readName f))).flatMap Spelled.text ++ renameInTag f (c :: rest) := by
  induction as with
  | nil => rfl
  | cons a as ih =>
    have ha := h a List.mem_cons_self
    have hrest := ih fun d hd => h d (List.mem_cons_of_mem a hd)
    -- what follows an attribute is the blank of the next one, or the end
    obtain ⟨d, r, hcons, hd⟩ := Stretch.exists_cons_attributes
      (fun b hb => (h b (List.mem_cons_of_mem a hb)).1) hc rest
    rw [hcons] at hrest
    rw [List.flatMap_cons, List.append_assoc, hcons, renameInTag_spelled ha.1 ha.2 hd, hrest,
      List.map_cons, List.flatMap_cons, List.append_assoc]

end

/-- Quotes in even number leave the scan for the end of a tag where it was. -/
theorem tagEnd?_even {s : List Char} (h : Lacks ['<', '>', '"'] s) (rest : List Char) :
    tagEnd? (if s.count '\'' % 2 = 0 then none else some '\'') (s ++ rest) =
      (tagEnd? none rest).map (· + s.length) := by
  induction s with
  | nil => simp
  | cons c s ih =>
    have hrest := ih fun d hd hmem => h d hd (List.mem_cons_of_mem c hmem)
    have hc : c ≠ '<' ∧ c ≠ '>' ∧ c ≠ '"' := by
      refine ⟨?_, ?_, ?_⟩ <;> rintro rfl <;> exact h _ (by decide) List.mem_cons_self
    have hadd : ∀ o : Option Nat, (o.map (· + s.length)).map (· + 1) = o.map (· + (c :: s).length) := by
      intro o
      rw [Option.map_map]
      congr 1
    rw [← hadd, ← hrest, List.cons_append]
    by_cases hquote : c = '\''
    · subst hquote
      rw [List.count_cons_self]
      by_cases heven : s.count '\'' % 2 = 0
      · rw [if_pos heven, if_neg (by omega)]
        simp [tagEnd?]
      · rw [if_neg heven, if_pos (by omega)]
        simp [tagEnd?]
    · rw [List.count_cons_of_ne hquote]
      by_cases heven : s.count '\'' % 2 = 0
      · rw [if_pos heven]
        simp [tagEnd?, hc, hquote]
      · rw [if_neg heven]
        simp [tagEnd?, hquote]

theorem Spelling.inside_text {s : Spelling} (h : s.WellFormed) (hplain : s.isPlain = true) :
    Inside s.text := by
  cases s with
  | number ds => exact absurd hplain (by simp [isPlain])
  | expression q v => exact absurd hplain (by simp [isPlain])
  | quoted v =>
    have hquoted := Inside.quoted (h '"' (by decide))
    simpa [text, front, inner, back] using hquoted
  | literal b =>
    intro rest
    have hlacks : Lacks ['<', '>', '"'] (literal b).text := by
      intro c hc
      have hmark : c ∈ marks.erase '\'' ∧ c ≠ '\x7b' ∧ c ≠ '\x7d' := by
        simp only [List.mem_cons, List.not_mem_nil, or_false] at hc
        rcases hc with rfl | rfl | rfl <;> decide
      simp [text, front, inner, back, h.1 c hmark.1, hmark.2]
    have heven : (literal b).text.count '\'' % 2 = 0 := by
      simpa [text, front, inner, back] using h.2
    have hend := tagEnd?_even hlacks rest
    rwa [if_pos heven] at hend

theorem Spelled.inside_text {a : Spelled} (h : a.WellFormed) (hplain : a.value.isPlain = true) :
    Inside a.text := by
  have hmarks : ∀ c ∈ ['<', '>', '"', '\''], c ∈ marks ∧ c ≠ '=' := by decide
  have hgap : Inside a.gap := Inside.plain fun c hc =>
    h.gap.notMem (solid_of_mem_marks (hmarks c hc).1).1
  have hname : Inside a.name := Inside.plain fun c hc => h.name c (hmarks c hc).1
  exact hgap.append (hname.append
    ((Inside.char (c := '=') (by decide)).append (Spelling.inside_text h.value hplain)))

namespace Stretch

variable {u : Stretch}

/-- No attribute is written with an expression. -/
def IsPlain (u : Stretch) : Prop := ∀ a ∈ u.attributes, a.value.isPlain = true

theorem exists_of_isRead (h : u.isRead = true) :
    ∃ c n, u.name = c :: n ∧ isAsciiLetter c = true ∧ u.kind.front = [] := by
  simp only [isRead, Bool.and_eq_true, decide_eq_true_eq] at h
  cases hname : u.name with
  | nil => rw [hname] at h; exact absurd h.2 (by simp)
  | cons c n =>
    rw [hname] at h
    refine ⟨c, n, rfl, by simpa using h.2, ?_⟩
    cases hkind : u.kind with
    | closing => exact absurd hkind h.1
    | opening => rfl
    | closed => rfl

theorem WellFormed.inside_stop (h : u.WellFormed) : Inside u.stop := by
  have hback : Inside u.kind.back := by
    cases u.kind with
    | closed => exact Inside.char (by decide)
    | opening => exact Inside.nil
    | closing => exact Inside.nil
  have hmarks : ∀ c ∈ ['<', '>', '"', '\''], c ∈ marks := by decide
  exact (Inside.plain fun c hc => h.gap.notMem (solid_of_mem_marks (hmarks c hc)).1).append hback

theorem tagLength?_tag (h : u.WellFormed) (hplain : u.IsPlain) (hread : u.isRead = true)
    (rest : List Char) : tagLength? (u.tag ++ rest) = some u.tag.length := by
  obtain ⟨c, n, hname, hc, hfront⟩ := exists_of_isRead hread
  have hmarks : ∀ d ∈ ['<', '>', '"', '\''], d ∈ '/' :: marks := by decide
  have hn : Inside n := Inside.plain fun d hd hmem =>
    h.name.lacks d (hmarks d hd) (by simp [hname, hmem])
  have hattributes : Inside (u.attributes.flatMap Spelled.text) := Inside.flatMap fun a ha =>
    Spelled.inside_text (h.attributes a ha) (hplain a ha)
  have hinner := hn.append (hattributes.append h.inside_stop) ('>' :: rest)
  have hend : tagEnd? none ('>' :: rest) = some 1 := by simp [tagEnd?]
  have htag : u.tag ++ rest =
      '<' :: c :: (n ++ (u.attributes.flatMap Spelled.text ++ u.stop) ++ '>' :: rest) := by
    simp [tag, inside, hname, hfront]
  have hlength : u.tag.length =
      (n ++ (u.attributes.flatMap Spelled.text ++ u.stop)).length + 3 := by
    simp [tag, inside, hname, hfront]
    omega
  rw [hend, Option.map_some] at hinner
  rw [htag, tagLength?, if_pos hc, hinner, Option.map_some, hlength]
  congr 1
  omega

theorem tagLength?_unread (h : u.WellFormed) (hread : u.isRead = false) (rest : List Char) :
    tagLength? (u.tag ++ rest) = none := by
  obtain ⟨c, n, hname⟩ := h.exists_name
  obtain ⟨d, r, hinside, hd⟩ : ∃ d r, u.inside = d :: r ∧ ¬ isAsciiLetter d = true := by
    cases hkind : u.kind with
    | closing => exact ⟨'/', _, by rw [inside, hkind]; rfl, by decide⟩
    | opening =>
      exact ⟨c, _, by rw [inside, hkind, hname]; rfl, by simpa [isRead, hkind, hname] using hread⟩
    | closed =>
      exact ⟨c, _, by rw [inside, hkind, hname]; rfl, by simpa [isRead, hkind, hname] using hread⟩
  rw [tag, hinside]
  exact if_neg hd

/-- The stretch with the names of its attributes put through a function, where they are read. -/
def renamed (f : List Char → List Char) (u : Stretch) : Stretch :=
  if u.isRead then u.map id (Spelled.rename (readName f)) else u

theorem renameInTag_tag (h : u.WellFormed) (hplain : u.IsPlain) (hread : u.isRead = true)
    (f : List Char → List Char) :
    renameInTag f u.tag = (u.map id (Spelled.rename (readName f))).tag := by
  obtain ⟨_, _, _, _, hfront⟩ := exists_of_isRead hread
  obtain ⟨d, r, hstop, hd⟩ := h.exists_cons_stop
  have hname : Turns (renameInTag f) ('<' :: u.name) ('<' :: u.name) :=
    Turns.cons (turns_renameInTag_char (by decide))
      (Turns.copy fun c hc => turns_renameInTag_char (h.name.unspaced c hc))
  have hattributes := renameInTag_attributes (f := f)
    (fun a ha => ⟨h.attributes a ha, hplain a ha⟩) hd r
  have hend : renameInTag f (u.stop ++ ['>']) = u.stop ++ ['>'] := by
    obtain ⟨c, s, hcons, hc, hs⟩ : ∃ c s, u.kind.back ++ ['>'] = c :: s ∧
        isAsciiLetter c = false ∧ Unspaced (c :: s) := by
      cases u.kind <;> exact ⟨_, _, rfl, by decide, by decide⟩
    have hlast : renameInTag f (c :: s) = c :: s :=
      (Turns.copy fun d hd => turns_renameInTag_char (hs d hd)).whole rfl
    rw [stop, List.append_assoc, hcons, renameInTag_gap h.gap hc, hlast]
  have hall := hname (u.attributes.flatMap Spelled.text ++ d :: r)
  rw [hattributes, ← hstop, hend] at hall
  simpa [tag, inside, hfront, map, stop] using hall

theorem tagLength?_of_ne {c : Char} (hc : c ≠ '<') (s : List Char) :
    tagLength? (c :: s) = none := by
  unfold tagLength?
  split
  · rename_i heq
    exact absurd (List.cons.inj heq).1 hc
  · rfl

theorem turns_renameAttributes (h : u.WellFormed) (hplain : u.IsPlain)
    (f : List Char → List Char) : Turns (renameAttributes f) u.text (u.renamed f).text := by
  have hother : ∀ c, c ≠ '<' → ∀ s,
      ((tagLength? (c :: s)).map fun n => (n, renameInTag f ((c :: s).take n))) = none :=
    fun c hc s => by rw [tagLength?_of_ne hc, Option.map_none]
  by_cases hread : u.isRead = true
  · have hbefore : Turns (renameAttributes f) u.before u.before :=
      turns_rewrite_of_notMem (h.before '<' (by decide)) hother
    have htag : Turns (renameAttributes f) u.tag (u.map id (Spelled.rename (readName f))).tag := by
      rw [← renameInTag_tag h hplain hread f]
      refine turns_rewrite_match (by simp [tag]) fun rest => ?_
      rw [tagLength?_tag h hplain hread, Option.map_some, List.take_left]
    rw [renamed, if_pos hread]
    exact hbefore.append htag
  · rw [renamed, if_neg hread]
    refine u.turns_of_bracket h hother fun rest => ?_
    rw [tagLength?_unread h (by simpa using hread), Option.map_none]

end Stretch

end Markup
end SvgIcon
