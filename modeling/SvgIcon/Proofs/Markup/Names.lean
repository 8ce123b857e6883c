import SvgIcon.Proofs.Markup.Restoring

/-!
The names of attributes on their way to a component and back.  A name that has become a property
and comes back is `class` again if it was, and otherwise the property, which no longer changes; so
one turn settles every name, except where `className` appears only by the turn itself.
-/

namespace SvgIcon
namespace Markup

open Text

/-! ## What a camelized name was made of -/

def IsLower (c : Char) : Prop := 97 ≤ c.toNat ∧ c.toNat ≤ 122

instance : DecidablePred IsLower := fun _ => inferInstanceAs (Decidable (_ ∧ _))

theorem not_isLower_toUpper {c : Char} (h : IsLower c) : ¬ IsLower c.toUpper := by
  have hall : ∀ n < 123, 97 ≤ n → ¬ IsLower (Char.ofNat n).toUpper := by decide
  have hc := hall c.toNat (by have := h.2; omega) h.1
  rwa [Char.ofNat_toNat] at hc

theorem camelize_dash {c : Char} (h : IsLower c) (s : List Char) :
    camelize ('-' :: c :: s) = c.toUpper :: camelize s := by
  have hif : (97 ≤ c.toNat && c.toNat ≤ 122) = true := by simpa [IsLower] using h
  simp only [camelize, rewrite, rewriteFrom, hif, if_true, List.singleton_append]

theorem camelize_dash_of_not_lower {s : List Char} (h : ∀ c ∈ s.head?, ¬ IsLower c) :
    camelize ('-' :: s) = '-' :: camelize s := by
  refine rewrite_of_none ?_
  cases s with
  | nil => rfl
  | cons c s =>
    have hc : ¬ IsLower c := h c rfl
    have hif : ¬ (97 ≤ c.toNat && c.toNat ≤ 122) = true := by simpa [IsLower] using hc
    show (if (97 ≤ c.toNat && c.toNat ≤ 122) = true then some (2, [c.toUpper]) else none) = _
    rw [if_neg hif]

/-- The first character of a camelized name stood there itself, or is a capital in the place of a
dash and a letter. -/
theorem camelize_eq_cons {s t : List Char} {c : Char} (h : camelize s = c :: t) :
    (∃ r, s = c :: r ∧ camelize r = t ∧ (c = '-' → ∀ d ∈ r.head?, ¬ IsLower d)) ∨
      ∃ d r, s = '-' :: d :: r ∧ IsLower d ∧ c = d.toUpper ∧ camelize r = t := by
  cases s with
  | nil => exact absurd h (by simp [camelize, rewrite_nil])
  | cons b r =>
    by_cases hb : b = '-'
    · subst hb
      by_cases hlower : ∀ d ∈ r.head?, ¬ IsLower d
      · rw [camelize_dash_of_not_lower hlower] at h
        obtain ⟨rfl, ht⟩ := List.cons.inj h
        exact Or.inl ⟨r, rfl, ht, fun _ => hlower⟩
      · cases r with
        | nil => exact absurd (by simp) hlower
        | cons d r =>
          have hd : IsLower d := by simpa using hlower
          rw [camelize_dash hd] at h
          obtain ⟨hc, ht⟩ := List.cons.inj h
          exact Or.inr ⟨d, r, rfl, hd, hc.symm, ht⟩
    · rw [camelize_cons hb] at h
      obtain ⟨rfl, ht⟩ := List.cons.inj h
      exact Or.inl ⟨r, rfl, ht, fun heq => absurd heq hb⟩

theorem not_isLower_head_camelize {s : List Char} (h : ∀ d ∈ s.head?, ¬ IsLower d) :
    ∀ c ∈ (camelize s).head?, ¬ IsLower c := by
  intro c hc
  obtain ⟨t, ht⟩ := List.head?_eq_some_iff.1 hc
  rcases camelize_eq_cons ht with ⟨r, rfl, _, _⟩ | ⟨d, r, rfl, hd, rfl, _⟩
  · exact h c rfl
  · exact not_isLower_toUpper hd

theorem camelize_camelize (s : List Char) : camelize (camelize s) = camelize s := by
  -- a dash and its letter go together, so the induction is on the length
  induction hlength : s.length using Nat.strongRecOn generalizing s with
  | ind n ih =>
    cases hs : camelize s with
    | nil => rfl
    | cons c t =>
      rcases camelize_eq_cons hs with ⟨r, rfl, rfl, hdash⟩ | ⟨d, r, rfl, hd, rfl, rfl⟩
      · have hrest := ih r.length (by simp [← hlength]) r rfl
        by_cases hc : c = '-'
        · subst hc
          rw [camelize_dash_of_not_lower (not_isLower_head_camelize (hdash rfl)), hrest]
        · rw [camelize_cons hc, hrest]
      · have hletter := isAsciiLetter_toUpper hd.1 hd.2
        have hupper : d.toUpper ≠ '-' := by
          intro heq
          rw [heq] at hletter
          exact absurd hletter (by decide)
        rw [camelize_cons hupper, ih r.length (by simp only [← hlength, List.length_cons]; omega) r rfl]

/-- Small letters in a camelized name stood there before. -/
theorem eq_append_of_camelize {s w t : List Char} (hw : ∀ c ∈ w, IsLower c)
    (h : camelize s = w ++ t) : ∃ r, s = w ++ r ∧ camelize r = t := by
  induction w generalizing s with
  | nil => exact ⟨s, rfl, h⟩
  | cons c w ih =>
    rcases camelize_eq_cons h with ⟨r, rfl, hr, _⟩ | ⟨d, r, rfl, hd, rfl, _⟩
    · obtain ⟨q, rfl, hq⟩ := ih (fun b hb => hw b (List.mem_cons_of_mem c hb)) hr
      exact ⟨q, rfl, hq⟩
    · exact absurd (hw _ List.mem_cons_self) (not_isLower_toUpper hd)

theorem eq_nil_of_camelize {s : List Char} (h : camelize s = []) : s = [] := by
  cases s with
  | nil => rfl
  | cons c s =>
    by_cases hlower : c = '-' ∧ ∃ d r, s = d :: r ∧ IsLower d
    · obtain ⟨rfl, d, r, rfl, hd⟩ := hlower
      rw [camelize_dash hd] at h
      exact absurd h (by simp)
    · by_cases hc : c = '-'
      · subst hc
        have hhead : ∀ d ∈ s.head?, ¬ IsLower d := by
          intro d hd hdlower
          obtain ⟨r, hr⟩ := List.head?_eq_some_iff.1 hd
          exact hlower ⟨rfl, d, r, hr, hdlower⟩
        rw [camelize_dash_of_not_lower hhead] at h
        exact absurd h (by simp)
      · rw [camelize_cons hc] at h
        exact absurd h (by simp)

theorem eq_of_camelize {s w : List Char} (hw : ∀ c ∈ w, IsLower c) (h : camelize s = w) :
    s = w := by
  obtain ⟨r, rfl, hr⟩ := eq_append_of_camelize (t := []) hw (by rw [h, List.append_nil])
  rw [eq_nil_of_camelize hr, List.append_nil]

/-- The end of a camelized name comes from an end of the name. -/
theorem exists_suffix_of_camelize {s u v : List Char} (h : camelize s = u ++ v) :
    ∃ a r, s = a ++ r ∧ camelize r = v := by
  induction u generalizing s with
  | nil => exact ⟨[], s, rfl, h⟩
  | cons c u ih =>
    rcases camelize_eq_cons h with ⟨r, rfl, hr, _⟩ | ⟨d, r, rfl, _, _, hr⟩
    · obtain ⟨a, q, rfl, hq⟩ := ih hr
      exact ⟨c :: a, q, rfl, hq⟩
    · obtain ⟨a, q, rfl, hq⟩ := ih hr
      exact ⟨'-' :: d :: a, q, rfl, hq⟩

/-! ## Names that come back -/

/-- Whether a word goes on behind a text, by whether one goes on before it. -/
def inWordAfter : Bool → List Char → Bool
  | inWord, [] => inWord
  | _, c :: s => inWordAfter (isWord c) s

theorem inWordAfter_concat (inWord : Bool) (a : List Char) (c : Char) :
    inWordAfter inWord (a ++ [c]) = isWord c := by
  induction a generalizing inWord with
  | nil => rfl
  | cons d a ih => exact ih (isWord d)

/-- `restoredName` for a name that may stand behind a character of a word. -/
def restoredFrom : Bool → List Char → List Char
  | _, [] => []
  | inWord, c :: n =>
    if inWord = false ∧ c :: n = className then "class".toList
    else c :: restoredFrom (isWord c) n

/-- The name of an attribute that comes back from a component: a `className` at its end is `class`
again, unless a word goes on there. -/
def restoredName : List Char → List Char := restoredFrom false

theorem restoredFrom_cases (inWord : Bool) (n : List Char) :
    (∃ a, n = a ++ className ∧ inWordAfter inWord a = false ∧
        restoredFrom inWord n = a ++ "class".toList) ∨
      (restoredFrom inWord n = n ∧ ∀ a, n = a ++ className → inWordAfter inWord a = true) := by
  induction n generalizing inWord with
  | nil =>
    refine Or.inr ⟨rfl, fun a ha => ?_⟩
    exact absurd (List.append_eq_nil_iff.1 ha.symm).2 (by decide)
  | cons c n ih =>
    by_cases hhere : inWord = false ∧ c :: n = className
    · exact Or.inl ⟨[], hhere.2, hhere.1, if_pos hhere⟩
    · have hstep : restoredFrom inWord (c :: n) = c :: restoredFrom (isWord c) n := if_neg hhere
      rcases ih (isWord c) with ⟨a, rfl, ha, hrestored⟩ | ⟨hsame, hnone⟩
      · exact Or.inl ⟨c :: a, rfl, ha, by rw [hstep, hrestored, List.cons_append]⟩
      · refine Or.inr ⟨by rw [hstep, hsame], fun a ha => ?_⟩
        cases a with
        | nil => simpa [inWordAfter] using fun hword => hhere ⟨hword, ha⟩
        | cons d a =>
          obtain ⟨rfl, hn⟩ := List.cons.inj ha
          exact hnone a hn

theorem restoredName_cases (n : List Char) :
    (∃ a, n = a ++ className ∧ inWordAfter false a = false ∧
        restoredName n = a ++ "class".toList) ∨
      (restoredName n = n ∧ ∀ a, n = a ++ className → inWordAfter false a = true) :=
  restoredFrom_cases false n

theorem mem_restoredName {c : Char} {n : List Char} (h : c ∈ restoredName n) :
    c ∈ n ∨ isAsciiLetter c = true := by
  rcases restoredName_cases n with ⟨a, rfl, _, hrestored⟩ | ⟨hsame, _⟩
  · rw [hrestored] at h
    rcases List.mem_append.1 h with h | h
    · exact Or.inl (List.mem_append_left _ h)
    · right
      have hall : "class".toList.all isAsciiLetter = true := by decide
      exact List.all_eq_true.1 hall c h
  · exact Or.inl (hsame ▸ h)

theorem restoredName_ne_nil {n : List Char} (h : n ≠ []) : restoredName n ≠ [] := by
  rcases restoredName_cases n with ⟨a, _, _, hrestored⟩ | ⟨hsame, _⟩
  · rw [hrestored]
    exact List.append_ne_nil_of_right_ne_nil a (by decide)
  · rwa [hsame]

theorem isAttributeName_restoredName {n : List Char} (h : isAttributeName n = true) :
    isAttributeName (restoredName n) = true := by
  cases n with
  | nil => exact absurd h (by decide)
  | cons c n =>
    simp only [isAttributeName, Bool.and_eq_true, List.all_eq_true] at h
    rcases restoredName_cases (c :: n) with ⟨a, ha, _, hrestored⟩ | ⟨hsame, _⟩
    · rw [hrestored]
      cases a with
      | nil => decide
      | cons d a =>
        obtain ⟨rfl, rfl⟩ := List.cons.inj ha
        simp only [List.cons_append, isAttributeName, Bool.and_eq_true, List.all_eq_true]
        refine ⟨h.1, fun e he => ?_⟩
        rcases List.mem_append.1 he with he | he
        · exact h.2 e (List.mem_append_left _ he)
        · have hall : "class".toList.all Attribute.isNameChar = true := by decide
          exact List.all_eq_true.1 hall e he
    · rw [hsame, isAttributeName, Bool.and_eq_true, List.all_eq_true]
      exact h

/-- What came back as a class ends neither in `className` nor in `class-name`. -/
theorem append_class_ne {a b w : List Char} (hw : w.getLast? = some 'e') :
    a ++ "class".toList ≠ b ++ w := by
  intro heq
  have hlast := congrArg List.getLast? heq
  rw [List.getLast?_append, List.getLast?_append, hw] at hlast
  exact absurd hlast (by simp)

theorem restoredName_restoredName (n : List Char) :
    restoredName (restoredName n) = restoredName n := by
  rcases restoredName_cases n with ⟨a, _, _, hrestored⟩ | ⟨hsame, _⟩
  · rcases restoredName_cases (restoredName n) with ⟨b, hb, _, _⟩ | ⟨hsame, _⟩
    · exact absurd (hrestored.symm.trans hb) (append_class_ne rfl)
    · exact hsame
  · rw [hsame, hsame]

/-! ## One turn settles a name -/

/-- The name does not end in what only turns into `className` behind a colon or a point. -/
def ClassNameApart (n : List Char) : Prop :=
  ∀ c ∈ [':', '.'], ¬ c :: "class-name".toList <:+ n

instance : DecidablePred ClassNameApart := fun _ => inferInstanceAs (Decidable (∀ c ∈ _, _))

theorem eq_of_camelize_className {s : List Char} (h : camelize s = className) :
    s = className ∨ s = "class-name".toList := by
  obtain ⟨r, rfl, hr⟩ := eq_append_of_camelize (w := "class".toList) (t := "Name".toList)
    (by decide) h
  rcases camelize_eq_cons (c := 'N') (t := "ame".toList) hr with
    ⟨q, rfl, hq, _⟩ | ⟨d, q, rfl, hd, hupper, hq⟩
  · left
    rw [eq_of_camelize (w := "ame".toList) (by decide) hq]
    rfl
  · right
    have hall : ∀ n < 123, 97 ≤ n → 'N' = (Char.ofNat n).toUpper → n = 110 := by decide
    have hcode := hall d.toNat (by have := hd.2; omega) hd.1 (by rwa [Char.ofNat_toNat])
    have hletter : d = 'n' := by rw [← Char.ofNat_toNat d, hcode]
    rw [eq_of_camelize (w := "ame".toList) (by decide) hq, hletter]
    rfl

/-- A property that ends in `className` behind a character that is no part of a word did so as an
attribute, unless that is kept apart. -/
theorem exists_className_of_camelize {n a : List Char} (hn : isAttributeName n = true)
    (hapart : ClassNameApart n) (ha : a ≠ []) (hword : inWordAfter false a = false)
    (h : camelize n = a ++ className) :
    ∃ b, n = b ++ className ∧ inWordAfter false b = false := by
  obtain ⟨front, c, rfl⟩ : ∃ front c, a = front ++ [c] :=
    ⟨_, _, (List.dropLast_concat_getLast ha).symm⟩
  rw [inWordAfter_concat] at hword
  rw [List.append_assoc] at h
  obtain ⟨u, r, rfl, hr⟩ := exists_suffix_of_camelize h
  rcases camelize_eq_cons hr with ⟨q, rfl, hq, hdash⟩ | ⟨d, q, rfl, hd, rfl, _⟩
  · rcases eq_of_camelize_className hq with rfl | rfl
    · exact ⟨u ++ [c], by rw [List.append_assoc]; rfl, by rwa [inWordAfter_concat]⟩
    · -- a dash before `class-name` would have been dropped
      have hname : Attribute.isNameChar c = true :=
        isNameChar_of_mem_attributeName hn (by simp)
      have hnot : c ≠ '-' := fun heq => hdash heq 'c' rfl (by decide)
      simp only [Attribute.isNameChar, hword, Bool.false_or, Bool.or_eq_true, decide_eq_true_eq,
        hnot, or_false] at hname
      exact absurd ⟨u, rfl⟩ (hapart c (by rcases hname with rfl | rfl <;> simp))
  · rw [isWord_of_isAsciiLetter (isAsciiLetter_toUpper hd.1 hd.2)] at hword
    exact absurd hword (by simp)

theorem propertyName_settled {n : List Char} (hn : isAttributeName n = true)
    (hapart : ClassNameApart n) :
    propertyName (restoredName (propertyName (restoredName n))) =
      propertyName (restoredName n) := by
  by_cases hq : restoredName n = "class".toList
  · rw [hq]
    decide
  · have hproperty : propertyName (restoredName n) = camelize (restoredName n) := if_neg hq
    rw [hproperty]
    have hne : camelize (restoredName n) ≠ "class".toList := fun heq =>
      hq (eq_of_camelize (by decide) heq)
    have hfinal : propertyName (camelize (restoredName n)) = camelize (restoredName n) := by
      rw [propertyName, if_neg hne, camelize_camelize]
    rcases restoredName_cases (camelize (restoredName n)) with ⟨a, ha, hword, _⟩ | ⟨hsame, _⟩
    · by_cases hnil : a = []
      · rw [ha, hnil]
        decide
      · exfalso
        rcases restoredName_cases n with ⟨b, _, _, hrestored⟩ | ⟨hback, hnone⟩
        · rw [hrestored] at ha
          obtain ⟨u, r, hr, hcamel⟩ := exists_suffix_of_camelize ha
          rcases eq_of_camelize_className hcamel with rfl | rfl
          · exact append_class_ne rfl hr
          · exact append_class_ne rfl hr
        · rw [hback] at ha
          obtain ⟨b, hb, hends⟩ := exists_className_of_camelize hn hapart hnil hword ha
          rw [hnone b hb] at hends
          exact Bool.noConfusion hends
    · rw [hsame, hfinal]

/-- A name put through a function, if it is read as one of an attribute. -/
def readName (f : List Char → List Char) (n : List Char) : List Char :=
  if isAttributeName n then f n else n

section
variable {f : List Char → List Char} {n : List Char}
  (hf : ∀ n, isAttributeName n = true → isAttributeName (f n) = true)
include hf

theorem readName_ne_nil (h : n ≠ []) : readName f n ≠ [] := by
  by_cases hn : isAttributeName n = true
  · rw [readName, if_pos hn]
    intro hnil
    have hname := hf n hn
    rw [hnil] at hname
    exact absurd hname (by decide)
  · rwa [readName, if_neg hn]

theorem mem_readName {c : Char} (h : c ∈ readName f n) :
    c ∈ n ∨ Attribute.isNameChar c = true := by
  by_cases hn : isAttributeName n = true
  · rw [readName, if_pos hn] at h
    exact Or.inr (isNameChar_of_mem_attributeName (hf n hn) h)
  · rw [readName, if_neg hn] at h
    exact Or.inl h

end

/-- The name that an attribute is given on the way into a component. -/
def turnedName : List Char → List Char := readName propertyName

/-- What comes back and is read as a name of an attribute was one. -/
theorem isAttributeName_of_restoredName {n : List Char}
    (h : isAttributeName (restoredName n) = true) : isAttributeName n = true := by
  rcases restoredName_cases n with ⟨a, rfl, _, hrestored⟩ | ⟨hsame, _⟩
  · rw [hrestored] at h
    cases a with
    | nil => decide
    | cons c a =>
      simp only [List.cons_append, isAttributeName, Bool.and_eq_true, List.all_append] at h ⊢
      exact ⟨h.1, h.2.1, by decide⟩
  · rwa [hsame] at h

theorem turnedName_settled {n : List Char} (hapart : ClassNameApart n) :
    turnedName (restoredName (turnedName (restoredName n))) = turnedName (restoredName n) := by
  by_cases hn : isAttributeName (restoredName n) = true
  · have hback := isAttributeName_restoredName (isAttributeName_propertyName hn)
    have hfirst : turnedName (restoredName n) = propertyName (restoredName n) := if_pos hn
    rw [hfirst, turnedName, readName, if_pos hback,
      propertyName_settled (isAttributeName_of_restoredName hn) hapart]
  · have hfirst : turnedName (restoredName n) = restoredName n := if_neg hn
    rw [hfirst, restoredName_restoredName, hfirst]

end Markup
end SvgIcon
