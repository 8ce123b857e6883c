import SvgIcon.Markup.Style
import SvgIcon.Proofs.Markup.Renaming

/-!
Properties and inline styles of a printed tree.  A style attribute is found by its text alone, so
what has to be shown is where that text does not stand: in names, in values, in texts, and across
their ends.
-/

namespace SvgIcon
namespace Markup

open Text

variable {α : Type}

/-! ## Property names -/

theorem isAsciiLetter_toUpper {c : Char} (hlow : 97 ≤ c.toNat) (hhigh : c.toNat ≤ 122) :
    isAsciiLetter c.toUpper = true := by
  have hall : ∀ n < 123, 97 ≤ n → isAsciiLetter (Char.ofNat n).toUpper = true := by decide
  have hc := hall c.toNat (by omega) hlow
  rwa [Char.ofNat_toNat] at hc

theorem mem_camelize {c : Char} {s : List Char} (h : c ∈ camelize s) :
    c ∈ s ∨ isAsciiLetter c = true := by
  rcases mem_rewrite h with hs | ⟨u, n, replacement, hfind, hc⟩
  · exact Or.inl hs
  · right
    split at hfind
    · rename_i d _
      split at hfind
      · rename_i hd
        obtain ⟨-, rfl⟩ := Prod.mk.inj (Option.some.inj hfind)
        simp only [Bool.and_eq_true, decide_eq_true_eq] at hd
        rw [List.mem_singleton.1 hc]
        exact isAsciiLetter_toUpper hd.1 hd.2
      · simp at hfind
    · simp at hfind

theorem camelize_cons {c : Char} (hc : c ≠ '-') (s : List Char) :
    camelize (c :: s) = c :: camelize s := by
  refine rewrite_of_none ?_
  split
  · rename_i heq
    exact absurd (List.cons.inj heq).1 hc
  · rfl

theorem isAttributeName_propertyName {n : List Char} (h : isAttributeName n = true) :
    isAttributeName (propertyName n) = true := by
  unfold propertyName
  split
  · decide
  · cases n with
    | nil => simp [isAttributeName] at h
    | cons c s =>
      have hc : c ≠ '-' := by
        rintro rfl
        simp only [isAttributeName, Bool.and_eq_true] at h
        exact absurd h.1 (by decide)
      simp only [isAttributeName, Bool.and_eq_true, List.all_eq_true] at h
      rw [camelize_cons hc]
      simp only [isAttributeName, Bool.and_eq_true, List.all_eq_true]
      refine ⟨h.1, fun d hd => ?_⟩
      rcases mem_camelize hd with hs | hl
      · exact h.2 d hs
      · simp [Attribute.isNameChar, isWord_of_isAsciiLetter hl]

/-- The name that `class` is given before all names become properties. -/
def classToProperty (n : List Char) : List Char := if n = "class".toList then className else n

theorem propertyName_classToProperty (n : List Char) :
    propertyName (classToProperty n) = propertyName n := by
  unfold classToProperty
  split
  · rename_i h
    rw [h]
    decide
  · rfl

namespace Quoted

def toProperty (a : Quoted) : Quoted := a.rename propertyName

/-- The attribute as it stands in a component: a style becomes the literal of an object. -/
def jsx (a : Quoted) : List Char :=
  if a.name = "style".toList then styleLiteral a.value else a.toProperty.text

theorem wellFormed_rename {a : Quoted} (h : a.WellFormed) {f : List Char → List Char}
    (hf : isAttributeName (f a.name) = true) : (a.rename f).WellFormed := ⟨hf, h.2⟩

theorem wellFormed_toProperty {a : Quoted} (h : a.WellFormed) : a.toProperty.WellFormed :=
  wellFormed_rename h (isAttributeName_propertyName h.1)

theorem wellFormed_classToProperty {a : Quoted} (h : a.WellFormed) :
    (a.rename classToProperty).WellFormed := by
  refine wellFormed_rename h ?_
  unfold classToProperty
  split
  · decide
  · exact h.1

theorem toProperty_classToProperty (a : Quoted) :
    (a.rename classToProperty).rename propertyName = a.toProperty := by
  simp only [toProperty, rename, propertyName_classToProperty]

end Quoted

/-! ## Where no style stands -/

def styleStart : List Char := "style=\"".toList

theorem styleAttribute?_eq_none {s : List Char} (h : after? styleStart s = none) :
    styleAttribute? s = none := by
  have hafter : after? "style=\"".toList s = none := h
  rw [styleAttribute?, hafter]
  rfl

theorem turns_convertStyles_char {c : Char} (hc : c ≠ 's') : Turns convertStyles [c] [c] :=
  turns_rewrite_char fun _ => styleAttribute?_eq_none (after?_cons_ne fun e => hc e.symm)

theorem convertStyles_of_free {a : List Char} (h : Free styleStart a) : Turns convertStyles a a :=
  h.turns fun _ => styleAttribute?_eq_none

theorem free_value {v : List Char} (h : '=' ∉ v) : Free styleStart (v ++ ['"']) :=
  Free.of_front "style=".toList ['"'] (Free.concat (x := '=') (by decide) (by decide) h)

theorem free_name {n : List Char} (heq : '=' ∉ n) (hstyle : ¬ "style".toList <:+ n) :
    Free styleStart (n ++ ['=']) :=
  Free.concat_mark "style".toList ['"'] (by decide) heq hstyle

/-! ## Styles of a tree -/

theorem turns_convertStyles_style {v : List Char} (h : '"' ∉ v) :
    Turns convertStyles (styleStart ++ (v ++ ['"'])) (styleLiteral v) := by
  refine turns_rewrite_match (List.append_ne_nil_of_left_ne_nil (by decide) _) fun rest => ?_
  have hafter : after? "style=\"".toList (styleStart ++ (v ++ ['"']) ++ rest) =
      some (v ++ '"' :: rest) := by
    rw [List.append_assoc, List.append_assoc]
    exact after?_append _ _
  have hcontains : (v ++ '"' :: rest).contains '"' = true := by simp
  have htake : (v ++ '"' :: rest).takeWhile (· ≠ '"') = v := takeWhile_ne h rest
  rw [styleAttribute?, hafter]
  show (if (v ++ '"' :: rest).contains '"' then _ else none) = _
  rw [if_pos hcontains]
  show some (8 + ((v ++ '"' :: rest).takeWhile (· ≠ '"')).length,
    styleLiteral ((v ++ '"' :: rest).takeWhile (· ≠ '"'))) = _
  have hlength : (styleStart ++ (v ++ ['"'])).length = 8 + v.length := by
    rw [List.length_append, List.length_append, List.length_singleton]
    show 7 + (v.length + 1) = 8 + v.length
    omega
  rw [htake, hlength]

theorem Quoted.turns_convertStyles {a : Quoted} (h : a.WellFormed)
    (hstyle : a.name = "style".toList ∨ ¬ "style".toList <:+ propertyName a.name) :
    Turns convertStyles (' ' :: a.toProperty.text) (' ' :: a.jsx) := by
  refine Turns.cons (turns_convertStyles_char (by decide)) ?_
  unfold jsx
  split
  · rename_i hname
    have htext : a.toProperty.text = styleStart ++ (a.value ++ ['"']) := by
      have hproperty : propertyName a.name = "style".toList := by rw [hname]; decide
      simp only [text, toProperty, rename, hproperty]
      rfl
    rw [htext]
    exact turns_convertStyles_style (notMem_value h (by decide))
  · rename_i hname
    have hn := wellFormed_toProperty h
    have hother : ¬ "style".toList <:+ propertyName a.name := hstyle.resolve_left hname
    have hfront :
        Turns convertStyles (propertyName a.name ++ ['=']) (propertyName a.name ++ ['=']) :=
      convertStyles_of_free (free_name (notMem_attributeName hn.1 (by decide)) hother)
    have hquote : Turns convertStyles ['"'] ['"'] := turns_convertStyles_char (by decide)
    have hvalue := convertStyles_of_free (free_value (notMem_value h (by decide)))
    have hall := hfront.append (hquote.append hvalue)
    simpa [text, toProperty, rename] using hall

theorem written_convertStyles {attr attr' : α → List Char} {body : List Char → List Char}
    {e : Element α} (hn : isElementName e.name = true)
    (ha : ∀ a ∈ e.attributes, Turns convertStyles (' ' :: attr a) (' ' :: attr' a))
    (hs : ∀ s ∈ e.text?, '"' ∉ body s) :
    e.Written (Turns convertStyles) attr attr' body body := by
  have heq : '=' ∉ e.name := notMem_elementName hn (by decide)
  have hend : Turns convertStyles ('/' :: (e.name ++ ['>'])) ('/' :: (e.name ++ ['>'])) :=
    Turns.cons (turns_convertStyles_char (by decide))
      (convertStyles_of_free (Free.concat (x := '=') (by decide) (by decide) heq))
  have hbracket : Turns convertStyles ['<'] ['<'] := turns_convertStyles_char (by decide)
  refine ⟨turns_tag hbracket (fun c hc => ?_) ha ?_, fun s hmem => ?_, hbracket.append hend⟩
  · have hstart : c ∉ styleStart := by
      simp only [List.mem_cons, List.not_mem_nil, or_false] at hc
      rcases hc with rfl | rfl | rfl <;> decide
    have hfree : Free styleStart (e.name ++ [c]) := Free.concat hstart (by decide) heq
    exact hfree.rewrite_append fun _ => styleAttribute?_eq_none
  · exact Turns.copy fun c hc =>
      turns_convertStyles_char fun h => e.notMem_mark (c := 's') (by decide) (h ▸ hc)
  · have htext : Turns convertStyles (body s ++ ['<']) (body s ++ ['<']) :=
      convertStyles_of_free (Free.concat (x := '"') (by decide) (by decide) (hs s hmem))
    have hall := htext.append hend
    simpa [endTag] using hall

end Markup
end SvgIcon
