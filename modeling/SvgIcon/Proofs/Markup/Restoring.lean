import SvgIcon.Markup.Component
import SvgIcon.Proofs.Markup.Blanks

/-!
The way back from component markup, up to its layout.  On the markup of a tree without expressions
only `className` is changed, and only where it is the whole name of an attribute.
-/

namespace SvgIcon
namespace Markup

open Text

variable {α : Type}

def classStart : List Char := "className=".toList

theorem restoreClassFrom_cons (inWord : Bool) (c : Char) (s : List Char) :
    restoreClassFrom inWord 0 (c :: s) =
      if !inWord && (after? classStart (c :: s)).isSome then
        "class=".toList ++ restoreClassFrom (isWord c) 9 s
      else c :: restoreClassFrom (isWord c) 0 s := rfl

theorem restoreClassFrom_of_none {c : Char} {s : List Char}
    (h : after? classStart (c :: s) = none) (inWord : Bool) :
    restoreClassFrom inWord 0 (c :: s) = c :: restoreClassFrom (isWord c) 0 s := by
  rw [restoreClassFrom_cons, h, if_neg (by simp)]

/-- A text in which `className=` begins nowhere is copied.  Behind a character that is no part of
a word, a class may begin again. -/
theorem restoreClass_of_free {a : List Char} {c : Char} (hfree : Free classStart (a ++ [c]))
    (hc : isWord c = false) : Turns restoreClass (a ++ [c]) (a ++ [c]) := by
  -- whether a word goes on does not matter where no match starts, and is settled again by `c`
  have hfrom : ∀ inWord rest, restoreClassFrom inWord 0 (a ++ [c] ++ rest) =
      a ++ [c] ++ restoreClassFrom false 0 rest := by
    induction a with
    | nil =>
      intro inWord rest
      have hlast := restoreClassFrom_of_none (hfree.1 rest) inWord
      rwa [hc] at hlast
    | cons d a ih =>
      intro inWord rest
      have hhere := restoreClassFrom_of_none (hfree.1 rest) inWord
      exact hhere.trans (congrArg (List.cons d) (ih hfree.2 (isWord d) rest))
  exact hfrom false

theorem restoreClass_char {c : Char} (hc : isWord c = false) : Turns restoreClass [c] [c] := by
  refine restoreClass_of_free (a := []) ?_ hc
  have hne : 'c' ≠ c := by
    rintro rfl
    exact absurd hc (by decide)
  exact ⟨fun rest => after?_cons_ne hne, True.intro⟩

/-- A stretch without an equals sign, up to a character that is no part of a word. -/
theorem restoreClass_stretch {a : List Char} {c : Char} (ha : '=' ∉ a) (hc : isWord c = false)
    (heq : c ≠ '=') : Turns restoreClass (a ++ [c]) (a ++ [c]) := by
  have hstart : c ∉ classStart := by
    intro hmem
    have hword : classStart.all (fun d => isWord d || d == '=') = true := by decide
    have h := List.all_eq_true.1 hword c hmem
    rw [hc, Bool.false_or, beq_iff_eq] at h
    exact heq h
  exact restoreClass_of_free (Free.concat (x := '=') hstart (by decide) ha) hc

theorem restoreClass_className :
    Turns restoreClass (' ' :: classStart) (' ' :: "class=".toList) := by
  intro rest
  have hspace := restoreClass_char (c := ' ') (by decide) (classStart ++ rest)
  have hcovered : restoreClassFrom (isWord 'c') 9 ("lassName=".toList ++ rest) =
      restoreClassFrom (isWord '=') 0 rest := rfl
  have hstart : after? classStart (classStart ++ rest) = some rest := after?_append _ _
  have hclass : restoreClass (classStart ++ rest) = "class=".toList ++ restoreClass rest := by
    show restoreClassFrom false 0 ('c' :: ("lassName=".toList ++ rest)) = _
    rw [restoreClassFrom_cons, if_pos, hcovered]
    · rfl
    · show (after? classStart (classStart ++ rest)).isSome = true
      rw [hstart]
      rfl
  exact hspace.trans (congrArg (List.cons ' ') hclass)

namespace Quoted

/-- The attribute as it comes back: a class is a class again, every other name stays the name of
its property, and the blanks of the value are collapsed. -/
def returned (a : Quoted) : Quoted where
  name := if a.name = "class".toList then "class".toList else propertyName a.name
  value := squeeze a.value

/-- The name of the property does not end in `className`, unless it comes from `class`. -/
def ClassApart (a : Quoted) : Prop :=
  a.name = "class".toList ∨ ¬ className <:+ propertyName a.name

instance : DecidablePred ClassApart := fun _ => inferInstanceAs (Decidable (_ ∨ _))

theorem notMem_squeeze_value {a : Quoted} (h : a.WellFormed) {c : Char}
    (hc : c ∈ ['"', '<', '>', '=']) : c ∉ squeeze a.value := by
  intro hmem
  rcases mem_squeeze hmem with hv | rfl
  · exact h.2 c hc hv
  · exact absurd hc (by decide)

theorem wellFormed_squeezed {a : Quoted} (h : a.WellFormed) : a.squeezed.WellFormed :=
  ⟨h.1, fun _ hc => notMem_squeeze_value h hc⟩

theorem wellFormed_returned {a : Quoted} (h : a.WellFormed) : a.returned.WellFormed := by
  have hname : isAttributeName a.returned.name = true := by
    by_cases hclass : a.name = "class".toList
    · have hreturned : a.returned.name = "class".toList := if_pos hclass
      rw [hreturned]
      decide
    · have hreturned : a.returned.name = propertyName a.name := if_neg hclass
      rw [hreturned]
      exact isAttributeName_propertyName h.1
  exact ⟨hname, fun _ hc => notMem_squeeze_value h hc⟩

theorem turns_restoreClass {a : Quoted} (h : a.WellFormed) (hclass : a.ClassApart) :
    Turns restoreClass (' ' :: a.toProperty.squeezed.text) (' ' :: a.returned.text) := by
  have hquote : Turns restoreClass ['"'] ['"'] := restoreClass_char (by decide)
  have hvalue : Turns restoreClass (squeeze a.value ++ ['"']) (squeeze a.value ++ ['"']) :=
    restoreClass_stretch (notMem_squeeze_value h (by decide)) (by decide) (by decide)
  have htext : a.toProperty.squeezed.text =
      propertyName a.name ++ '=' :: '"' :: (squeeze a.value ++ ['"']) := rfl
  have htext' : a.returned.text = a.returned.name ++ '=' :: '"' :: (squeeze a.value ++ ['"']) := rfl
  rw [htext, htext']
  by_cases hname : a.name = "class".toList
  · have hproperty : propertyName a.name = className := by rw [hname]; rfl
    have hreturned : a.returned.name = "class".toList := if_pos hname
    rw [hproperty, hreturned]
    exact restoreClass_className.append (hquote.append hvalue)
  · have hreturned : a.returned.name = propertyName a.name := if_neg hname
    have heq : '=' ∉ propertyName a.name :=
      notMem_attributeName (wellFormed_toProperty h).1 (by decide)
    have hfree : Free classStart (propertyName a.name ++ ['=']) :=
      Free.concat_mark className [] (by decide) heq
        (hclass.resolve_left hname)
    have hspace : Turns restoreClass [' '] [' '] := restoreClass_char (by decide)
    have hall := hspace.append ((restoreClass_of_free hfree (by decide)).append
      (hquote.append hvalue))
    rw [hreturned]
    simpa using hall

end Quoted

theorem Element.turns_restoreClass_mark (e : Element α) : Turns restoreClass e.mark e.mark := by
  obtain ⟨gap, hmark, hgap⟩ := e.mark_eq
  rw [hmark]
  refine Turns.copy fun c hc => restoreClass_char ?_
  rcases List.mem_append.1 hc with hc | hc
  · rcases hgap c hc with rfl | rfl <;> decide
  · rw [List.mem_singleton.1 hc]
    decide

theorem restoreClass_name {n rest : List Char} {c : Char} (hn : isElementName n = true)
    (hc : c ∈ [' ', '/', '>']) : restoreClass (n ++ c :: rest) = n ++ restoreClass (c :: rest) := by
  have hstop : isWord c = false ∧ c ≠ '=' := by
    simp only [List.mem_cons, List.not_mem_nil, or_false] at hc
    rcases hc with rfl | rfl | rfl <;> decide
  have hname := restoreClass_stretch (notMem_elementName hn (by decide)) hstop.1 hstop.2 rest
  have hchar := restoreClass_char hstop.1 rest
  simp only [List.append_assoc, List.singleton_append] at hname hchar
  rw [hname, hchar]

theorem written_restoreClass {e : Element Quoted} {body : List Char → List Char}
    (hn : isElementName e.name = true)
    (ha : ∀ a ∈ e.attributes, a.WellFormed ∧ a.ClassApart) (hs : ∀ s ∈ e.text?, '=' ∉ body s) :
    e.Written (Turns restoreClass) (fun a => a.toProperty.squeezed.text)
      (fun a => a.returned.text) body body := by
  have hbracket : Turns restoreClass ['<'] ['<'] := restoreClass_char (by decide)
  have hend : Turns restoreClass ('/' :: (e.name ++ ['>'])) ('/' :: (e.name ++ ['>'])) :=
    Turns.cons (restoreClass_char (by decide))
      (restoreClass_stretch (notMem_elementName hn (by decide)) (by decide) (by decide))
  refine ⟨?_, fun s hmem => ?_, Turns.cons hbracket hend⟩
  · exact turns_tag hbracket (fun c hc _ => restoreClass_name hn hc)
      (fun a hmem => Quoted.turns_restoreClass (ha a hmem).1 (ha a hmem).2)
      e.turns_restoreClass_mark
  · have htext : Turns restoreClass (body s ++ ['<']) (body s ++ ['<']) :=
      restoreClass_stretch (hs s hmem) (by decide) (by decide)
    have hall := htext.append hend
    simpa [endTag] using hall

/-! ## Expressions and fragments -/

theorem numberExpression?_eq_none {s : List Char} (h : '\x7b' ∉ s) :
    numberExpression? s = none := by
  have hnone : after? "=\x7b".toList s = none := by
    rw [Option.eq_none_iff_forall_ne_some]
    intro r hr
    exact h (after?_eq_some_iff.1 hr ▸ List.mem_append_left r (by decide))
  rw [numberExpression?, hnone]
  rfl

theorem textExpression?_eq_none {s : List Char} (h : '\x7b' ∉ s) : textExpression? s = none := by
  have hnone : after? "=\x7b".toList s = none := by
    rw [Option.eq_none_iff_forall_ne_some]
    intro r hr
    exact h (after?_eq_some_iff.1 hr ▸ List.mem_append_left r (by decide))
  rw [textExpression?, hnone]
  rfl

theorem rewrite_expressions {s : List Char} (h : '\x7b' ∉ s) :
    rewrite textExpression? (rewrite numberExpression? s) = s := by
  rw [rewrite_of_notMem (fun _ => numberExpression?_eq_none) h,
    rewrite_of_notMem (fun _ => textExpression?_eq_none) h]

theorem sparesTags_fragment : SparesTags fragment? where
  other c hc s := by
    unfold fragment?
    split
    · rename_i heq
      exact absurd (List.cons.inj heq).1 hc
    · rename_i heq
      exact absurd (List.cons.inj heq).1 hc
    · rfl
  start c hc s := by
    have hne : c ≠ '>' ∧ c ≠ '/' := by
      constructor <;> rintro rfl <;> exact absurd hc (by decide)
    unfold fragment?
    split
    · rename_i heq
      exact absurd (List.cons.inj (List.cons.inj heq).2).1 hne.1
    · rename_i heq
      exact absurd (List.cons.inj (List.cons.inj heq).2).1 hne.2
    · rfl
  stop c hc s := by
    have hne : c ≠ '>' := by
      rintro rfl
      exact absurd hc (by decide)
    unfold fragment?
    split
    · rename_i heq
      exact absurd (List.cons.inj (List.cons.inj heq).2).1 (by decide)
    · rename_i heq
      exact absurd (List.cons.inj (List.cons.inj (List.cons.inj heq).2).2).1 hne
    · rfl

end Markup
end SvgIcon
