import Mathlib.Data.List.Basic
import SvgIcon.Proofs.Markup.Branches
import SvgIcon.Proofs.Markup.Unwrapping

/-!
The way back from component markup with values of every shape.  Three of the passes change the name
or the value of an attribute and nothing else.  The fourth, which removes the marks of fragments,
comes last and so looks into the texts that the pass before it has put in quotes.
-/

namespace SvgIcon
namespace Markup

open Text

/-! ## Component markup -/

/-- The value of an attribute in component markup. -/
inductive Binding
  /-- `"v"` -/
  | quoted (v : List Char)
  /-- `{12}` -/
  | number (digits : List Char)
  /-- `{'t'}`, with quotes of either kind. -/
  | string (quote : Char) (t : List Char)
  /-- `{e}` -/
  | expression (e : List Char)
  deriving DecidableEq, Repr

namespace Binding

def text : Binding → List Char
  | quoted v => '"' :: (v ++ ['"'])
  | number digits => '\x7b' :: (digits ++ ['\x7d'])
  | string quote t => '\x7b' :: quote :: (t ++ [quote, '\x7d'])
  | expression e => '\x7b' :: (e ++ ['\x7d'])

/-- A text in quotes may hold brackets, and an expression may hold quotes and braces.  Neither a
quote nor a digit starts an expression. -/
def WellFormed : Binding → Prop
  | quoted v => Lacks marks v
  | number digits => digits ≠ [] ∧ ∀ c ∈ digits, isDigit c = true
  | string quote t => isQuote quote = true ∧ t ≠ [] ∧ Lacks ['"', '\'', '\x7b', '\x7d', '='] t
  | expression e =>
    e.head?.all (fun c => !isDigit c && !isQuote c) = true ∧ Lacks ['=', '<', '>'] e

instance : DecidablePred WellFormed
  | quoted _ => inferInstanceAs (Decidable (Lacks _ _))
  | number _ => inferInstanceAs (Decidable (_ ∧ _))
  | string _ _ => inferInstanceAs (Decidable (_ ∧ _))
  | expression _ => inferInstanceAs (Decidable (_ ∧ _))

def unnumbered : Binding → Binding
  | number digits => quoted digits
  | b => b

/-- The value without number and text expressions. -/
def plain : Binding → Binding
  | number digits => quoted digits
  | string _ t => quoted t
  | b => b

/-- A text in quotes holds the marks of a fragment. -/
def Marked : Binding → Prop
  | string _ t => "<>".toList <:+: t ∨ "</>".toList <:+: t
  | _ => False

instance : DecidablePred Marked
  | quoted _ => inferInstanceAs (Decidable False)
  | number _ => inferInstanceAs (Decidable False)
  | string _ _ => inferInstanceAs (Decidable (_ ∨ _))
  | expression _ => inferInstanceAs (Decidable False)

/-- The value without marks of fragments. -/
def unmarked : Binding → Binding
  | quoted v => quoted (rewrite fragment? v)
  | b => b

end Binding

/-- The name of a class put back. -/
def classOfProperty (n : List Char) : List Char := if n = className then "class".toList else n

/-- An attribute in component markup, with the blanks in front of it. -/
structure Bound where
  gap : List Char
  name : List Char
  value : Binding
  deriving DecidableEq, Repr

namespace Bound

def text (a : Bound) : List Char := a.gap ++ (a.name ++ '=' :: a.value.text)

/-- No name ends in `className` but this name itself. -/
structure WellFormed (a : Bound) : Prop where
  spaced : a.gap ≠ []
  gap : Blank a.gap
  name : isAttributeName a.name = true
  apart : a.name = className ∨ ¬ className <:+ a.name
  value : a.value.WellFormed

instance (a : Bound) : Decidable a.WellFormed :=
  decidable_of_iff
    (a.gap ≠ [] ∧ Blank a.gap ∧ isAttributeName a.name = true ∧
      (a.name = className ∨ ¬ className <:+ a.name) ∧ a.value.WellFormed)
    ⟨fun ⟨h₁, h₂, h₃, h₄, h₅⟩ => ⟨h₁, h₂, h₃, h₄, h₅⟩,
      fun h => ⟨h.spaced, h.gap, h.name, h.apart, h.value⟩⟩

/-- The attribute with the name of a class put back and its value put through a function. -/
def restore (f : Binding → Binding) (a : Bound) : Bound :=
  { a with name := classOfProperty a.name, value := f a.value }

/-- The attribute as it is to come back. -/
def restored (a : Bound) : Bound := a.restore Binding.plain

/-- The attribute as it does come back. -/
def returned (a : Bound) : Bound := a.restore fun b => b.plain.unmarked

end Bound

namespace Passage

/-- The tags of component markup, with nothing but blanks, names and values in them. -/
structure IsJsx (u : Passage Bound) : Prop where
  before : Lacks marks u.before
  name : IsTagName u.name
  attributes : ∀ a ∈ u.attributes, a.WellFormed
  gap : Blank u.gap

instance (u : Passage Bound) : Decidable u.IsJsx :=
  decidable_of_iff
    (Lacks marks u.before ∧ IsTagName u.name ∧ (∀ a ∈ u.attributes, a.WellFormed) ∧ Blank u.gap)
    ⟨fun ⟨h₁, h₂, h₃, h₄⟩ => ⟨h₁, h₂, h₃, h₄⟩, fun h => ⟨h.before, h.name, h.attributes, h.gap⟩⟩

end Passage

/-- Component markup: an element with the text in front of it, the text behind it, and perhaps a
fragment around all of it. -/
structure Rendering where
  root : Branch Bound
  tail : List Char
  fragment : Bool

namespace Rendering

def opening (r : Rendering) : List Char := if r.fragment then "<>".toList else []

def ending (r : Rendering) : List Char := if r.fragment then "</>".toList else []

def text (r : Rendering) : List Char :=
  r.opening ++ (r.root.text Bound.text ++ (r.tail ++ r.ending))

/-- The markup without the marks of the fragment, its attributes written by a function. -/
def body (attr : Bound → List Char) (r : Rendering) : List Char := r.root.text attr ++ r.tail

structure WellFormed (r : Rendering) : Prop where
  passages : ∀ u ∈ r.root.passages, u.IsJsx
  tail : Lacks marks r.tail

instance (r : Rendering) : Decidable r.WellFormed :=
  decidable_of_iff ((∀ u ∈ r.root.passages, u.IsJsx) ∧ Lacks marks r.tail)
    ⟨fun ⟨h₁, h₂⟩ => ⟨h₁, h₂⟩, fun h => ⟨h.passages, h.tail⟩⟩

/-- No text in quotes holds the marks of a fragment. -/
def FragmentsApart (r : Rendering) : Prop :=
  ∀ u ∈ r.root.passages, ∀ a ∈ u.attributes, ¬ a.value.Marked

instance : DecidablePred FragmentsApart := fun _ => inferInstanceAs (Decidable (∀ u ∈ _, _))

end Rendering

/-! ## Values -/

namespace Binding

variable {b : Binding}

theorem notMem_text (h : b.WellFormed) : '=' ∉ b.text := by
  cases b with
  | quoted v => simpa [text] using h '=' (by decide)
  | number ds =>
    have hdigits : Lacks marks ds := Spelling.wellFormed_unnumbered (s := .number ds) h
    simpa [text] using hdigits '=' (by decide)
  | string q t =>
    obtain ⟨hq, _, ht⟩ := h
    have hne : '=' ≠ q := by
      rintro rfl
      exact absurd hq (by decide)
    simpa [text, hne] using ht '=' (by decide)
  | expression e => simpa [text] using h.2 '=' (by decide)

theorem turns_restoreClass (h : b.WellFormed) : Turns restoreClass b.text b.text := by
  have heq := notMem_text h
  obtain ⟨x, c, htext, hc⟩ : ∃ x c, b.text = x ++ [c] ∧ (c = '"' ∨ c = '\x7d') := by
    cases b with
    | quoted v => exact ⟨'"' :: v, '"', rfl, Or.inl rfl⟩
    | number ds => exact ⟨'\x7b' :: ds, '\x7d', rfl, Or.inr rfl⟩
    | string q t => exact ⟨'\x7b' :: q :: (t ++ [q]), '\x7d', by simp [text], Or.inr rfl⟩
    | expression e => exact ⟨'\x7b' :: e, '\x7d', rfl, Or.inr rfl⟩
  rw [htext] at heq ⊢
  have hx : '=' ∉ x := fun hmem => heq (List.mem_append_left _ hmem)
  rcases hc with rfl | rfl
  · exact restoreClass_stretch hx (by decide) (by decide)
  · exact restoreClass_stretch hx (by decide) (by decide)

theorem turns_unnumbered (h : b.WellFormed) :
    Turns (rewrite numberExpression?) ('=' :: b.text) ('=' :: b.unnumbered.text) := by
  have hcopy : (∀ rest, numberExpression? ('=' :: (b.text ++ rest)) = none) →
      Turns (rewrite numberExpression?) ('=' :: b.text) ('=' :: b.text) :=
    turns_rewrite_cons (notMem_text h) fun _ => Spelling.numberExpression?_other
  have hnone : ∀ s : List Char, s.takeWhile isDigit = [] →
      numberExpression? ('=' :: '\x7b' :: s) = none := fun s hs => by
    rw [Spelling.numberExpression?_brace]
    split <;> simp [hs]
  cases b with
  | quoted v => exact hcopy fun rest => rfl
  | number ds => exact Spelling.turns_unnumbered (s := .number ds) h
  | string q t =>
    have hdigit : isDigit q = false := by
      have hq : q = '"' ∨ q = '\'' := by simpa [isQuote] using h.1
      rcases hq with rfl | rfl <;> decide
    exact hcopy fun rest => hnone _ (List.takeWhile_cons_of_neg (by simp [hdigit]))
  | expression e =>
    refine hcopy fun rest => hnone (e ++ ['\x7d'] ++ rest) ?_
    cases e with
    | nil => exact List.takeWhile_cons_of_neg (by decide)
    | cons c e =>
      have hc : isDigit c = false ∧ isQuote c = false := by simpa using h.1
      exact List.takeWhile_cons_of_neg (by simp [hc.1])

theorem turns_plain (h : b.WellFormed) :
    Turns (rewrite textExpression?) ('=' :: b.unnumbered.text) ('=' :: b.plain.text) := by
  have hcopy : ∀ {s : List Char}, '=' ∉ s →
      (∀ rest, textExpression? ('=' :: (s ++ rest)) = none) →
      Turns (rewrite textExpression?) ('=' :: s) ('=' :: s) := fun hs =>
    turns_rewrite_cons hs fun _ => Spelling.textExpression?_other
  cases b with
  | quoted v => exact hcopy (notMem_text h) fun rest => rfl
  | number ds =>
    have hdigits : (quoted ds).WellFormed := Spelling.wellFormed_unnumbered (s := .number ds) h
    exact hcopy (notMem_text hdigits) fun rest => rfl
  | string q t =>
    obtain ⟨hq, hne, ht⟩ := h
    exact Spelling.turns_textExpression hq hne fun c hc => ht c (by
      simp only [List.mem_cons, List.not_mem_nil, or_false] at hc
      rcases hc with rfl | rfl <;> decide)
  | expression e =>
    refine hcopy (notMem_text h) fun rest => ?_
    have hnone : ∀ c s, isQuote c = false → textExpression? ('=' :: '\x7b' :: c :: s) = none :=
      fun c s hc => by
        rw [Spelling.textExpression?_brace, hc]
        split <;> simp
    cases e with
    | nil => exact hnone '\x7d' rest (by decide)
    | cons c e =>
      have hc : isDigit c = false ∧ isQuote c = false := by simpa using h.1
      exact hnone c (e ++ ['\x7d'] ++ rest) hc.2

end Binding

/-! ## Marks of fragments -/

theorem fragment?_append {c : Char} (hc : c ≠ '/' ∧ c ≠ '>') {t : List Char} (ht : t ≠ [])
    (rest : List Char) : fragment? (t ++ c :: rest) = fragment? t := by
  match t with
  | [] => exact absurd rfl ht
  | [x] =>
    by_cases hx : x = '<'
    · subst hx
      simp [fragment?, hc.1, hc.2]
    · rw [List.cons_append, sparesTags_fragment.other x hx, sparesTags_fragment.other x hx]
  | [x, y] =>
    by_cases hx : x = '<'
    · subst hx
      by_cases hy : y = '>'
      · subst hy
        rfl
      · by_cases hslash : y = '/'
        · subst hslash
          simp [fragment?, hc.2]
        · simp [fragment?, hy, hslash]
    · rw [List.cons_append, sparesTags_fragment.other x hx, sparesTags_fragment.other x hx]
  | x :: y :: z :: t =>
    by_cases hx : x = '<'
    · subst hx
      by_cases hy : y = '>'
      · subst hy
        rfl
      · by_cases hslash : y = '/'
        · subst hslash
          by_cases hz : z = '>'
          · subst hz
            rfl
          · simp [fragment?, hz]
        · simp [fragment?, hy, hslash]
    · rw [List.cons_append, sparesTags_fragment.other x hx, sparesTags_fragment.other x hx]

theorem fragment?_cases (s : List Char) : fragment? s = none ∨
    ∃ m r, (m = "<>".toList ∨ m = "</>".toList) ∧ s = m ++ r ∧
      fragment? s = some (m.length, []) := by
  unfold fragment?
  split
  · exact Or.inr ⟨"<>".toList, _, Or.inl rfl, rfl, rfl⟩
  · exact Or.inr ⟨"</>".toList, _, Or.inr rfl, rfl, rfl⟩
  · exact Or.inl rfl

/-- A text as the removal of marks goes through it: character by character, or mark by mark. -/
theorem fragment_induction {P : List Char → Prop} (nil : P [])
    (passed : ∀ c s, fragment? (c :: s) = none → P s → P (c :: s))
    (marked : ∀ m s, m = "<>".toList ∨ m = "</>".toList →
      fragment? (m ++ s) = some (m.length, []) → P s → P (m ++ s))
    (s : List Char) : P s := by
  induction hlength : s.length using Nat.strongRecOn generalizing s with
  | ind n ih =>
    rcases fragment?_cases s with hnone | ⟨m, r, hm, rfl, hsome⟩
    · cases s with
      | nil => exact nil
      | cons c s => exact passed c s hnone (ih s.length (by simp [← hlength]) s rfl)
    · have hpos : 0 < m.length := by rcases hm with rfl | rfl <;> decide
      have hshorter : r.length < n := by
        rw [← hlength, List.length_append]
        omega
      exact marked m r hm hsome (ih r.length hshorter r rfl)

theorem rewrite_fragment_mark {m s : List Char} (hm : m = "<>".toList ∨ m = "</>".toList)
    (h : fragment? (m ++ s) = some (m.length, [])) :
    rewrite fragment? (m ++ s) = rewrite fragment? s := by
  obtain ⟨n, hn⟩ : ∃ n, m.length = n + 1 := by rcases hm with rfl | rfl <;> exact ⟨_, rfl⟩
  have hne : m ++ s ≠ [] := by rcases hm with rfl | rfl <;> simp
  rw [hn] at h
  rw [rewrite_of_some h hne, ← hn, List.drop_left, List.nil_append]

/-- A character that no mark goes on with keeps the texts around it apart. -/
theorem rewrite_fragment_append {c : Char} (hc : c ≠ '<' ∧ c ≠ '/' ∧ c ≠ '>') (t : List Char) :
    Turns (rewrite fragment?) (t ++ [c]) (rewrite fragment? t ++ [c]) := by
  intro rest
  rw [List.append_assoc, List.append_assoc, List.singleton_append, List.singleton_append]
  induction t using fragment_induction with
  | nil => exact rewrite_of_none (sparesTags_fragment.other c hc.1 rest)
  | passed d s hnone ih =>
    have hagain := fragment?_append hc.2 (List.cons_ne_nil d s) rest
    rw [hnone, List.cons_append] at hagain
    rw [rewrite_of_none hnone, List.cons_append, rewrite_of_none hagain, ih, List.cons_append]
  | marked m s hm hsome ih =>
    have hne : m ++ s ≠ [] := by rcases hm with rfl | rfl <;> simp
    have hagain := fragment?_append hc.2 hne rest
    rw [hsome, List.append_assoc] at hagain
    rw [rewrite_fragment_mark hm hsome, List.append_assoc, rewrite_fragment_mark hm hagain, ih]

/-- Without a mark in it, a text is left as it is; otherwise a bracket is lost. -/
theorem count_rewrite_fragment (t : List Char) :
    (rewrite fragment? t = t ∧ ¬ "<>".toList <:+: t ∧ ¬ "</>".toList <:+: t) ∨
      (rewrite fragment? t).count '>' < t.count '>' ∧
        ("<>".toList <:+: t ∨ "</>".toList <:+: t) := by
  induction t using fragment_induction with
  | nil => exact Or.inl ⟨rfl, by decide, by decide⟩
  | passed c s hnone ih =>
    have hstart : ∀ m, m = "<>".toList ∨ m = "</>".toList → ¬ m <+: c :: s := by
      rintro m hm ⟨r, hr⟩
      rw [← hr] at hnone
      rcases hm with rfl | rfl <;> exact absurd hnone (by simp [fragment?])
    rw [rewrite_of_none hnone]
    rcases ih with ⟨hsame, hopen, hclose⟩ | ⟨hlt, hmark⟩
    · refine Or.inl ⟨by rw [hsame], fun h => ?_, fun h => ?_⟩
      · exact (List.infix_cons_iff.1 h).elim (hstart _ (Or.inl rfl)) hopen
      · exact (List.infix_cons_iff.1 h).elim (hstart _ (Or.inr rfl)) hclose
    · refine Or.inr ⟨?_, hmark.imp (List.infix_cons_iff.2 ∘ Or.inr)
        (List.infix_cons_iff.2 ∘ Or.inr)⟩
      rw [List.count_cons, List.count_cons]
      omega
  | marked m s hm hsome ih =>
    have hle : (rewrite fragment? s).count '>' ≤ s.count '>' := by
      rcases ih with ⟨hsame, _⟩ | ⟨hlt, _⟩
      · rw [hsame]
      · omega
    have hcount : 0 < m.count '>' := by rcases hm with rfl | rfl <;> decide
    refine Or.inr ⟨?_, ?_⟩
    · rw [rewrite_fragment_mark hm hsome, List.count_append]
      omega
    · rcases hm with rfl | rfl
      · exact Or.inl (List.prefix_append _ _).isInfix
      · exact Or.inr (List.prefix_append _ _).isInfix

theorem Binding.turns_unmarked {b : Binding} (h : b.WellFormed) :
    Turns (rewrite fragment?) b.plain.text b.plain.unmarked.text := by
  have hchar : ∀ {c : Char}, c ≠ '<' → Turns (rewrite fragment?) [c] [c] := fun hc =>
    turns_rewrite_char (sparesTags_fragment.other _ hc)
  have hquoted : ∀ v, Turns (rewrite fragment?) (quoted v).text (quoted v).unmarked.text := fun v =>
    (hchar (c := '"') (by decide)).append (rewrite_fragment_append (by decide) v)
  cases b with
  | quoted v => exact hquoted v
  | number ds => exact hquoted ds
  | string q t => exact hquoted t
  | expression e =>
    have hopen : '<' ∉ (expression e).text := by simpa [text] using h.2 '<' (by decide)
    exact Turns.copy fun c hc => hchar fun heq => hopen (heq ▸ hc)

/-! ## Attributes and tags -/

theorem restoredName_eq {n : List Char} (h : n = className ∨ ¬ className <:+ n) :
    restoredName n = classOfProperty n := by
  rcases h with rfl | hnone
  · decide
  · have hne : n ≠ className := by
      rintro rfl
      exact hnone List.suffix_rfl
    rcases restoredName_cases n with ⟨a, ha, _⟩ | ⟨hsame, _⟩
    · exact absurd ⟨a, ha.symm⟩ hnone
    · rw [hsame, classOfProperty, if_neg hne]

namespace Bound

variable {a : Bound}

theorem WellFormed.isAttributeName_restored (h : a.WellFormed) :
    isAttributeName (classOfProperty a.name) = true := by
  unfold classOfProperty
  split
  · decide
  · exact h.name

theorem exists_text_cons (hspaced : a.gap ≠ []) (hgap : Blank a.gap) :
    ∃ c s, a.text = c :: s ∧ isNameEnd c = true := by
  obtain ⟨c, g, hcons⟩ := List.exists_cons_of_ne_nil hspaced
  have hblank := hgap c (by simp [hcons])
  exact ⟨c, _, by rw [text, hcons, List.cons_append], by simp [isNameEnd, hblank]⟩

theorem WellFormed.turns_restoreClass (h : a.WellFormed) :
    Turns restoreClass a.text (a.restore id).text := by
  have hname := turns_restoreClass_name (notMem_attributeName h.name (c := '=') (by decide))
  rw [restoredName_eq h.apart] at hname
  have hall := (turns_restoreClass_blank h.gap).append
    (hname.append (Binding.turns_restoreClass h.value))
  simpa [text, restore] using hall

/-- A pass that only finds what starts with an equals sign. -/
theorem WellFormed.turns_of_equals (h : a.WellFormed) {find : Recogniser} {f g : Binding → Binding}
    (hother : ∀ c, c ≠ '=' → ∀ s, find (c :: s) = none)
    (hvalue : Turns (rewrite find) ('=' :: (f a.value).text) ('=' :: (g a.value).text)) :
    Turns (rewrite find) (a.restore f).text (a.restore g).text := by
  have hcopy : ∀ {s : List Char}, '=' ∉ s → Turns (rewrite find) s s :=
    fun hs => turns_rewrite_of_notMem hs hother
  exact (hcopy (h.gap.notMem (by decide))).append
    ((hcopy (notMem_attributeName h.isAttributeName_restored (by decide))).append hvalue)

theorem WellFormed.turns_unmarked (h : a.WellFormed) :
    Turns (rewrite fragment?) a.restored.text a.returned.text := by
  have hcopy : ∀ {s : List Char}, '<' ∉ s → Turns (rewrite fragment?) s s :=
    fun hs => turns_rewrite_of_notMem hs sparesTags_fragment.other
  have hequals : Turns (rewrite fragment?) ['='] ['='] := hcopy (by decide)
  have hname := notMem_attributeName h.isAttributeName_restored (c := '<') (by decide)
  exact (hcopy (h.gap.notMem (by decide))).append
    ((hcopy hname).append (hequals.append (Binding.turns_unmarked h.value)))

end Bound

namespace Passage

variable {u : Passage Bound}

theorem IsJsx.turns_restoreClass (h : u.IsJsx) :
    Turns restoreClass (u.text Bound.text) (u.text fun a => (a.restore id).text) := by
  refine turns_text (fun c hc rest => ?_)
    (fun a ha => Bound.exists_text_cons (h.attributes a ha).spaced (h.attributes a ha).gap)
    (fun a ha => (h.attributes a ha).turns_restoreClass) h.gap ?_
  · have hbefore := restoreClass_stretch (h.before '=' (by decide)) (c := '<') (by decide)
      (by decide) (u.kind.front ++ (u.name ++ c :: rest))
    simp only [List.append_assoc, List.singleton_append] at hbefore
    rw [hbefore, restoreClass_tagName u.kind (h.name.lacks '=' (by decide)) hc]
  · refine Turns.copy fun c hc => restoreClass_char ?_
    simp only [List.mem_append, List.mem_singleton] at hc
    rcases hc with hgap | hback | rfl
    · exact isWord_eq_false_of_isBlank (h.gap c hgap)
    · rw [Kind.eq_slash_of_mem_back hback]
      decide
    · decide

theorem IsJsx.turns_of_equals (h : u.IsJsx) {find : Recogniser} {f g : Binding → Binding}
    (hother : ∀ c, c ≠ '=' → ∀ s, find (c :: s) = none)
    (hvalue : ∀ b : Binding, b.WellFormed →
      Turns (rewrite find) ('=' :: (f b).text) ('=' :: (g b).text)) :
    Turns (rewrite find) (u.text fun a => (a.restore f).text)
      (u.text fun a => (a.restore g).text) := by
  have hcopy : ∀ {s : List Char}, '=' ∉ s → Turns (rewrite find) s s :=
    fun hs => turns_rewrite_of_notMem hs hother
  have hkind := u.kind.notMem_marks (c := '=') (by decide)
  have hopen : '=' ∉ u.before ++ '<' :: (u.kind.front ++ u.name) := by
    simp [h.before '=' (by decide), hkind.1, h.name.lacks '=' (by decide)]
  refine turns_text (fun c _ rest => ?_)
    (fun a ha => Bound.exists_text_cons (h.attributes a ha).spaced (h.attributes a ha).gap)
    (fun a ha => (h.attributes a ha).turns_of_equals hother (hvalue _ (h.attributes a ha).value))
    h.gap (hcopy ?_)
  · have hall := hcopy hopen (c :: rest)
    simpa using hall
  · simp [h.gap.notMem (c := '=') (by decide), hkind.2]

theorem IsJsx.turns_unmarked (h : u.IsJsx) :
    Turns (rewrite fragment?) (u.text fun a => a.restored.text)
      (u.text fun a => a.returned.text) := by
  have hcopy : ∀ {s : List Char}, '<' ∉ s → Turns (rewrite fragment?) s s :=
    fun hs => turns_rewrite_of_notMem hs sparesTags_fragment.other
  have hkind := u.kind.notMem_marks (c := '<') (by decide)
  refine turns_text (fun c _ rest => ?_)
    (fun a ha => Bound.exists_text_cons (h.attributes a ha).spaced (h.attributes a ha).gap)
    (fun a ha => (h.attributes a ha).turns_unmarked) h.gap (hcopy ?_)
  · -- a name stands behind the bracket, or behind the slash of an end tag
    obtain ⟨d, n, hname⟩ := List.exists_cons_of_ne_nil h.name.filled
    have hlacks : Lacks ('/' :: marks) (d :: n) := hname ▸ h.name.lacks
    have hslash : d ≠ '/' := fun heq => hlacks '/' (by decide) (by simp [heq])
    have hclose : d ≠ '>' := fun heq => hlacks '>' (by decide) (by simp [heq])
    have hnone : fragment? ('<' :: (u.kind.front ++ (u.name ++ c :: rest))) = none := by
      rw [hname]
      unfold fragment?
      cases u.kind <;> simp [Kind.front, hclose, hslash]
    have hname' : '<' ∉ u.kind.front ++ u.name := by
      simp [hkind.1, h.name.lacks '<' (by decide)]
    have hbefore := hcopy (h.before '<' (by decide))
      ('<' :: (u.kind.front ++ (u.name ++ c :: rest)))
    have htag := hcopy hname' (c :: rest)
    rw [List.append_assoc, List.append_assoc] at htag
    rw [hbefore, rewrite_of_none hnone, htag]
  · simp [h.gap.notMem (c := '<') (by decide), hkind.2]

end Passage

/-! ## The whole markup -/

theorem restoreClass_of_notMem {s : List Char} (h : '=' ∉ s) : restoreClass s = s := by
  have hfrom : ∀ inWord, restoreClassFrom inWord 0 s = s := by
    induction s with
    | nil => exact fun inWord => rfl
    | cons c s ih =>
      intro inWord
      have hnone : after? classStart (c :: s) = none := by
        rw [Option.eq_none_iff_forall_ne_some]
        intro r hr
        exact h (after?_eq_some_iff.1 hr ▸ List.mem_append_left r (by decide))
      rw [restoreClassFrom_of_none hnone, ih fun hmem => h (List.mem_cons_of_mem c hmem)]
  exact hfrom false

namespace Rendering

variable {r : Rendering}

/-- A pass that leaves the marks around a fragment and the text behind the root as they are. -/
theorem pass_text {pass : List Char → List Char} {attr attr' : Bound → List Char}
    (hopening : Turns pass r.opening r.opening)
    (hroot : ∀ u ∈ r.root.passages, Turns pass (u.text attr) (u.text attr'))
    (htail : pass (r.tail ++ r.ending) = r.tail ++ r.ending) :
    pass (r.opening ++ (r.root.text attr ++ (r.tail ++ r.ending))) =
      r.opening ++ (r.root.text attr' ++ (r.tail ++ r.ending)) := by
  have hall := (hopening.append (Turns.flatMap hroot)) (r.tail ++ r.ending)
  rw [htail, List.append_assoc, List.append_assoc] at hall
  exact hall

theorem WellFormed.notMem_tail (h : r.WellFormed) : '=' ∉ r.tail ++ r.ending := by
  rw [ending]
  split <;> simp [h.tail '=' (by decide)]

theorem WellFormed.restoreClass_text (h : r.WellFormed) :
    restoreClass r.text =
      r.opening ++ (r.root.text (fun a => (a.restore id).text) ++ (r.tail ++ r.ending)) := by
  have hword : ∀ c ∈ r.opening, isWord c = false := by
    rw [opening]
    split
    · decide
    · exact fun c hc => absurd hc List.not_mem_nil
  exact pass_text (Turns.copy fun c hc => restoreClass_char (hword c hc))
    (fun u hu => (h.passages u hu).turns_restoreClass) (restoreClass_of_notMem h.notMem_tail)

/-- A pass that only finds what starts with an equals sign. -/
theorem WellFormed.rewrite_of_equals (h : r.WellFormed) {find : Recogniser}
    {f g : Binding → Binding} (hother : ∀ c, c ≠ '=' → ∀ s, find (c :: s) = none)
    (hvalue : ∀ b : Binding, b.WellFormed →
      Turns (rewrite find) ('=' :: (f b).text) ('=' :: (g b).text)) :
    rewrite find
        (r.opening ++ (r.root.text (fun a => (a.restore f).text) ++ (r.tail ++ r.ending))) =
      r.opening ++ (r.root.text (fun a => (a.restore g).text) ++ (r.tail ++ r.ending)) := by
  have hopening : '=' ∉ r.opening := by
    rw [opening]
    split <;> simp
  exact pass_text (turns_rewrite_of_notMem hopening hother)
    (fun u hu => (h.passages u hu).turns_of_equals hother hvalue)
    ((turns_rewrite_of_notMem h.notMem_tail hother).whole rfl)

theorem WellFormed.rewrite_fragment (h : r.WellFormed) :
    rewrite fragment?
        (r.opening ++ (r.root.text (fun a => a.restored.text) ++ (r.tail ++ r.ending))) =
      r.body fun a => a.returned.text := by
  have hopen : Turns (rewrite fragment?) r.opening [] := by
    rw [opening]
    split
    · exact turns_rewrite_match (by decide) fun rest => rfl
    · exact Turns.nil
  have hroot : Turns (rewrite fragment?) (r.root.text fun a => a.restored.text)
      (r.root.text fun a => a.returned.text) :=
    Turns.flatMap fun u hu => (h.passages u hu).turns_unmarked
  have htail : Turns (rewrite fragment?) r.tail r.tail :=
    turns_rewrite_of_notMem (h.tail '<' (by decide)) sparesTags_fragment.other
  have hend : rewrite fragment? r.ending = [] := by
    rw [ending]
    split <;> rfl
  rw [hopen, hroot, htail, hend, List.append_nil, List.nil_append, body]

theorem ofComponent_eq (h : r.WellFormed) :
    ofComponent r.text = layout (r.body fun a => a.returned.text) := by
  have hnumbers := h.rewrite_of_equals (f := id) (g := Binding.unnumbered)
    (fun _ => Spelling.numberExpression?_other) fun b hb => Binding.turns_unnumbered hb
  have htexts := h.rewrite_of_equals (f := Binding.unnumbered) (g := Binding.plain)
    (fun _ => Spelling.textExpression?_other) fun b hb => Binding.turns_plain hb
  rw [ofComponent, h.restoreClass_text, hnumbers, htexts]
  exact congrArg layout h.rewrite_fragment

end Rendering

/-! ## What is lost -/

theorem count_flatMap_le {α : Type} {f g : α → List Char} {xs : List α} {c : Char}
    (h : ∀ x ∈ xs, (f x).count c ≤ (g x).count c) :
    (xs.flatMap f).count c ≤ (xs.flatMap g).count c := by
  induction xs with
  | nil => exact Nat.le_refl _
  | cons x xs ih =>
    have hx := h x List.mem_cons_self
    have hxs := ih fun y hy => h y (List.mem_cons_of_mem x hy)
    rw [List.flatMap_cons, List.flatMap_cons, List.count_append, List.count_append]
    omega

theorem count_flatMap_lt {α : Type} {f g : α → List Char} {xs : List α} {c : Char}
    (h : ∀ x ∈ xs, (f x).count c ≤ (g x).count c) {x : α} (hx : x ∈ xs)
    (hlt : (f x).count c < (g x).count c) :
    (xs.flatMap f).count c < (xs.flatMap g).count c := by
  obtain ⟨a, b, rfl⟩ := List.append_of_mem hx
  have ha : (a.flatMap f).count c ≤ (a.flatMap g).count c :=
    count_flatMap_le fun y hy => h y (by simp [hy])
  have hb : (b.flatMap f).count c ≤ (b.flatMap g).count c :=
    count_flatMap_le fun y hy => h y (by simp [hy])
  simp only [List.flatMap_append, List.flatMap_cons, List.count_append]
  omega

namespace Bound

theorem count_text (a : Bound) (f : Binding → Binding) (c : Char) :
    (a.restore f).text.count c =
      (a.gap ++ (classOfProperty a.name ++ ['='])).count c + (f a.value).text.count c := by
  rw [← List.count_append]
  simp [text, restore]

/-- Either the attribute comes back as it should, or a bracket is lost. -/
theorem WellFormed.returned_cases {a : Bound} (h : a.WellFormed) :
    (a.returned = a.restored ∧ ¬ a.value.Marked) ∨
      (a.returned.text.count '>' < a.restored.text.count '>' ∧ a.value.Marked) := by
  have hbracket : ∀ {v : List Char}, '<' ∉ v → rewrite fragment? v = v := fun hv => by
    rcases count_rewrite_fragment _ with ⟨hsame, _⟩ | ⟨_, hmark | hmark⟩
    · exact hsame
    · exact absurd (hmark.subset (by decide)) hv
    · exact absurd (hmark.subset (by decide)) hv
  have hvalue := h.value
  cases hv : a.value with
  | quoted v =>
    rw [hv] at hvalue
    refine Or.inl ⟨?_, id⟩
    simp [returned, restored, restore, hv, Binding.plain, Binding.unmarked,
      hbracket (hvalue '<' (by decide))]
  | number ds =>
    rw [hv] at hvalue
    have hdigits : Lacks marks ds := Spelling.wellFormed_unnumbered (s := .number ds) hvalue
    refine Or.inl ⟨?_, id⟩
    simp [returned, restored, restore, hv, Binding.plain, Binding.unmarked,
      hbracket (hdigits '<' (by decide))]
  | expression e =>
    refine Or.inl ⟨?_, id⟩
    simp [returned, restored, restore, hv, Binding.plain, Binding.unmarked]
  | string q t =>
    rcases count_rewrite_fragment t with ⟨hsame, hopen, hclose⟩ | ⟨hlt, hmark⟩
    · refine Or.inl ⟨?_, not_or.2 ⟨hopen, hclose⟩⟩
      simp [returned, restored, restore, hv, Binding.plain, Binding.unmarked, hsame]
    · refine Or.inr ⟨?_, hmark⟩
      rw [returned, restored, count_text, count_text, hv]
      simp only [Binding.plain, Binding.unmarked, Binding.text, List.count_cons, List.count_append]
      omega

end Bound

namespace Rendering

variable {r : Rendering}

theorem count_body_lt (h : r.WellFormed) {u : Passage Bound} (hu : u ∈ r.root.passages) {a : Bound}
    (ha : a ∈ u.attributes) (hmarked : a.value.Marked) :
    (r.body fun a => a.returned.text).count '>' < (r.body fun a => a.restored.text).count '>' := by
  have hle : ∀ v ∈ r.root.passages, ∀ b ∈ v.attributes,
      b.returned.text.count '>' ≤ b.restored.text.count '>' := by
    intro v hv b hb
    rcases ((h.passages v hv).attributes b hb).returned_cases with ⟨hsame, _⟩ | ⟨hlt, _⟩
    · rw [hsame]
    · omega
  have hcount : ∀ (v : Passage Bound) (attr : Bound → List Char), (v.text attr).count '>' =
      (v.before ++ '<' :: (v.kind.front ++ (v.name ++ (v.gap ++ v.kind.back ++ ['>'])))).count '>' +
        (v.attributes.flatMap attr).count '>' := by
    intro v attr
    simp only [Passage.text, Passage.inside, List.count_append, List.count_cons]
    omega
  have hlt : a.returned.text.count '>' < a.restored.text.count '>' := by
    rcases ((h.passages u hu).attributes a ha).returned_cases with ⟨_, hnone⟩ | ⟨hlt, _⟩
    · exact absurd hmarked hnone
    · exact hlt
  rw [body, body, List.count_append, List.count_append]
  refine Nat.add_lt_add_right (count_flatMap_lt (fun v hv => ?_) hu ?_) _
  · rw [hcount, hcount]
    exact Nat.add_le_add_left (count_flatMap_le (hle v hv)) _
  · rw [hcount, hcount]
    exact Nat.add_lt_add_left (count_flatMap_lt (hle u hu) ha hlt) _

/-- Component markup comes back as the layout of the same markup with classes, numbers and texts as
quoted values, but for the marks of fragments that its texts hold; so it does come back exactly if
they hold none. -/
theorem ofComponent_rendering (r : Rendering) (h : r.WellFormed) :
    ofComponent r.text = layout (r.body fun a => a.returned.text) ∧
    (ofComponent r.text = layout (r.body fun a => a.restored.text) ↔ r.FragmentsApart) := by
  refine ⟨ofComponent_eq h, ?_⟩
  rw [ofComponent_eq h]
  constructor
  · intro hsame u hu a ha hmarked
    have hlt := count_body_lt h hu ha hmarked
    have hsolid := congrArg solid hsame
    rw [solid_layout, solid_layout] at hsolid
    have hcount : ∀ s : List Char, (solid s).count '>' = s.count '>' := fun s =>
      List.count_filter (by decide)
    have hequal := congrArg (List.count '>') hsolid
    rw [hcount, hcount] at hequal
    omega
  · intro hapart
    have hattribute : ∀ u ∈ r.root.passages, ∀ a ∈ u.attributes,
        a.returned.text = a.restored.text := by
      intro u hu a ha
      rcases ((h.passages u hu).attributes a ha).returned_cases with ⟨hsame, _⟩ | ⟨_, hmarked⟩
      · rw [hsame]
      · exact absurd hmarked (hapart u hu a ha)
    have hpassage : ∀ u ∈ r.root.passages, u.text (fun a => a.returned.text) =
        u.text fun a => a.restored.text := by
      intro u hu
      rw [Passage.text, Passage.inside, List.flatMap_congr (hattribute u hu), Passage.text,
        Passage.inside]
    have hroot : (r.root.text fun a => a.returned.text) = r.root.text fun a => a.restored.text :=
      List.flatMap_congr hpassage
    rw [body, body, hroot]

/-- A fragment around a root with a value of each shape, texts with brackets among them. -/
def panel : Rendering where
  root := .element "\n ".toList "svg".toList
    [⟨" ".toList, className, .quoted "a b".toList⟩,
      ⟨"\n".toList, "width".toList, .number "24".toList⟩] []
    [.closed "t".toList "path".toList
      [⟨" ".toList, "d-x:y".toList, .string '\'' "a > b".toList⟩,
        ⟨" ".toList, className, .string '"' "c".toList⟩,
        ⟨"  ".toList, "onClick".toList,
          .expression ("\x7b...f('x', \x7b k: 1 \x7d)\x7d".toList)⟩] " ".toList] [] []
  tail := "\n".toList
  fragment := true

theorem ofComponent_rendering_panel :
    panel.WellFormed ∧ panel.FragmentsApart ∧
      panel.text = ("<>\n <svg className=\"a b\"\nwidth=\x7b24\x7d>t<path d-x:y=\x7b'a > b'\x7d" ++
        " className=\x7b\"c\"\x7d  onClick=\x7b\x7b...f('x', \x7b k: 1 \x7d)\x7d\x7d />" ++
        "</svg>\n</>").toList ∧
      ofComponent panel.text = ("<svg class=\"a b\"\nwidth=\"24\">t<path d-x:y=\"a > b\"" ++
        " class=\"c\"  onClick=\x7b\x7b...f('x', \x7b k: 1 \x7d)\x7d\x7d />\n</svg>").toList := by
  have hwell : panel.WellFormed := by decide +kernel
  have hapart : panel.FragmentsApart := by decide +kernel
  have hresult := (ofComponent_rendering panel hwell).2.2 hapart
  refine ⟨hwell, hapart, by decide +kernel, ?_⟩
  rw [hresult]
  decide +kernel

/-- What looks like a fragment inside a text in quotes is lost: `<a b={'<>'}/>` comes back as
`<a b=""/>`. -/
theorem ofComponent_rendering_markedText :
    ∃ r : Rendering, r.WellFormed ∧ r.text = "<a b=\x7b'<>'\x7d/>".toList ∧
      layout (r.body fun a => a.restored.text) = "<a b=\"<>\"/>".toList ∧
      ofComponent r.text = "<a b=\"\"/>".toList := by
  let r : Rendering :=
    ⟨.closed [] ['a'] [⟨[' '], ['b'], .string '\'' ['<', '>']⟩] [], [], false⟩
  have hwell : r.WellFormed := by decide
  exact ⟨r, hwell, by decide, by decide, by decide⟩

end Rendering

end Markup
end SvgIcon
