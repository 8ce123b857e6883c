import SvgIcon.Proofs.Markup.Outline
import SvgIcon.Proofs.Markup.Names

/-!
Markup as it stands in a file, blanks and spellings included.  A stretch is a tag with the text in
front of it; the text of a tree is that of its stretches one after the other, so a pass that knows
only flat text is described stretch by stretch.
-/

namespace SvgIcon
namespace Markup

open Text

/-- What no name, value or text holds of its own. -/
def marks : List Char := ['"', '\'', '<', '>', '\x7b', '\x7d', '=']

/-- The text is made of blanks. -/
def Blank (s : List Char) : Prop := ∀ c ∈ s, isBlank c = true

/-- The text holds no blank. -/
def Unspaced (s : List Char) : Prop := ∀ c ∈ s, isBlank c = false

instance (s : List Char) : Decidable (Blank s) :=
  inferInstanceAs (Decidable (∀ c ∈ s, isBlank c = true))

instance (s : List Char) : Decidable (Unspaced s) :=
  inferInstanceAs (Decidable (∀ c ∈ s, isBlank c = false))

theorem Blank.notMem {s : List Char} (h : Blank s) {c : Char} (hc : isBlank c = false) : c ∉ s := by
  intro hmem
  rw [h c hmem] at hc
  exact Bool.noConfusion hc

/-! ## Attributes -/

/-- The value of an attribute as it is written. -/
inductive Spelling
  /-- `"v"` -/
  | quoted (v : List Char)
  /-- `{12}` -/
  | number (digits : List Char)
  /-- `{'v'}`, with quotes of either kind. -/
  | expression (quote : Char) (v : List Char)
  /-- `{{ key: 'v' }}` -/
  | literal (body : List Char)
  deriving DecidableEq, Repr

namespace Spelling

def front : Spelling → List Char
  | quoted _ => ['"']
  | number _ => ['\x7b']
  | expression quote _ => ['\x7b', quote]
  | literal _ => ['\x7b', '\x7b']

def inner : Spelling → List Char
  | quoted v => v
  | number digits => digits
  | expression _ v => v
  | literal body => body

def back : Spelling → List Char
  | quoted _ => ['"']
  | number _ => ['\x7d']
  | expression quote _ => [quote, '\x7d']
  | literal _ => ['\x7d', '\x7d']

def text (s : Spelling) : List Char := s.front ++ (s.inner ++ s.back)

/-- Every part of an object literal stands between two quotes or outside of any. -/
def WellFormed : Spelling → Prop
  | quoted v => Lacks marks v
  | number digits => digits ≠ [] ∧ ∀ c ∈ digits, isDigit c = true
  | expression quote v => isQuote quote = true ∧ v ≠ [] ∧ Lacks marks v
  | literal body => Lacks (marks.erase '\'') body ∧ body.count '\'' % 2 = 0

instance : DecidablePred WellFormed
  | quoted _ => inferInstanceAs (Decidable (Lacks _ _))
  | number _ => inferInstanceAs (Decidable (_ ∧ _))
  | expression _ _ => inferInstanceAs (Decidable (_ ∧ _))
  | literal _ => inferInstanceAs (Decidable (_ ∧ _))

/-- The value is no expression that becomes a quoted value. -/
def isPlain : Spelling → Bool
  | quoted _ => true
  | literal _ => true
  | _ => false

def mapInner (f : List Char → List Char) : Spelling → Spelling
  | quoted v => quoted (f v)
  | number digits => number (f digits)
  | expression quote v => expression quote (f v)
  | literal body => literal (f body)

theorem front_mapInner (f : List Char → List Char) (s : Spelling) :
    (s.mapInner f).front = s.front := by
  cases s <;> rfl

theorem inner_mapInner (f : List Char → List Char) (s : Spelling) :
    (s.mapInner f).inner = f s.inner := by
  cases s <;> rfl

theorem back_mapInner (f : List Char → List Char) (s : Spelling) :
    (s.mapInner f).back = s.back := by
  cases s <;> rfl

theorem isPlain_mapInner (f : List Char → List Char) (s : Spelling) :
    (s.mapInner f).isPlain = s.isPlain := by
  cases s <;> rfl

end Spelling

/-- An attribute as it is written, with the blanks in front of it. -/
structure Spelled where
  gap : List Char
  name : List Char
  value : Spelling
  deriving DecidableEq, Repr

namespace Spelled

def text (a : Spelled) : List Char := a.gap ++ (a.name ++ '=' :: a.value.text)

def rename (f : List Char → List Char) (a : Spelled) : Spelled := { a with name := f a.name }

def respell (f : Spelling → Spelling) (a : Spelled) : Spelled := { a with value := f a.value }

structure WellFormed (a : Spelled) : Prop where
  spaced : a.gap ≠ []
  gap : Blank a.gap
  named : a.name ≠ []
  name : Lacks marks a.name
  unspaced : Unspaced a.name
  value : a.value.WellFormed

instance (a : Spelled) : Decidable a.WellFormed :=
  decidable_of_iff
    (a.gap ≠ [] ∧ Blank a.gap ∧ a.name ≠ [] ∧ Lacks marks a.name ∧ Unspaced a.name ∧
      a.value.WellFormed)
    ⟨fun ⟨h₁, h₂, h₃, h₄, h₅, h₆⟩ => ⟨h₁, h₂, h₃, h₄, h₅, h₆⟩,
      fun h => ⟨h.spaced, h.gap, h.named, h.name, h.unspaced, h.value⟩⟩

end Spelled

/-! ## Stretches -/

/-- The three kinds of tags: `<n>`, `</n>` and `<n/>`. -/
inductive Kind
  | opening
  | closing
  | closed
  deriving DecidableEq, Repr

namespace Kind

def front : Kind → List Char
  | closing => ['/']
  | _ => []

def back : Kind → List Char
  | closed => ['/']
  | _ => []

theorem eq_slash_of_mem_back {k : Kind} {c : Char} (h : c ∈ k.back) : c = '/' := by
  cases k <;> simp_all [back]

theorem notMem_marks {c : Char} (h : c ≠ '/') (k : Kind) : c ∉ k.front ∧ c ∉ k.back := by
  cases k <;> simp [front, back, h]

end Kind

/-- A tag, and the text in front of it. -/
structure Stretch where
  before : List Char
  kind : Kind
  name : List Char
  attributes : List Spelled
  /-- The blanks before the end of the tag. -/
  gap : List Char
  deriving DecidableEq, Repr

/-- The name of an element: no mark, blank or slash in it, and neither `!` nor `?` in front. -/
structure IsTagName (n : List Char) : Prop where
  filled : n ≠ []
  lacks : Lacks ('/' :: marks) n
  unspaced : Unspaced n
  declares : n.head? ≠ some '!' ∧ n.head? ≠ some '?'

instance (n : List Char) : Decidable (IsTagName n) :=
  decidable_of_iff
    (n ≠ [] ∧ Lacks ('/' :: marks) n ∧ Unspaced n ∧ n.head? ≠ some '!' ∧ n.head? ≠ some '?')
    ⟨fun ⟨h₁, h₂, h₃, h₄⟩ => ⟨h₁, h₂, h₃, h₄⟩,
      fun h => ⟨h.filled, h.lacks, h.unspaced, h.declares⟩⟩

namespace Stretch

/-- The end of the tag before its last bracket. -/
def stop (u : Stretch) : List Char := u.gap ++ u.kind.back

/-- The tag without its brackets. -/
def inside (u : Stretch) : List Char :=
  u.kind.front ++ (u.name ++ (u.attributes.flatMap Spelled.text ++ u.stop))

def tag (u : Stretch) : List Char := '<' :: (u.inside ++ ['>'])

def text (u : Stretch) : List Char := u.before ++ u.tag

structure WellFormed (u : Stretch) : Prop where
  before : Lacks marks u.before
  name : IsTagName u.name
  attributes : ∀ a ∈ u.attributes, a.WellFormed
  gap : Blank u.gap

instance (u : Stretch) : Decidable u.WellFormed :=
  decidable_of_iff
    (Lacks marks u.before ∧ IsTagName u.name ∧ (∀ a ∈ u.attributes, a.WellFormed) ∧ Blank u.gap)
    ⟨fun ⟨h₁, h₂, h₃, h₄⟩ => ⟨h₁, h₂, h₃, h₄⟩, fun h => ⟨h.before, h.name, h.attributes, h.gap⟩⟩

/-- Whether the attributes of the tag are read. -/
def isRead (u : Stretch) : Bool := u.kind ≠ .closing && u.name.head?.any isAsciiLetter

/-- The tag is the end of an `svg` element. -/
def EndsSvg (u : Stretch) : Prop := u.kind = .closing ∧ u.name = "svg".toList ∧ u.gap = []

instance : DecidablePred EndsSvg := fun _ => inferInstanceAs (Decidable (_ ∧ _))

/-- The stretch with its text and blanks put through one function and its attributes through
another. -/
def map (spaces : List Char → List Char) (attr : Spelled → Spelled) (u : Stretch) : Stretch :=
  { u with
    before := spaces u.before
    attributes := u.attributes.map attr
    gap := spaces u.gap }

end Stretch

/-- The text of stretches, one after the other. -/
def written (us : List Stretch) : List Char := us.flatMap Stretch.text

theorem written_cons (u : Stretch) (us : List Stretch) :
    written (u :: us) = u.text ++ written us := List.flatMap_cons

theorem written_append (us vs : List Stretch) : written (us ++ vs) = written us ++ written vs :=
  List.flatMap_append

/-! ## Trees -/

/-- An element as it is written, with the text in front of it. -/
inductive Node
  /-- `<name …/>` -/
  | closed (before name : List Char) (attributes : List Spelled) (gap : List Char)
  /-- `<name …>children</name>`, with the text behind the last child and the blanks of the end
  tag. -/
  | element (before name : List Char) (attributes : List Spelled) (gap : List Char)
      (children : List Node) (last : List Char) (endGap : List Char)

namespace Node

mutual
def stretches : Node → List Stretch
  | closed before name attributes gap => [⟨before, .closed, name, attributes, gap⟩]
  | element before name attributes gap children last endGap =>
    ⟨before, .opening, name, attributes, gap⟩ ::
      (stretchesOf children ++ [⟨last, .closing, name, [], endGap⟩])

def stretchesOf : List Node → List Stretch
  | [] => []
  | n :: ns => stretches n ++ stretchesOf ns
end

end Node

/-- An `svg` element as it is written: what its tag holds, its children, and the text behind the
last of them. -/
structure Drawing where
  attributes : List Spelled
  gap : List Char
  children : List Node
  last : List Char

namespace Drawing

/-- The stretches of a drawing but the last one. -/
def opened (t : Drawing) : List Stretch :=
  ⟨[], .opening, "svg".toList, t.attributes, t.gap⟩ :: Node.stretchesOf t.children

def ending (t : Drawing) : Stretch := ⟨t.last, .closing, "svg".toList, [], []⟩

def stretches (t : Drawing) : List Stretch := t.opened ++ [t.ending]

def text (t : Drawing) : List Char := written t.stretches

/-- Names, values and texts hold no mark of their own, no attribute is named as one that turns into
`className` behind a colon or a point, and the only `</svg>` is the last tag. -/
structure WellFormed (t : Drawing) : Prop where
  stretches : ∀ u ∈ t.stretches, u.WellFormed
  names : ∀ u ∈ t.stretches, ∀ a ∈ u.attributes, ClassNameApart a.name
  single : ∀ u ∈ t.opened, ¬ u.EndsSvg

instance (t : Drawing) : Decidable t.WellFormed :=
  decidable_of_iff
    ((∀ u ∈ t.stretches, u.WellFormed) ∧
      (∀ u ∈ t.stretches, ∀ a ∈ u.attributes, ClassNameApart a.name) ∧
      ∀ u ∈ t.opened, ¬ u.EndsSvg)
    ⟨fun ⟨h₁, h₂, h₃⟩ => ⟨h₁, h₂, h₃⟩, fun h => ⟨h.stretches, h.names, h.single⟩⟩

end Drawing

/-! ## Characters -/

theorem isWord_eq_false_of_isBlank {c : Char} (h : isBlank c = true) : isWord c = false := by
  rw [← Bool.not_eq_true]
  intro hword
  rw [isBlank_eq_false_of_isWord hword] at h
  exact Bool.noConfusion h

/-- A mark is neither blank nor part of a name. -/
theorem solid_of_mem_marks {c : Char} (h : c ∈ marks) :
    isBlank c = false ∧ Attribute.isNameChar c = false := by
  simp only [marks, List.mem_cons, List.not_mem_nil, or_false] at h
  rcases h with rfl | rfl | rfl | rfl | rfl | rfl | rfl <;> decide

theorem isBlank_eq_false_of_isNameChar {c : Char} (h : Attribute.isNameChar c = true) :
    isBlank c = false := by
  simp only [Attribute.isNameChar, Bool.or_eq_true, decide_eq_true_eq] at h
  rcases h with ((hword | rfl) | rfl) | rfl
  · exact isBlank_eq_false_of_isWord hword
  all_goals decide

theorem isNameEnd_cases {c : Char} (h : isNameEnd c = true) :
    isBlank c = true ∨ c = '/' ∨ c = '>' := by
  simpa [isNameEnd, or_assoc] using h

theorem isWord_of_isNameEnd {c : Char} (h : isNameEnd c = true) : isWord c = false := by
  rcases isNameEnd_cases h with hc | rfl | rfl
  · exact isWord_eq_false_of_isBlank hc
  · decide
  · decide

namespace Spelling

def enclosers : List Char := ['"', '\'', '\x7b', '\x7d']

theorem solid_of_mem_enclosers {c : Char} (h : c ∈ enclosers) :
    isBlank c = false ∧ isWord c = false ∧ c ∉ ['<', '>', '='] := by
  simp only [enclosers, List.mem_cons, List.not_mem_nil, or_false] at h
  rcases h with rfl | rfl | rfl | rfl <;> decide

/-- A value stands between enclosing marks. -/
theorem enclosed {s : Spelling} (h : s.WellFormed) :
    (∀ c ∈ s.front, c ∈ enclosers) ∧ ∀ c ∈ s.back, c ∈ enclosers := by
  cases s with
  | quoted v => simp [front, back, enclosers]
  | number ds => simp [front, back, enclosers]
  | literal b => simp [front, back, enclosers]
  | expression q v =>
    have hq : q = '"' ∨ q = '\'' := by simpa [isQuote] using h.1
    rcases hq with rfl | rfl <;> simp [front, back, enclosers]

/-- Only a literal holds single quotes, and no value holds another mark. -/
theorem notMem_inner {s : Spelling} (h : s.WellFormed) {c : Char} (hc : c ∈ marks.erase '\'') :
    c ∉ s.inner := by
  have hmark : c ∈ marks := List.mem_of_mem_erase hc
  have hdigit : ∀ d ∈ marks, isDigit d = false := by decide
  cases s with
  | quoted v => exact h c hmark
  | number ds =>
    intro hmem
    have hc := h.2 c hmem
    rw [hdigit c hmark] at hc
    exact Bool.noConfusion hc
  | expression q v => exact h.2.2 c hmark
  | literal b => exact h.1 c hc

theorem notMem_text {s : Spelling} (h : s.WellFormed) {c : Char} (hc : c ∈ ['<', '>', '=']) :
    c ∉ s.text := by
  have hinner : c ∉ s.inner := notMem_inner h (by
    simp only [List.mem_cons, List.not_mem_nil, or_false] at hc
    rcases hc with rfl | rfl | rfl <;> decide)
  obtain ⟨hfront, hback⟩ := enclosed h
  simp only [text, List.mem_append, not_or]
  exact ⟨fun hmem => (solid_of_mem_enclosers (hfront c hmem)).2.2 hc, hinner,
    fun hmem => (solid_of_mem_enclosers (hback c hmem)).2.2 hc⟩

end Spelling

theorem Spelled.notMem_text {a : Spelled} (h : a.WellFormed) {c : Char} (hc : c ∈ ['<', '>']) :
    c ∉ a.text := by
  have hmark : c ∈ marks ∧ c ≠ '=' ∧ c ∈ ['<', '>', '='] := by
    simp only [List.mem_cons, List.not_mem_nil, or_false] at hc
    rcases hc with rfl | rfl <;> decide
  simp only [text, List.mem_append, List.mem_cons, not_or]
  exact ⟨h.gap.notMem (solid_of_mem_marks hmark.1).1, h.name c hmark.1, hmark.2.1,
    Spelling.notMem_text h.value hmark.2.2⟩

namespace Spelled

theorem WellFormed.rename {a : Spelled} (h : a.WellFormed) {f : List Char → List Char}
    (hne : f a.name ≠ [])
    (hf : ∀ c ∈ f a.name, c ∈ a.name ∨ Attribute.isNameChar c = true) :
    (a.rename f).WellFormed where
  spaced := h.spaced
  gap := h.gap
  named := hne
  name c hc hmem := by
    rcases hf c hmem with hin | hname
    · exact h.name c hc hin
    · rw [(solid_of_mem_marks hc).2] at hname
      exact Bool.noConfusion hname
  unspaced c hmem := by
    rcases hf c hmem with hin | hname
    · exact h.unspaced c hin
    · exact isBlank_eq_false_of_isNameChar hname
  value := h.value

theorem WellFormed.respell {a : Spelled} (h : a.WellFormed) {f : Spelling → Spelling}
    (hf : (f a.value).WellFormed) : (a.respell f).WellFormed :=
  ⟨h.spaced, h.gap, h.named, h.name, h.unspaced, hf⟩

end Spelled

namespace Stretch

variable {u : Stretch}

theorem WellFormed.map {spaces : List Char → List Char} {attr : Spelled → Spelled}
    (h : u.WellFormed) (hbefore : Lacks marks (spaces u.before)) (hgap : Blank (spaces u.gap))
    (ha : ∀ a ∈ u.attributes, (attr a).WellFormed) : (u.map spaces attr).WellFormed where
  before := hbefore
  name := h.name
  attributes a hmem := by
    obtain ⟨b, hb, rfl⟩ := List.mem_map.1 hmem
    exact ha b hb
  gap := hgap

theorem map_map (spaces spaces' : List Char → List Char) (attr attr' : Spelled → Spelled)
    (u : Stretch) :
    (u.map spaces attr).map spaces' attr' = u.map (spaces' ∘ spaces) (attr' ∘ attr) := by
  simp [Stretch.map]

theorem WellFormed.exists_name (h : u.WellFormed) : ∃ c n, u.name = c :: n :=
  List.exists_cons_of_ne_nil h.name.filled

theorem WellFormed.notMem_inside (h : u.WellFormed) {c : Char} (hc : c ∈ ['<', '>']) :
    c ∉ u.inside := by
  have hmark : c ∈ marks ∧ c ≠ '/' := by
    simp only [List.mem_cons, List.not_mem_nil, or_false] at hc
    rcases hc with rfl | rfl <;> decide
  have hslash : c ∉ u.kind.front ∧ c ∉ u.kind.back := by
    cases u.kind <;> simp [Kind.front, Kind.back, hmark.2]
  simp only [inside, stop, List.mem_append, List.mem_flatMap, not_or, not_exists, not_and]
  exact ⟨hslash.1, h.name.lacks c (List.mem_cons_of_mem _ hmark.1),
    fun a ha => Spelled.notMem_text (h.attributes a ha) hc,
    h.gap.notMem (solid_of_mem_marks hmark.1).1, hslash.2⟩

theorem WellFormed.exists_cons_stop (h : u.WellFormed) :
    ∃ c r, u.stop ++ ['>'] = c :: r ∧ isNameEnd c = true := by
  rw [stop]
  cases hgap : u.gap with
  | cons c g => exact ⟨c, _, rfl, by simp [isNameEnd, h.gap c (by simp [hgap])]⟩
  | nil =>
    cases u.kind with
    | closed => exact ⟨'/', _, rfl, by decide⟩
    | opening => exact ⟨'>', _, rfl, by decide⟩
    | closing => exact ⟨'>', _, rfl, by decide⟩

/-- Behind attributes or in their place, something stands that ends a name. -/
theorem exists_cons_attributes {as : List Spelled} (h : ∀ a ∈ as, a.WellFormed) {c : Char}
    (hc : isNameEnd c = true) (r : List Char) :
    ∃ d t, as.flatMap Spelled.text ++ c :: r = d :: t ∧ isNameEnd d = true := by
  cases as with
  | nil => exact ⟨c, r, rfl, hc⟩
  | cons a as =>
    have ha := h a List.mem_cons_self
    obtain ⟨d, g, hgap⟩ := List.exists_cons_of_ne_nil ha.spaced
    refine ⟨d, g ++ (a.name ++ '=' :: a.value.text) ++ as.flatMap Spelled.text ++ c :: r, ?_, ?_⟩
    · rw [List.flatMap_cons, Spelled.text, hgap]
      rfl
    · simp [isNameEnd, ha.gap d (by simp [hgap])]

/-! ## Passes part by part -/

/-- What a pass answers for a stretch, put together from what it answers for its parts.  The name
need not be a part of its own, since the pass may have to look at the character behind it. -/
theorem turns_map {pass spaces : List Char → List Char} {attr : Spelled → Spelled}
    (h : u.WellFormed)
    (hbefore : Turns pass (u.before ++ ['<']) (spaces u.before ++ ['<']))
    (hname : ∀ c, isNameEnd c = true → ∀ rest, pass (u.kind.front ++ (u.name ++ c :: rest)) =
      u.kind.front ++ (u.name ++ pass (c :: rest)))
    (ha : ∀ a ∈ u.attributes, Turns pass a.text (attr a).text)
    (hstop : Turns pass (u.stop ++ ['>']) ((u.map spaces attr).stop ++ ['>'])) :
    Turns pass u.text (u.map spaces attr).text := by
  obtain ⟨d, v, hend, hd⟩ := h.exists_cons_stop
  obtain ⟨c, r, hcons, hc⟩ := exists_cons_attributes h.attributes hd v
  rw [← hend] at hcons
  have hattributes : Turns pass (u.attributes.flatMap Spelled.text)
      ((u.attributes.map attr).flatMap Spelled.text) := by
    rw [List.flatMap_map]
    exact Turns.flatMap ha
  have htail := hattributes.append hstop
  intro rest
  have hrest := htail rest
  have hall := hbefore (u.kind.front ++ (u.name ++ (c :: r ++ rest)))
  rw [hcons] at hrest
  rw [List.cons_append, hname c hc, ← List.cons_append, hrest] at hall
  have htext : u.text ++ rest =
      u.before ++ ['<'] ++ (u.kind.front ++ (u.name ++ (c :: r ++ rest))) := by
    rw [← hcons]
    simp [text, tag, inside]
  rw [htext, hall]
  simp [text, tag, inside, map, stop]

/-- A recogniser that looks for something that starts with `<`, and finds it at no tag. -/
theorem turns_of_bracket {find : Recogniser} (h : u.WellFormed)
    (hother : ∀ c, c ≠ '<' → ∀ s, find (c :: s) = none)
    (hhead : ∀ rest, find (u.tag ++ rest) = none) : Turns (rewrite find) u.text u.text := by
  have hinside : '<' ∉ u.inside ++ ['>'] := by
    simpa using h.notMem_inside (c := '<') (by decide)
  have hbefore : Turns (rewrite find) u.before u.before :=
    turns_rewrite_of_notMem (h.before '<' (by decide)) hother
  exact hbefore.append (turns_rewrite_cons hinside hother hhead)

/-- A recogniser that looks for something that starts with `=`. -/
theorem turns_of_equals {find : Recogniser} {spell : Spelling → Spelling} (h : u.WellFormed)
    (hother : ∀ c, c ≠ '=' → ∀ s, find (c :: s) = none)
    (hvalue : ∀ a ∈ u.attributes,
      Turns (rewrite find) ('=' :: a.value.text) ('=' :: (spell a.value).text)) :
    Turns (rewrite find) u.text (u.map id (Spelled.respell spell)).text := by
  have hcopy : ∀ {s : List Char}, '=' ∉ s → Turns (rewrite find) s s :=
    fun hs => turns_rewrite_of_notMem hs hother
  have hblank : ∀ {g : List Char}, Blank g → '=' ∉ g := fun hg => hg.notMem (by decide)
  have hkind := u.kind.notMem_marks (c := '=') (by decide)
  have hbefore : '=' ∉ u.before ++ ['<'] := by simpa using h.before '=' (by decide)
  have hstop : '=' ∉ u.stop ++ ['>'] := by simp [stop, hblank h.gap, hkind.2]
  have hname : Turns (rewrite find) (u.kind.front ++ u.name) (u.kind.front ++ u.name) :=
    hcopy (by simp [hkind.1, h.name.lacks '=' (by decide)])
  refine u.turns_map h (hcopy hbefore) (fun c _ rest => ?_) (fun a ha => ?_) (hcopy hstop)
  · have hrest := hname (c :: rest)
    rwa [List.append_assoc, List.append_assoc] at hrest
  · have hattribute := h.attributes a ha
    exact (hcopy (hblank hattribute.gap)).append
      ((hcopy (hattribute.name '=' (by decide))).append (hvalue a ha))

end Stretch

/-- What a pass answers for the text of stretches. -/
theorem pass_written {pass : List Char → List Char} {f g : Stretch → Stretch}
    {us : List Stretch} (hnil : pass [] = [])
    (h : ∀ u ∈ us, Turns pass (f u).text (g u).text) :
    pass (written (us.map f)) = written (us.map g) := by
  rw [written, written, List.flatMap_map, List.flatMap_map]
  exact (Turns.flatMap h).whole hnil

end Markup
end SvgIcon
