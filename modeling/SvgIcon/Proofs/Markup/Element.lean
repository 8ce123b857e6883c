import SvgIcon.Markup.Tag
import SvgIcon.Proofs.Text.Classes
import SvgIcon.Proofs.Text.Passes

/-!
Markup as a tree, and its printer.  The transformations of this library read flat text; a tree
says what that text means, so a transformation is right if it takes the printed tree to the
printed tree that is wanted.  How attributes and texts are written is left to two functions:
the same tree serves for markup before and after a transformation.
-/

namespace SvgIcon
namespace Markup

open Text

/-- An element with attributes of any kind.  One without children is written as a pair of tags if
it is a parent, and as one tag if it is closed. -/
inductive Element (α : Type)
  /-- `<name …/>`, or with a blank before the slash. -/
  | closed (name : List Char) (attributes : List α) (spaced : Bool)
  /-- `<name …>text</name>` -/
  | leaf (name : List Char) (attributes : List α) (text : List Char)
  /-- `<name …>children</name>` -/
  | parent (name : List Char) (attributes : List α) (children : List (Element α))

variable {α : Type}

/-- A tag from `<` to its end mark, each attribute behind one space. -/
def tag (attr : α → List Char) (name : List Char) (attributes : List α)
    (mark : List Char) : List Char :=
  '<' :: (name ++ attributes.flatMap (fun a => ' ' :: attr a) ++ mark)

def endTag (name : List Char) : List Char := '<' :: '/' :: (name ++ ['>'])

def openMark : List Char := ['>']

def closeMark (spaced : Bool) : List Char := if spaced then [' ', '/', '>'] else ['/', '>']

namespace Element

def name : Element α → List Char
  | closed n _ _ => n
  | leaf n _ _ => n
  | parent n _ _ => n

def attributes : Element α → List α
  | closed _ as _ => as
  | leaf _ as _ => as
  | parent _ as _ => as

def text? : Element α → Option (List Char)
  | leaf _ _ s => some s
  | _ => none

def children : Element α → List (Element α)
  | parent _ _ es => es
  | _ => []

def isClosed : Element α → Bool
  | closed _ _ _ => true
  | _ => false

def mark : Element α → List Char
  | closed _ _ spaced => closeMark spaced
  | _ => openMark

mutual
/-- The element and all below it, in the order of their first tags. -/
def elements : Element α → List (Element α)
  | closed n as spaced => [closed n as spaced]
  | leaf n as s => [leaf n as s]
  | parent n as es => parent n as es :: elementsOf es

def elementsOf : List (Element α) → List (Element α)
  | [] => []
  | e :: es => elements e ++ elementsOf es
end

mutual
/-- The text of a tree, its attributes and texts written by two functions. -/
def write (attr : α → List Char) (body : List Char → List Char) : Element α → List Char
  | closed n as spaced => tag attr n as (closeMark spaced)
  | leaf n as s => tag attr n as openMark ++ (body s ++ endTag n)
  | parent n as es => tag attr n as openMark ++ (writeAll attr body es ++ endTag n)

def writeAll (attr : α → List Char) (body : List Char → List Char) :
    List (Element α) → List Char
  | [] => []
  | e :: es => write attr body e ++ writeAll attr body es
end

mutual
/-- Every pair of tags with nothing between them as one tag that closes its element. -/
def closePairs : Element α → Element α
  | closed n as spaced => closed n as spaced
  | leaf n as s => leaf n as s
  | parent n as es => if es.isEmpty then closed n as true else parent n as (closePairsIn es)

def closePairsIn : List (Element α) → List (Element α)
  | [] => []
  | e :: es => closePairs e :: closePairsIn es
end

theorem mem_elements_self (e : Element α) : e ∈ e.elements := by
  cases e <;> simp [elements]

/-- What closing pairs does not change in an element: its name, attributes and text. -/
def content (e : Element α) : List Char × List α × Option (List Char) :=
  (e.name, e.attributes, e.text?)

mutual
theorem content_closePairs (t : Element α) :
    t.closePairs.elements.map content = t.elements.map content := by
  cases t with
  | closed n as spaced => rfl
  | leaf n as s => rfl
  | parent n as es =>
    have hes := content_closePairsIn es
    cases es with
    | nil => rfl
    | cons e es =>
      have hclose : (parent n as (e :: es)).closePairs = parent n as (closePairsIn (e :: es)) := by
        simp [closePairs]
      rw [hclose, elements, elements, List.map_cons, List.map_cons, hes]
      rfl

theorem content_closePairsIn (es : List (Element α)) :
    (elementsOf (closePairsIn es)).map content = (elementsOf es).map content := by
  cases es with
  | nil => rfl
  | cons e es =>
    rw [closePairsIn, elementsOf, elementsOf, List.map_append, List.map_append,
      content_closePairs e, content_closePairsIn es]
end

theorem name_closePairs (t : Element α) : t.closePairs.name = t.name := by
  cases t with
  | closed n as spaced => rfl
  | leaf n as s => rfl
  | parent n as es => cases es <;> rfl

/-- Every element of a tree with its pairs closed is, but for the tags, one of the tree. -/
theorem exists_of_mem_closePairs {t e : Element α} (he : e ∈ t.closePairs.elements) :
    ∃ d ∈ t.elements, d.name = e.name ∧ d.attributes = e.attributes ∧ d.text? = e.text? := by
  have hmem : e.content ∈ t.elements.map content :=
    content_closePairs t ▸ List.mem_map_of_mem he
  obtain ⟨d, hd, hcontent⟩ := List.mem_map.1 hmem
  simp only [content, Prod.mk.injEq] at hcontent
  exact ⟨d, hd, hcontent⟩

/-! ## Statements about printed trees -/

/-- What has to be known of one element, apart from its children: how its first tag, its text with
the end tag behind it, and its end tag are related to what is written for them. -/
structure Written (R : List Char → List Char → Prop) (attr attr' : α → List Char)
    (body body' : List Char → List Char) (e : Element α) : Prop where
  tag : R (tag attr e.name e.attributes e.mark) (tag attr' e.name e.attributes e.mark)
  text : ∀ s ∈ e.text?, R (body s ++ endTag e.name) (body' s ++ endTag e.name)
  endTag : R (endTag e.name) (endTag e.name)

section
variable {R : List Char → List Char → Prop} {attr attr' : α → List Char}
  {body body' : List Char → List Char}

mutual
/-- A relation that composes along texts holds between two printings of a tree if it holds element
by element. -/
theorem write_related (nil : R [] [])
    (append : ∀ {a b a' b'}, R a b → R a' b' → R (a ++ a') (b ++ b')) (t : Element α)
    (h : ∀ e ∈ t.elements, Written R attr attr' body body' e) :
    R (t.write attr body) (t.write attr' body') := by
  have hself := h t (mem_elements_self t)
  cases t with
  | closed n as spaced => exact hself.tag
  | leaf n as s => exact append hself.tag (hself.text s rfl)
  | parent n as es =>
    have hes : ∀ e ∈ elementsOf es, Written R attr attr' body body' e :=
      fun e he => h e (List.mem_cons_of_mem _ he)
    have hin := writeAll_related nil append es hes
    exact append hself.tag (append hin hself.endTag)

theorem writeAll_related (nil : R [] [])
    (append : ∀ {a b a' b'}, R a b → R a' b' → R (a ++ a') (b ++ b')) (es : List (Element α))
    (h : ∀ e ∈ elementsOf es, Written R attr attr' body body' e) :
    R (writeAll attr body es) (writeAll attr' body' es) := by
  cases es with
  | nil => exact nil
  | cons e es =>
    have hfirst := write_related nil append e fun d hd => h d (List.mem_append_left _ hd)
    have hrest := writeAll_related nil append es fun d hd => h d (List.mem_append_right _ hd)
    exact append hfirst hrest
end

end

end Element

/-! ## Names and quoted attributes -/

/-- `[A-Za-z][A-Za-z0-9]*` -/
def isElementName : List Char → Bool
  | [] => false
  | c :: s => isAsciiLetter c && s.all fun d => isAsciiLetter d || isAsciiDigit d

/-- An ASCII letter, then letters, digits, `-`, `:`, `.` and `_`. -/
def isAttributeName : List Char → Bool
  | [] => false
  | c :: s => isAsciiLetter c && s.all Attribute.isNameChar

/-- The text holds none of the marks. -/
def Lacks (marks s : List Char) : Prop := ∀ c ∈ marks, c ∉ s

instance (marks s : List Char) : Decidable (Lacks marks s) :=
  List.decidableBAll (fun c => c ∉ s) marks

/-- An attribute written with double quotes. -/
structure Quoted where
  name : List Char
  value : List Char
  deriving DecidableEq, Repr

namespace Quoted

def text (a : Quoted) : List Char := a.name ++ '=' :: '"' :: (a.value ++ ['"'])

def toAttribute (a : Quoted) : Attribute :=
  { space := ' ', name := a.name, equals := ['='], value := '"' :: (a.value ++ ['"']) }

def rename (f : List Char → List Char) (a : Quoted) : Quoted := { a with name := f a.name }

/-- The name is one, and the value has no quote, angle bracket or equals sign. -/
def WellFormed (a : Quoted) : Prop :=
  isAttributeName a.name ∧ Lacks ['"', '<', '>', '='] a.value

instance : DecidablePred WellFormed := fun _ => inferInstanceAs (Decidable (_ ∧ _))

end Quoted

/-- A tree of plain names, well-formed attributes, and texts that are not empty and hold no angle
bracket or double quote. -/
structure Element.WellFormed (t : Element Quoted) : Prop where
  names : ∀ e ∈ t.elements, isElementName e.name
  attributes : ∀ e ∈ t.elements, ∀ a ∈ e.attributes, a.WellFormed
  texts : ∀ e ∈ t.elements, ∀ s ∈ e.text?, s ≠ [] ∧ Lacks ['<', '>', '"'] s

theorem Element.WellFormed.closePairs {t : Element Quoted} (h : t.WellFormed) :
    t.closePairs.WellFormed where
  names e he := by
    obtain ⟨d, hd, hname, _⟩ := Element.exists_of_mem_closePairs he
    exact hname ▸ h.names d hd
  attributes e he := by
    obtain ⟨d, hd, _, hattributes, _⟩ := Element.exists_of_mem_closePairs he
    exact hattributes ▸ h.attributes d hd
  texts e he := by
    obtain ⟨d, hd, _, _, htext⟩ := Element.exists_of_mem_closePairs he
    exact htext ▸ h.texts d hd

instance (t : Element Quoted) : Decidable t.WellFormed :=
  decidable_of_iff
    ((∀ e ∈ t.elements, isElementName e.name) ∧
      (∀ e ∈ t.elements, ∀ a ∈ e.attributes, a.WellFormed) ∧
      ∀ e ∈ t.elements, ∀ s ∈ e.text?, s ≠ [] ∧ Lacks ['<', '>', '"'] s)
    ⟨fun h => ⟨h.1, h.2.1, h.2.2⟩, fun h => ⟨h.names, h.attributes, h.texts⟩⟩

/-- No element whose last child is closed in place has a name that this child's name starts
with. -/
def Element.EndsApart (t : Element α) : Prop :=
  ∀ e ∈ t.elements, ∀ d ∈ e.children.getLast?, d.isClosed → ¬ e.name <+: d.name

instance (t : Element α) : Decidable t.EndsApart :=
  inferInstanceAs (Decidable (∀ e ∈ t.elements, _))

/-- No attribute but `style` turns into a property whose name ends in `style`. -/
def Element.StylesApart (t : Element Quoted) : Prop :=
  ∀ e ∈ t.elements, ∀ a ∈ e.attributes,
    a.name = "style".toList ∨ ¬ "style".toList <:+ propertyName a.name

instance (t : Element Quoted) : Decidable t.StylesApart :=
  inferInstanceAs (Decidable (∀ e ∈ t.elements, _))

end Markup
end SvgIcon
