import SvgIcon.Proofs.Markup.Opening

/-!
Prologs.  A document may have an XML declaration and a document type in front.  What is taken out of
it is each of them that stands on one line, up to its first end mark; so a prolog goes as a whole, but for
the white space around its parts, exactly when no line feed stands within a part and no value holds the
end mark of its part.
-/

namespace SvgIcon
namespace Text

/-! ## Where a text does not stand -/

section
variable {start a b s : List Char} {find : Recogniser}

/-- A text that `start` does not stand in, with a character behind it that `start` lacks. -/
theorem Free.concat_of_not_infix {c : Char} (hc : c ∉ start) (h : ¬ start <:+: a) :
    Free start (a ++ [c]) := by
  induction a with
  | nil =>
    have hprefix : ¬ start <+: [] := fun hstart => h hstart.isInfix
    exact ⟨fun rest => after?_append_eq_none hc hprefix, True.intro⟩
  | cons d a ih =>
    have hprefix : ¬ start <+: d :: a := fun hstart => h hstart.isInfix
    refine ⟨fun rest => ?_, ih fun hrest => h (hrest.trans (List.suffix_cons d a).isInfix)⟩
    have hhere : after? start (d :: a ++ c :: rest) = none := after?_append_eq_none hc hprefix
    simpa using hhere

theorem Free.behind (h : Free start (a ++ b)) : Free start b := by
  induction a with
  | nil => exact h
  | cons c a ih => exact ih h.2

theorem rewrite_of_not_infix (hfind : ∀ s, after? start s = none → find s = none)
    (h : ¬ start <:+: s) : rewrite find s = s := by
  induction s with
  | nil => rfl
  | cons c s ih =>
    have hhere : after? start (c :: s) = none := by
      rw [Option.eq_none_iff_forall_ne_some]
      intro rest hrest
      exact h ⟨[], rest, (after?_eq_some_iff.1 hrest).symm⟩
    rw [rewrite_of_none (hfind _ hhere), ih fun hs => h (hs.trans (List.suffix_cons c s).isInfix)]

end
end Text

namespace Markup

open Text

/-! ## Spans within a line -/

section
variable {start close a : List Char}

theorem lineSpan?_eq_none {s : List Char} (h : after? start s = none) :
    lineSpan? start close s = none := by
  rw [lineSpan?, h]
  rfl

theorem reach?_append (hclose : close ≠ []) (hfree : Free close a) (hbreak : '\n' ∉ a)
    (rest : List Char) : reach? close (a ++ (close ++ rest)) = some (a.length + close.length) := by
  induction a with
  | nil =>
    obtain ⟨c, r, rfl⟩ := List.exists_cons_of_ne_nil hclose
    have hhere : after? (c :: r) (c :: (r ++ rest)) = some rest := after?_append (c :: r) rest
    simp [reach?, hhere]
  | cons c a ih =>
    obtain ⟨hc, hbreak⟩ := not_or.1 (List.mem_cons.not.1 hbreak)
    have hhere : after? close (c :: (a ++ (close ++ rest))) = none := hfree.1 _
    rw [List.cons_append, reach?, hhere, if_neg (by simp), if_neg fun h => hc h.symm, ih hfree.2 hbreak]
    simp
    omega

theorem reach?_break (hfree : Free close (a ++ ['\n'])) (rest : List Char) :
    reach? close (a ++ '\n' :: rest) = none := by
  induction a with
  | nil =>
    have hhere : after? close ('\n' :: rest) = none := hfree.1 rest
    rw [List.nil_append, reach?, hhere]
    rfl
  | cons c a ih =>
    have hhere : after? close (c :: (a ++ '\n' :: rest)) = none := by simpa using hfree.1 rest
    rw [List.cons_append, reach?, hhere, ih hfree.2]
    simp

/-- What stands from `start` to the first `close` on a line is taken out. -/
theorem turns_lineSpan (hstart : start ≠ []) (hclose : close ≠ []) (hfree : Free close a)
    (hbreak : '\n' ∉ a) : Turns (rewrite (lineSpan? start close)) (start ++ (a ++ close)) [] := by
  refine turns_rewrite_match (by simp [hstart]) fun rest => ?_
  rw [List.append_assoc, List.append_assoc, lineSpan?, after?_append]
  show (reach? close (a ++ (close ++ rest))).bind _ = _
  rw [reach?_append hclose hfree hbreak]
  simp

/-- A line feed before the first `close` keeps a text as it is. -/
theorem lineSpan?_break (hfree : Free close (a ++ ['\n'])) (rest : List Char) :
    lineSpan? start close (start ++ (a ++ '\n' :: rest)) = none := by
  rw [lineSpan?, after?_append]
  show (reach? close (a ++ '\n' :: rest)).bind _ = _
  rw [reach?_break hfree]
  rfl

end

/-! ## The grammar -/

namespace Prolog

def isSpace (c : Char) : Bool := c = ' ' || c = '\t' || c = '\r' || c = '\n'

/-- White space that may be missing. -/
structure Space where
  chars : List Char
  blank : ∀ c ∈ chars, isSpace c = true := by decide

/-- White space that has to be there. -/
structure Gap extends Space where
  notEmpty : chars ≠ [] := by decide

/-- A value in quotes.  It does not hold its own quote, but it may hold the other one. -/
structure Literal where
  quote : Char
  chars : List Char
  isQuote : quote = '"' ∨ quote = '\'' := by decide
  closed : quote ∉ chars := by decide

def Literal.text (v : Literal) : List Char := v.quote :: (v.chars ++ [v.quote])

def isSettingChar (c : Char) : Bool :=
  isAsciiLetter c || isAsciiDigit c || c = '.' || c = '_' || c = '-'

/-- A setting of an XML declaration, with the white space in front of it and around its `=`. -/
structure Setting where
  gap : Gap
  front : Space
  behind : Space
  value : Literal
  plain : ∀ c ∈ value.chars, isSettingChar c = true := by decide

def Setting.text (name : List Char) (s : Setting) : List Char :=
  s.gap.chars ++ (name ++ (s.front.chars ++ '=' :: (s.behind.chars ++ s.value.text)))

/-- `<?xml version="1.0" encoding="UTF-8" standalone="no"?>` -/
structure XmlDeclaration where
  version : Setting
  encoding : Option Setting
  standalone : Option Setting
  space : Space

namespace XmlDeclaration

def start : List Char := ['<', '?', 'x', 'm', 'l']

def stop : List Char := ['?', '>']

def inside (x : XmlDeclaration) : List Char :=
  x.version.text "version".toList ++ (x.encoding.toList.flatMap (Setting.text "encoding".toList) ++
    (x.standalone.toList.flatMap (Setting.text "standalone".toList) ++ x.space.chars))

def text (x : XmlDeclaration) : List Char := start ++ (x.inside ++ stop)

end XmlDeclaration

def isPublicChar (c : Char) : Bool :=
  isAsciiLetter c || isAsciiDigit c || " \r\n-'()+,./:=?;!*#@$_%".toList.contains c

/-- A public name of a document type. -/
structure PublicName where
  gap : Gap
  value : Literal
  isPublic : ∀ c ∈ value.chars, isPublicChar c = true := by decide

/-- Where a document type is to be found: its public name, if it has one, and its location. -/
structure Reference where
  gap : Gap
  publicName : Option PublicName
  gap' : Gap
  location : Literal

def Reference.keyword (r : Reference) : List Char :=
  match r.publicName with
  | none => "SYSTEM".toList
  | some n => "PUBLIC".toList ++ (n.gap.chars ++ n.value.text)

def Reference.text (r : Reference) : List Char :=
  r.gap.chars ++ (r.keyword ++ (r.gap'.chars ++ r.location.text))

/-- `<!DOCTYPE svg PUBLIC "…" "…">`, without declarations of its own.  The name of the root may be
anything up to white space or a bracket. -/
structure DocumentType where
  gap : Gap
  root : List Char
  reference : Option Reference
  space : Space
  isRoot : root ≠ [] ∧ ∀ c ∈ root, isSpace c = false ∧ c ≠ '<' ∧ c ≠ '>' := by decide

namespace DocumentType

def start : List Char := ['<', '!', 'D', 'O', 'C', 'T', 'Y', 'P', 'E']

def inside (t : DocumentType) : List Char :=
  t.gap.chars ++ (t.root ++ (t.reference.toList.flatMap Reference.text ++ t.space.chars))

def text (t : DocumentType) : List Char := start ++ (t.inside ++ ['>'])

/-- The location, without its quotes; it is empty if there is no reference. -/
def location (t : DocumentType) : List Char := t.reference.toList.flatMap (·.location.chars)

end DocumentType
end Prolog

/-- What may stand in front of the root of a document. -/
structure Prolog where
  declaration : Option Prolog.XmlDeclaration
  space : Prolog.Space
  documentType : Option Prolog.DocumentType
  space' : Prolog.Space

namespace Prolog

def text (p : Prolog) : List Char :=
  p.declaration.toList.flatMap XmlDeclaration.text ++ (p.space.chars ++
    (p.documentType.toList.flatMap DocumentType.text ++ p.space'.chars))

/-- The white space around the parts. -/
def between (p : Prolog) : List Char := p.space.chars ++ p.space'.chars

/-! ## Characters of the parts -/

section
variable {c : Char}

theorem notMem_of_false {p : Char → Bool} {s : List Char} (hs : ∀ d ∈ s, p d = true) (hc : p c = false) :
    c ∉ s := by
  intro hmem
  rw [hs c hmem] at hc
  exact Bool.noConfusion hc

theorem Space.notMem (s : Space) (hc : isSpace c = false) : c ∉ s.chars :=
  notMem_of_false s.blank hc

theorem Literal.notMem_text {v : Literal} (hquotes : c ≠ '"' ∧ c ≠ '\'') (hc : c ∉ v.chars) :
    c ∉ v.text := by
  have hne : c ≠ v.quote := by
    rintro rfl
    exact v.isQuote.elim hquotes.1 hquotes.2
  simp [text, hne, hc]

theorem Setting.notMem_text {name : List Char} (s : Setting) (hname : c ∉ name)
    (hspace : isSpace c = false) (hsetting : isSettingChar c = false) (hequals : c ≠ '=')
    (hquotes : c ≠ '"' ∧ c ≠ '\'') : c ∉ s.text name := by
  have hvalue := Literal.notMem_text hquotes (notMem_of_false s.plain hsetting)
  simp [text, hname, s.gap.notMem hspace, s.front.notMem hspace, s.behind.notMem hspace, hequals, hvalue]

theorem XmlDeclaration.notMem_inside (x : XmlDeclaration) (hc : c ∈ ['<', '?']) : c ∉ x.inside := by
  simp only [List.mem_cons, List.not_mem_nil, or_false] at hc
  have hspace : isSpace c = false := by rcases hc with rfl | rfl <;> decide
  have hsetting : isSettingChar c = false := by rcases hc with rfl | rfl <;> decide
  have hnone : ∀ name ∈ ["version", "encoding", "standalone"], ∀ s : Setting, c ∉ s.text name.toList := by
    intro name hname s
    refine s.notMem_text ?_ hspace hsetting ?_ ?_
    · simp only [List.mem_cons, List.not_mem_nil, or_false] at hname
      rcases hname with rfl | rfl | rfl <;> rcases hc with rfl | rfl <;> decide
    · rcases hc with rfl | rfl <;> decide
    · rcases hc with rfl | rfl <;> decide
  simp only [inside, List.mem_append, List.mem_flatMap, not_or, not_exists, not_and]
  exact ⟨hnone _ (by decide) _, fun s _ => hnone _ (by decide) s, fun s _ => hnone _ (by decide) s,
    x.space.notMem hspace⟩

namespace Reference

/-- What stands up to the location. -/
def front (r : Reference) : List Char :=
  r.gap.chars ++ (r.keyword ++ (r.gap'.chars ++ [r.location.quote]))

theorem text_eq (r : Reference) : r.text = r.front ++ (r.location.chars ++ [r.location.quote]) := by
  simp [text, front, Literal.text]

theorem notMem_front (r : Reference) (hc : c ∈ ['<', '>']) : c ∉ r.front := by
  simp only [List.mem_cons, List.not_mem_nil, or_false] at hc
  have hspace : isSpace c = false := by rcases hc with rfl | rfl <;> decide
  have hpublic : isPublicChar c = false := by rcases hc with rfl | rfl <;> decide
  have hquotes : c ≠ '"' ∧ c ≠ '\'' := by rcases hc with rfl | rfl <;> decide
  have hwords : c ∉ "SYSTEM".toList ∧ c ∉ "PUBLIC".toList := by
    rcases hc with rfl | rfl <;> decide
  have hkeyword : c ∉ r.keyword := by
    rw [keyword]
    cases r.publicName with
    | none => exact hwords.1
    | some n =>
      have hvalue := Literal.notMem_text hquotes (notMem_of_false n.isPublic hpublic)
      simp only [List.mem_append, not_or]
      exact ⟨hwords.2, n.gap.notMem hspace, hvalue⟩
  have hquote : c ∉ [r.location.quote] := by
    rw [List.mem_singleton]
    rintro rfl
    exact r.location.isQuote.elim hquotes.1 hquotes.2
  simp only [front, List.mem_append, not_or]
  exact ⟨r.gap.notMem hspace, hkeyword, r.gap'.notMem hspace, hquote⟩

end Reference

namespace DocumentType

variable {t : DocumentType}

/-- A text that begins with `<` and holds no quote stands in a document type only if it stands in the
location. -/
theorem free_inside {start : List Char} (hquotes : '"' ∉ '<' :: start ∧ '\'' ∉ '<' :: start)
    (h : ¬ ('<' :: start) <:+: t.location) : Free ('<' :: start) t.inside := by
  have hspace : ∀ s : Space, Free ('<' :: start) s.chars := fun s =>
    .of_notMem_head (s.notMem (by decide))
  have hroot : '<' ∉ t.root := fun hmem => (t.isRoot.2 '<' hmem).2.1 rfl
  have hreference : Free ('<' :: start) (t.reference.toList.flatMap Reference.text) := by
    rw [location] at h
    cases hr : t.reference with
    | none => exact True.intro
    | some r =>
      have hlocation : ¬ ('<' :: start) <:+: r.location.chars := by simpa [hr] using h
      have hquote : r.location.quote ∉ '<' :: start := by
        rcases r.location.isQuote with heq | heq <;> rw [heq]
        · exact hquotes.1
        · exact hquotes.2
      have htext := (Free.of_notMem_head (r.notMem_front (by decide))).append
        (Free.concat_of_not_infix hquote hlocation)
      simpa [r.text_eq] using htext
  exact (hspace t.gap.toSpace).append ((Free.of_notMem_head hroot).append
    (hreference.append (hspace t.space)))

theorem mem_inside_iff : '>' ∈ t.inside ↔ '>' ∈ t.location := by
  have hspace : ∀ s : Space, '>' ∉ s.chars := fun s => s.notMem (by decide)
  have hroot : '>' ∉ t.root := fun hmem => (t.isRoot.2 '>' hmem).2.2 rfl
  have hgap := hspace t.gap.toSpace
  rw [inside, location]
  cases t.reference with
  | none => simp [hroot, hgap, hspace]
  | some r =>
    have hfront : '>' ∉ r.front := r.notMem_front (by decide)
    have hquote : '>' ≠ r.location.quote := by
      rintro heq
      rcases r.location.isQuote with hq | hq <;> rw [← heq] at hq <;> exact absurd hq (by decide)
    simp [hroot, hgap, hspace, r.text_eq, hfront, hquote]

end DocumentType

end

/-! ## What is left of a part -/

namespace XmlDeclaration

/-- What is left of an XML declaration: all of it if there is a line feed in it, else nothing. -/
def left (x : XmlDeclaration) : List Char := if '\n' ∈ x.inside then x.text else []

theorem turns (x : XmlDeclaration) : Turns (rewrite xmlDeclaration?) x.text x.left := by
  have hmark : '?' ∉ x.inside := x.notMem_inside (by decide)
  rw [left]
  split
  · rename_i hbreak
    -- the reading stops at the line feed, and no other declaration begins in this one
    obtain ⟨a, b, hinside, _⟩ := List.eq_append_cons_of_mem hbreak
    have hfree : Free stop (a ++ ['\n']) := by
      rw [hinside] at hmark
      exact .of_notMem_head (by simp_all)
    have hopen : '<' ∉ ['?', 'x', 'm', 'l'] ++ (x.inside ++ stop) := by
      simp [x.notMem_inside (c := '<') (by decide), stop]
    refine turns_rewrite_cons (s := ['?', 'x', 'm', 'l'] ++ (x.inside ++ stop)) hopen
      (fun d hd s => lineSpan?_eq_none (after?_cons_ne hd.symm)) fun rest => ?_
    have hnone : lineSpan? start stop (start ++ (a ++ '\n' :: (b ++ (stop ++ rest)))) = none :=
      lineSpan?_break hfree _
    have htext : '<' :: (['?', 'x', 'm', 'l'] ++ (x.inside ++ stop) ++ rest) =
        start ++ (a ++ '\n' :: (b ++ (stop ++ rest))) := by
      simp [hinside, start]
    rw [htext]
    exact hnone
  · rename_i hbreak
    exact turns_lineSpan (by decide) (by decide) (.of_notMem_head hmark) hbreak

theorem left_eq_nil_iff (x : XmlDeclaration) : x.left = [] ↔ '\n' ∉ x.inside := by
  rw [left]
  split
  · rename_i hbreak
    simp [text, start, hbreak]
  · rename_i hbreak
    simp [hbreak]

/-- No document type begins in what is left of an XML declaration. -/
theorem free_left (x : XmlDeclaration) :
    Free ['<', '!', 'D', 'O', 'C', 'T', 'Y', 'P', 'E'] x.left := by
  rw [left]
  split
  · have hopen : Free ['<', '!', 'D', 'O', 'C', 'T', 'Y', 'P', 'E'] start :=
      ⟨fun _ => rfl, .of_notMem_head (by decide)⟩
    have hinside : '<' ∉ x.inside ++ stop := by
      simp [x.notMem_inside (c := '<') (by decide), stop]
    exact hopen.append (.of_notMem_head hinside)
  · exact True.intro

end XmlDeclaration

namespace DocumentType

/-- What is left of a document type: all of it if the first line feed in it comes before the first
`>`, else what stands behind that `>`. -/
def left (t : DocumentType) : List Char :=
  let rest := t.inside ++ ['>']
  if '\n' ∈ rest.takeWhile (· ≠ '>') then t.text else (rest.dropWhile (· ≠ '>')).tail

theorem turns (t : DocumentType) (h : ¬ start <:+: t.location) :
    Turns (rewrite documentType?) t.text t.left := by
  have hfree : Free start (t.inside ++ ['>']) :=
    (free_inside (by decide) h).append (.of_notMem_head (by decide))
  obtain ⟨a, b, hrest, ha⟩ := List.eq_append_cons_of_mem
    (show '>' ∈ t.inside ++ ['>'] by simp)
  have hclose : Free ['>'] a := .of_notMem_head ha
  rw [left, hrest, takeWhile_ne ha, dropWhile_ne ha, List.tail_cons]
  rw [hrest] at hfree
  split
  · rename_i hbreak
    obtain ⟨a', b', rfl, ha'⟩ := List.eq_append_cons_of_mem hbreak
    have hstop : Free ['>'] (a' ++ ['\n']) := .of_notMem_head (by simp_all)
    have hopen : Free start ['!', 'D', 'O', 'C', 'T', 'Y', 'P', 'E'] := .of_notMem_head (by decide)
    have htail : Turns (rewrite documentType?) (['!', 'D', 'O', 'C', 'T', 'Y', 'P', 'E'] ++ (t.inside ++ ['>']))
        (['!', 'D', 'O', 'C', 'T', 'Y', 'P', 'E'] ++ (t.inside ++ ['>'])) :=
      (hopen.append (hrest ▸ hfree)).turns fun _ => lineSpan?_eq_none
    intro rest
    have hnone : documentType? (t.text ++ rest) = none := by
      have hbroken : lineSpan? start ['>'] (start ++ (a' ++ '\n' :: (b' ++ '>' :: (b ++ rest)))) = none :=
        lineSpan?_break hstop _
      have htext : t.text ++ rest = start ++ (a' ++ '\n' :: (b' ++ '>' :: (b ++ rest))) := by
        simp [text, hrest]
      rw [htext]
      exact hbroken
    exact (rewrite_of_none hnone).trans (congrArg (List.cons '<') (htail rest))
  · rename_i hbreak
    have hspan : Turns (rewrite documentType?) (start ++ (a ++ ['>'])) [] :=
      turns_lineSpan (by decide) (by decide) hclose hbreak
    have hbehind : Free start b := (hfree.behind (b := '>' :: b)).behind (a := ['>'])
    have hall := hspan.append (hbehind.turns fun _ => lineSpan?_eq_none)
    simpa [text, hrest] using hall

theorem left_eq_nil_iff (t : DocumentType) :
    t.left = [] ↔ '\n' ∉ t.inside ∧ '>' ∉ t.location := by
  rw [← mem_inside_iff]
  constructor
  · intro h
    obtain ⟨a, b, hrest, ha⟩ := List.eq_append_cons_of_mem
      (show '>' ∈ t.inside ++ ['>'] by simp)
    rw [left, hrest, takeWhile_ne ha, dropWhile_ne ha, List.tail_cons] at h
    split at h
    · exact absurd h (by simp [text, start])
    · rename_i hbreak
      subst h
      obtain rfl := List.append_cancel_right hrest
      exact ⟨hbreak, ha⟩
  · rintro ⟨hbreak, hclose⟩
    rw [left, takeWhile_ne hclose, if_neg hbreak, dropWhile_ne hclose]
    rfl

end DocumentType

/-! ## What is left of a prolog -/

/-- Each part stands on one line, and no value holds the end mark of its part. -/
structure OnOneLine (p : Prolog) : Prop where
  declaration : ∀ x ∈ p.declaration, '\n' ∉ x.inside
  documentType : ∀ t ∈ p.documentType, '\n' ∉ t.inside ∧ '>' ∉ t.location

/-- A text that no declaration begins in. -/
def Undeclared (s : List Char) : Prop :=
  ¬ XmlDeclaration.start <:+: s ∧ ¬ DocumentType.start <:+: s

instance (s : List Char) : Decidable (Undeclared s) := inferInstanceAs (Decidable (_ ∧ _))

theorem Undeclared.xml {s : List Char} (h : Undeclared s) : rewrite xmlDeclaration? s = s :=
  rewrite_of_not_infix (fun _ => lineSpan?_eq_none) h.1

theorem Undeclared.documentType {s : List Char} (h : Undeclared s) : rewrite documentType? s = s :=
  rewrite_of_not_infix (fun _ => lineSpan?_eq_none) h.2

theorem stripDeclarations_of_undeclared {s : List Char} (h : Undeclared s) :
    stripDeclarations s = s := by
  rw [stripDeclarations, h.xml, h.documentType]

/-- What is left of a prolog. -/
def left (p : Prolog) : List Char :=
  p.declaration.toList.flatMap XmlDeclaration.left ++ (p.space.chars ++
    (p.documentType.toList.flatMap DocumentType.left ++ p.space'.chars))

section
variable {p : Prolog} {body : List Char}

theorem Space.turns_lineSpan (s : Space) (start close : List Char) :
    Turns (rewrite (lineSpan? ('<' :: start) close)) s.chars s.chars :=
  turns_rewrite_of_notMem (s.notMem (by decide)) fun _ hd _ =>
    lineSpan?_eq_none (after?_cons_ne hd.symm)

/-- The first pass takes its part out of a prolog, and the second pass the other one. -/
theorem stripDeclarations_append (h : ∀ t ∈ p.documentType, Undeclared t.location)
    (hbody : Undeclared body) : stripDeclarations (p.text ++ body) = p.left ++ body := by
  have htypes : ∀ t ∈ p.documentType.toList, Undeclared t.location := fun t ht =>
    h t (Option.mem_toList.1 ht)
  have hkept : ∀ t ∈ p.documentType.toList, Turns (rewrite xmlDeclaration?) t.text t.text := by
    intro t ht
    have hopen : Free XmlDeclaration.start DocumentType.start :=
      ⟨fun _ => rfl, .of_notMem_head (by decide)⟩
    have hinside := DocumentType.free_inside (by decide) (htypes t ht).1
    exact (hopen.append (hinside.append (.of_notMem_head (by decide)))).turns fun _ =>
      lineSpan?_eq_none
  have hxml : Turns (rewrite xmlDeclaration?) p.text
      (p.declaration.toList.flatMap XmlDeclaration.left ++ (p.space.chars ++
        (p.documentType.toList.flatMap DocumentType.text ++ p.space'.chars))) :=
    (Turns.flatMap fun x _ => x.turns).append ((p.space.turns_lineSpan _ _).append
      ((Turns.flatMap hkept).append (p.space'.turns_lineSpan _ _)))
  have htype : Turns (rewrite documentType?)
      (p.declaration.toList.flatMap XmlDeclaration.left ++ (p.space.chars ++
        (p.documentType.toList.flatMap DocumentType.text ++ p.space'.chars))) p.left :=
    (Turns.flatMap fun x _ => x.free_left.turns fun _ => lineSpan?_eq_none).append
      ((p.space.turns_lineSpan _ _).append
        ((Turns.flatMap fun t ht => t.turns (htypes t ht).2).append (p.space'.turns_lineSpan _ _)))
  rw [stripDeclarations, hxml, hbody.xml, htype, hbody.documentType]

theorem left_eq_between_iff : p.left = p.between ↔ p.OnOneLine := by
  have hparts : p.left = p.between ↔ p.declaration.toList.flatMap XmlDeclaration.left = [] ∧
      p.documentType.toList.flatMap DocumentType.left = [] := by
    constructor
    · intro h
      have hlengths := congrArg List.length h
      simp only [left, between, List.length_append] at hlengths
      exact ⟨List.eq_nil_of_length_eq_zero (by omega), List.eq_nil_of_length_eq_zero (by omega)⟩
    · rintro ⟨hx, ht⟩
      rw [left, hx, ht]
      rfl
  rw [hparts, List.flatMap_eq_nil_iff, List.flatMap_eq_nil_iff]
  constructor
  · rintro ⟨hx, ht⟩
    exact ⟨fun x hmem => x.left_eq_nil_iff.1 (hx x (Option.mem_toList.2 hmem)),
      fun t hmem => t.left_eq_nil_iff.1 (ht t (Option.mem_toList.2 hmem))⟩
  · intro h
    exact ⟨fun x hmem => x.left_eq_nil_iff.2 (h.declaration x (Option.mem_toList.1 hmem)),
      fun t hmem => t.left_eq_nil_iff.2 (h.documentType t (Option.mem_toList.1 hmem))⟩

/-- Blanks in front of a text stay there through the passes before the last one, which takes them
off. -/
theorem toJsx_of_stripped {s s' gap : List Char} (hgap : ∀ c ∈ gap, isBlank c = true)
    (h : stripDeclarations s = gap ++ stripDeclarations s') : toJsx s = toJsx s' := by
  have hcopy : ∀ {pass : List Char → List Char}, KeepsStart pass → ∀ t, pass (gap ++ t) = gap ++ pass t :=
    fun hpass t => Turns.copy (fun c hc => hpass.blank (hgap c hc)) t
  rw [toJsx, toJsx, h, renameClass, hcopy (keepsStart_renameAttributes _), renameToProperties,
    hcopy (keepsStart_renameAttributes _), hcopy keepsStart_convertStyles,
    hcopy keepsStart_selfCloseEmpty, collapseBlanks_append_gap hgap]

theorem isBlank_of_mem_space {s : Space} {c : Char} (hc : c ∈ s.chars) : isBlank c = true := by
  have hspace := s.blank c hc
  simp only [isSpace, Bool.or_eq_true, decide_eq_true_eq] at hspace
  rcases hspace with ((rfl | rfl) | rfl) | rfl <;> decide

/-- A prolog in front of a body without declarations is taken out, but for the white space around its
parts, exactly when each part stands on one line and no value holds the end mark of its part.  The
markup inside a component is then that of the body. -/
theorem stripDeclarations_prolog_iff (h : ∀ t ∈ p.documentType, Undeclared t.location)
    (hbody : Undeclared body) :
    (stripDeclarations (p.text ++ body) = p.between ++ body ↔ p.OnOneLine) ∧
      (p.OnOneLine → toJsx (p.text ++ body) = toJsx body) := by
  have hstrip := stripDeclarations_append h hbody
  refine ⟨?_, fun hline => ?_⟩
  · rw [hstrip, List.append_cancel_right_eq]
    exact left_eq_between_iff
  · rw [left_eq_between_iff.2 hline] at hstrip
    refine toJsx_of_stripped (fun c hc => ?_) (by rw [hstrip, stripDeclarations_of_undeclared hbody])
    exact (List.mem_append.1 hc).elim isBlank_of_mem_space isBlank_of_mem_space

end

/-! ## Prologs as drawing programs write them -/

def blank : Gap := { chars := [' '] }

def feed : Gap := { chars := ['\n'] }

def nothing : Space := { chars := [] }

def setting (v : Literal) (h : ∀ c ∈ v.chars, isSettingChar c = true) : Setting :=
  { gap := blank, front := nothing, behind := nothing, value := v, plain := h }

def plainDeclaration : XmlDeclaration where
  version := setting { quote := '"', chars := ['1', '.', '0'] } (by decide)
  encoding := some (setting { quote := '\'', chars := ['U', 'T', 'F', '-', '8'] } (by decide))
  standalone := none
  space := nothing

/-- A document type with a public name and a location, and white space between them. -/
def publicType (between : Gap) : DocumentType where
  gap := blank
  root := ['s', 'v', 'g']
  reference := some {
    gap := blank
    publicName := some
      { gap := blank, value := { quote := '"', chars := "-//W3C//DTD SVG 1.1//EN".toList } }
    gap' := between
    location := { quote := '"', chars := "http://www.w3.org/svg11.dtd".toList } }
  space := nothing

/-- A prolog with a line for each part, if the white space in its document type has no line feed. -/
def lined (between : Gap) : Prolog :=
  ⟨some plainDeclaration, feed.toSpace, some (publicType between), feed.toSpace⟩

def dot : List Char := "<svg><circle r=\"1\"/></svg>".toList

theorem stripDeclarations_prolog_lined :
    (∀ t ∈ (lined blank).documentType, Undeclared t.location) ∧ Undeclared dot ∧
    (lined blank).text = ("<?xml version=\"1.0\" encoding='UTF-8'?>\n" ++
      "<!DOCTYPE svg PUBLIC \"-//W3C//DTD SVG 1.1//EN\" \"http://www.w3.org/svg11.dtd\">\n").toList ∧
    stripDeclarations ((lined blank).text ++ dot) = '\n' :: '\n' :: dot ∧
    toJsx ((lined blank).text ++ dot) = toJsx dot := by
  have hlocation : ∀ t ∈ (lined blank).documentType, Undeclared t.location := by decide +kernel
  have hdot : Undeclared dot := by decide +kernel
  have hline : (lined blank).OnOneLine := ⟨by decide +kernel, by decide +kernel⟩
  obtain ⟨hstrip, hjsx⟩ := stripDeclarations_prolog_iff hlocation hdot
  exact ⟨hlocation, hdot, by decide +kernel, hstrip.2 hline, hjsx hline⟩

/-- A document type over two lines stays in the text, and in the component. -/
theorem stripDeclarations_prolog_twoLines :
    let p := lined feed
    (∀ t ∈ p.documentType, Undeclared t.location) ∧ Undeclared dot ∧
    p.text = ("<?xml version=\"1.0\" encoding='UTF-8'?>\n" ++
      "<!DOCTYPE svg PUBLIC \"-//W3C//DTD SVG 1.1//EN\"\n\"http://www.w3.org/svg11.dtd\">\n").toList ∧
    stripDeclarations (p.text ++ dot) ≠ p.between ++ dot ∧ toJsx (p.text ++ dot) ≠ toJsx dot := by
  decide +kernel

end Prolog
end Markup
end SvgIcon
