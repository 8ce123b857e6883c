import SvgIcon.Proofs.Markup.Stretches

/-!
The way back from component markup, on stretches and up to the layout.  Classes are restored where a
name has become one, and number and text expressions become quoted values.
-/

namespace SvgIcon
namespace Text

/-- A text that ends at its first mark does not start with another one that does. -/
theorem after?_mark_eq_none (front behind : List Char) {u : List Char} {mark : Char}
    (hfront : mark ∉ front) (hu : mark ∉ u) (hne : u ≠ front) (rest : List Char) :
    after? (front ++ mark :: behind) (u ++ mark :: rest) = none := by
  rw [Option.eq_none_iff_forall_ne_some]
  intro r hr
  have htext := after?_eq_some_iff.1 hr
  rw [List.append_assoc, List.cons_append] at htext
  have hsame := congrArg (List.takeWhile (fun d => decide (d ≠ mark))) htext
  rw [takeWhile_ne hu, takeWhile_ne hfront] at hsame
  exact hne hsame

end Text

namespace Markup

open Text

/-! ## Classes -/

theorem restoreClassFrom_name {n : List Char} (h : '=' ∉ n) (inWord : Bool) (rest : List Char) :
    restoreClassFrom inWord 0 (n ++ '=' :: rest) =
      restoredFrom inWord n ++ '=' :: restoreClassFrom false 0 rest := by
  induction n generalizing inWord with
  | nil => exact restoreClassFrom_of_none (after?_cons_ne (by decide)) inWord
  | cons c n ih =>
    have hn : '=' ∉ n := fun hmem => h (List.mem_cons_of_mem c hmem)
    by_cases hhere : inWord = false ∧ c :: n = className
    · obtain ⟨rfl, hname⟩ := hhere
      have hrestored : restoredFrom false (c :: n) = "class".toList := if_pos ⟨rfl, hname⟩
      have hspace := restoreClass_className rest
      have hblank := restoreClass_char (c := ' ') (by decide) (classStart ++ rest)
      have hclass : restoreClass (classStart ++ rest) = "class=".toList ++ restoreClass rest :=
        (List.cons.inj (hblank.symm.trans hspace)).2
      rw [hrestored, hname]
      exact hclass
    · have hrestored : restoredFrom inWord (c :: n) = c :: restoredFrom (isWord c) n :=
        if_neg hhere
      rw [hrestored, List.cons_append, restoreClassFrom_cons]
      by_cases hname : c :: n = className
      · have hword : inWord = true := by
          cases inWord with
          | true => rfl
          | false => exact absurd ⟨rfl, hname⟩ hhere
        rw [hword, if_neg (by simp), ih hn]
        rfl
      · have hnone : after? classStart (c :: n ++ '=' :: rest) = none :=
          after?_mark_eq_none className [] (by decide) h hname rest
        rw [List.cons_append] at hnone
        rw [hnone, if_neg (by simp), ih hn]
        rfl

theorem turns_restoreClass_name {n : List Char} (h : '=' ∉ n) :
    Turns restoreClass (n ++ ['=']) (restoredName n ++ ['=']) := by
  intro rest
  rw [List.append_assoc, List.append_assoc]
  exact restoreClassFrom_name h false rest

theorem turns_restoreClass_blank {g : List Char} (h : Blank g) : Turns restoreClass g g :=
  Turns.copy fun c hc => restoreClass_char (isWord_eq_false_of_isBlank (h c hc))

namespace Spelling

theorem exists_text_concat (s : Spelling) : ∃ x c, s.text = x ++ [c] ∧ c ∈ enclosers := by
  cases s with
  | quoted v => exact ⟨'"' :: v, '"', rfl, by decide⟩
  | number ds => exact ⟨'\x7b' :: ds, '\x7d', rfl, by decide⟩
  | expression q v =>
    exact ⟨'\x7b' :: q :: (v ++ [q]), '\x7d', by simp [text, front, inner, back], by decide⟩
  | literal b =>
    exact ⟨'\x7b' :: '\x7b' :: (b ++ ['\x7d']), '\x7d', by simp [text, front, inner, back],
      by decide⟩

theorem turns_restoreClass {s : Spelling} (h : s.WellFormed) : Turns restoreClass s.text s.text := by
  obtain ⟨x, c, htext, hc⟩ := exists_text_concat s
  obtain ⟨_, hword, hother⟩ := solid_of_mem_enclosers hc
  have heq : '=' ∉ s.text := notMem_text h (by decide)
  rw [htext] at heq ⊢
  refine restoreClass_stretch (fun hmem => heq (List.mem_append_left _ hmem)) hword ?_
  rintro rfl
  exact hother (by decide)

end Spelling

/-- The name of a tag, with the character that ends it behind. -/
theorem restoreClass_tagName {n : List Char} {c : Char} (k : Kind) (hn : '=' ∉ n)
    (hc : isNameEnd c = true) (rest : List Char) :
    restoreClass (k.front ++ (n ++ c :: rest)) = k.front ++ (n ++ restoreClass (c :: rest)) := by
  have hequals : '=' ∉ k.front ++ n := by
    simp [(k.notMem_marks (c := '=') (by decide)).1, hn]
  have hne : c ≠ '=' := by
    rintro rfl
    exact absurd hc (by decide)
  have hname := restoreClass_stretch hequals (isWord_of_isNameEnd hc) hne rest
  have hchar := restoreClass_char (isWord_of_isNameEnd hc) rest
  simp only [List.append_assoc, List.singleton_append] at hname hchar
  rw [hname, hchar]

theorem Stretch.turns_restoreClass {u : Stretch} (h : u.WellFormed) :
    Turns restoreClass u.text (u.map id (Spelled.rename restoredName)).text := by
  refine u.turns_map h ?_ (fun c hc rest => ?_) (fun a ha => ?_) ?_
  · exact restoreClass_stretch (h.before '=' (by decide)) (by decide) (by decide)
  · exact restoreClass_tagName u.kind (h.name.lacks '=' (by decide)) hc rest
  · have hattribute := h.attributes a ha
    have hname := turns_restoreClass_name (hattribute.name '=' (by decide))
    have hall := (turns_restoreClass_blank hattribute.gap).append
      (hname.append (Spelling.turns_restoreClass hattribute.value))
    simpa [Spelled.text, Spelled.rename] using hall
  · refine Turns.copy fun c hc => restoreClass_char ?_
    simp only [Stretch.stop, List.mem_append, List.mem_singleton] at hc
    rcases hc with (hgap | hback) | rfl
    · exact isWord_eq_false_of_isBlank (h.gap c hgap)
    · rw [Kind.eq_slash_of_mem_back hback]
      decide
    · decide

/-! ## Expressions -/

namespace Spelling

def unnumbered : Spelling → Spelling
  | number digits => quoted digits
  | s => s

def unexpressed : Spelling → Spelling
  | expression _ v => quoted v
  | s => s

theorem numberExpression?_other {c : Char} (hc : c ≠ '=') (s : List Char) :
    numberExpression? (c :: s) = none := by
  have hnone : after? "=\x7b".toList (c :: s) = none := after?_cons_ne fun h => hc h.symm
  rw [numberExpression?, hnone]
  rfl

theorem textExpression?_other {c : Char} (hc : c ≠ '=') (s : List Char) :
    textExpression? (c :: s) = none := by
  have hnone : after? "=\x7b".toList (c :: s) = none := after?_cons_ne fun h => hc h.symm
  rw [textExpression?, hnone]
  rfl

theorem numberExpression?_brace (s : List Char) :
    numberExpression? ('=' :: '\x7b' :: s) =
      match s.dropWhile isDigit with
      | '\x7d' :: _ =>
        if s.takeWhile isDigit = [] then none
        else some ((s.takeWhile isDigit).length + 3, "=\"".toList ++ s.takeWhile isDigit ++ ['"'])
      | _ => none := rfl

theorem turns_unnumbered {s : Spelling} (h : s.WellFormed) :
    Turns (rewrite numberExpression?) ('=' :: s.text) ('=' :: s.unnumbered.text) := by
  cases s with
  | number ds =>
    obtain ⟨hne, hdigits⟩ := h
    refine turns_rewrite_match (by simp) fun rest => ?_
    have hstop : ¬ isDigit '\x7d' = true := by decide
    have htext : '=' :: (number ds).text ++ rest = '=' :: '\x7b' :: (ds ++ '\x7d' :: rest) := by
      simp [text, front, inner, back]
    rw [htext, numberExpression?_brace, List.dropWhile_append_of_pos hdigits,
      List.takeWhile_append_of_pos hdigits, List.dropWhile_cons_of_neg hstop,
      List.takeWhile_cons_of_neg hstop, List.append_nil]
    simp [hne, unnumbered, text, front, inner, back]
  | quoted v =>
    exact turns_rewrite_cons (notMem_text h (by decide)) (fun _ => numberExpression?_other)
      fun rest => rfl
  | literal b =>
    exact turns_rewrite_cons (notMem_text h (by decide)) (fun _ => numberExpression?_other)
      fun rest => rfl
  | expression q v =>
    refine turns_rewrite_cons (notMem_text h (by decide)) (fun _ => numberExpression?_other)
      fun rest => ?_
    have hq : q = '"' ∨ q = '\'' := by simpa [isQuote] using h.1
    rcases hq with rfl | rfl <;> rfl

theorem textExpression?_brace (c : Char) (s : List Char) :
    textExpression? ('=' :: '\x7b' :: c :: s) =
      match s.dropWhile fun d => !isQuote d with
      | _ :: '\x7d' :: _ =>
        if isQuote c && !(s.takeWhile fun d => !isQuote d).isEmpty then
          some ((s.takeWhile fun d => !isQuote d).length + 5,
            "=\"".toList ++ (s.takeWhile fun d => !isQuote d) ++ ['"'])
        else none
      | _ => none := rfl

/-- A text in quotes and braces, whatever but quotes it holds. -/
theorem turns_textExpression {q : Char} {v : List Char} (hq : isQuote q = true) (hne : v ≠ [])
    (hv : Lacks ['"', '\''] v) :
    Turns (rewrite textExpression?) ('=' :: '\x7b' :: q :: (v ++ [q, '\x7d']))
      ('=' :: '"' :: (v ++ ['"'])) := by
  refine turns_rewrite_match (by simp) fun rest => ?_
  have hplain : ∀ c ∈ v, (!isQuote c) = true := by
    intro c hc
    have hdouble : c ≠ '"' := fun heq => hv '"' (by decide) (heq ▸ hc)
    have hsingle : c ≠ '\'' := fun heq => hv '\'' (by decide) (heq ▸ hc)
    simp [isQuote, hdouble, hsingle]
  have hstop : ¬ (!isQuote q) = true := by simp [hq]
  have htext : '=' :: '\x7b' :: q :: (v ++ [q, '\x7d']) ++ rest =
      '=' :: '\x7b' :: q :: (v ++ q :: '\x7d' :: rest) := by
    simp
  rw [htext, textExpression?_brace, List.dropWhile_append_of_pos hplain,
    List.takeWhile_append_of_pos hplain,
    List.dropWhile_cons_of_neg (p := fun d => !isQuote d) hstop,
    List.takeWhile_cons_of_neg (p := fun d => !isQuote d) hstop, List.append_nil]
  simp [hne, hq]

theorem turns_unexpressed {s : Spelling} (h : s.WellFormed) (hnumber : ∀ ds, s ≠ number ds) :
    Turns (rewrite textExpression?) ('=' :: s.text) ('=' :: s.unexpressed.text) := by
  cases s with
  | number ds => exact absurd rfl (hnumber ds)
  | quoted v =>
    exact turns_rewrite_cons (notMem_text h (by decide)) (fun _ => textExpression?_other)
      fun rest => rfl
  | literal b =>
    refine turns_rewrite_cons (notMem_text h (by decide)) (fun _ => textExpression?_other)
      fun rest => ?_
    have hopen : isQuote '\x7b' = false := by decide
    show textExpression? ('=' :: '\x7b' :: '\x7b' :: (b ++ ['\x7d', '\x7d'] ++ rest)) = none
    rw [textExpression?_brace, hopen]
    split <;> simp
  | expression q v =>
    obtain ⟨hq, hne, hv⟩ := h
    exact turns_textExpression hq hne fun c hc => hv c (by
      simp only [List.mem_cons, List.not_mem_nil, or_false] at hc
      rcases hc with rfl | rfl <;> decide)

theorem unnumbered_ne (s : Spelling) (ds : List Char) : s.unnumbered ≠ number ds := by
  cases s <;> simp [unnumbered]

/-- The value without expressions. -/
def plain (s : Spelling) : Spelling := s.unnumbered.unexpressed

theorem wellFormed_unnumbered {s : Spelling} (h : s.WellFormed) : s.unnumbered.WellFormed := by
  cases s with
  | number ds =>
    intro c hc hmem
    have hdigit : ∀ d ∈ marks, isDigit d = false := by decide
    have hc' := h.2 c hmem
    rw [hdigit c hc] at hc'
    exact Bool.noConfusion hc'
  | quoted v => exact h
  | expression q v => exact h
  | literal b => exact h

theorem wellFormed_plain {s : Spelling} (h : s.WellFormed) : s.plain.WellFormed := by
  cases s with
  | number ds => exact wellFormed_unnumbered h
  | quoted v => exact h
  | expression q v => exact h.2.2
  | literal b => exact h

theorem isPlain_plain (s : Spelling) : s.plain.isPlain = true := by
  cases s <;> rfl

theorem plain_of_isPlain {s : Spelling} (h : s.isPlain = true) : s.plain = s := by
  cases s with
  | number ds => exact absurd h (by simp [isPlain])
  | expression q v => exact absurd h (by simp [isPlain])
  | quoted v => rfl
  | literal b => rfl

end Spelling

/-! ## All together -/

/-- The attribute as it comes back. -/
def Spelled.plain (a : Spelled) : Spelled := (a.rename restoredName).respell Spelling.plain

theorem Spelled.WellFormed.restored {a : Spelled} (h : a.WellFormed) :
    (a.rename restoredName).WellFormed :=
  h.rename (restoredName_ne_nil h.named) fun c hc =>
    (mem_restoredName hc).imp_right fun hletter => by
      simp [Attribute.isNameChar, isWord_of_isAsciiLetter hletter]

theorem Spelled.WellFormed.plain {a : Spelled} (h : a.WellFormed) : a.plain.WellFormed :=
  h.restored.respell (Spelling.wellFormed_plain h.value)

namespace Stretch

def plain (u : Stretch) : Stretch := u.map id Spelled.plain

theorem WellFormed.plain {u : Stretch} (h : u.WellFormed) : u.plain.WellFormed :=
  h.map h.before h.gap fun a ha => (h.attributes a ha).plain

theorem turns_fragment {u : Stretch} (h : u.WellFormed) :
    Turns (rewrite fragment?) u.text u.text := by
  refine u.turns_of_bracket h (fun c hc s => sparesTags_fragment.other c hc s) fun rest => ?_
  obtain ⟨c, n, hname⟩ := h.exists_name
  have hlacks : Lacks ('/' :: marks) (c :: n) := hname ▸ h.name.lacks
  have hclose : c ≠ '>' := by
    rintro rfl
    exact hlacks '>' (by decide) List.mem_cons_self
  have hslash : c ≠ '/' := by
    rintro rfl
    exact hlacks '/' (by decide) List.mem_cons_self
  unfold fragment?
  rw [tag, inside, hname]
  cases u.kind <;> simp [Kind.front, hclose, hslash]

end Stretch

/-- The way back, up to the layout, goes stretch by stretch. -/
theorem ofComponent_written {us : List Stretch} (h : ∀ u ∈ us, u.WellFormed) :
    ofComponent (written us) = layout (written (us.map Stretch.plain)) := by
  let restored (u : Stretch) : Stretch := u.map id (Spelled.rename restoredName)
  let unnumbered (u : Stretch) : Stretch := (restored u).map id (Spelled.respell Spelling.unnumbered)
  have hrestored : ∀ u ∈ us, (restored u).WellFormed := fun u hu =>
    (h u hu).map (h u hu).before (h u hu).gap fun a ha => ((h u hu).attributes a ha).restored
  have hunnumbered : ∀ u ∈ us, (unnumbered u).WellFormed := fun u hu =>
    (hrestored u hu).map (h u hu).before (h u hu).gap fun a ha =>
      ((hrestored u hu).attributes a ha).respell
        (Spelling.wellFormed_unnumbered ((hrestored u hu).attributes a ha).value)
  have hclass : restoreClass (written (us.map id)) = written (us.map restored) :=
    pass_written rfl fun u hu => u.turns_restoreClass (h u hu)
  have hnumbers : rewrite numberExpression? (written (us.map restored)) =
      written (us.map unnumbered) :=
    pass_written rfl fun u hu => (restored u).turns_of_equals (hrestored u hu)
      (fun _ => Spelling.numberExpression?_other) fun a ha =>
        Spelling.turns_unnumbered ((hrestored u hu).attributes a ha).value
  have hplain : ∀ u, (unnumbered u).map id (Spelled.respell Spelling.unexpressed) = u.plain :=
    fun u => by
      simp only [unnumbered, restored, Stretch.map_map]
      rfl
  have htexts : rewrite textExpression? (written (us.map unnumbered)) =
      written (us.map Stretch.plain) :=
    pass_written rfl fun u hu => by
      rw [← hplain]
      refine (unnumbered u).turns_of_equals (hunnumbered u hu)
        (fun _ => Spelling.textExpression?_other) fun a ha =>
          Spelling.turns_unexpressed ((hunnumbered u hu).attributes a ha).value fun ds => ?_
      obtain ⟨b, _, rfl⟩ := List.mem_map.1 ha
      exact Spelling.unnumbered_ne b.value ds
  have hfragment : rewrite fragment? (written (us.map Stretch.plain)) =
      written (us.map Stretch.plain) :=
    pass_written rfl fun u hu => u.plain.turns_fragment (h u hu).plain
  rw [List.map_id] at hclass
  rw [ofComponent, hclass, hnumbers, htexts, hfragment]

end Markup
end SvgIcon
