import SvgIcon.Proofs.File.Writing
import SvgIcon.Proofs.Markup.Extraction

/-!
Line ends.  A file is read with every line end as a line feed, and written as the text is.  The
first span of a text is found in the same place either way, since none of its ends holds a line end,
and what stands around it is the same exactly when it has no carriage return.
-/

namespace SvgIcon
namespace Text

/-- A text that no line end stands in. -/
def Unbroken (s : List Char) : Prop := ∀ c ∈ s, c ≠ '\r' ∧ c ≠ '\n'

instance (s : List Char) : Decidable (Unbroken s) := inferInstanceAs (Decidable (∀ c ∈ s, _))

/-- A character that does not begin a line end of two is taken by itself. -/
theorem unifyLines_cons {c : Char} {s : List Char} (h : ∀ t, c = '\r' → s = '\n' :: t → False) :
    unifyLines (c :: s) = (if c = '\r' then '\n' else c) :: unifyLines s := by
  rw [unifyLines]
  exact h

theorem length_unifyLines_le (s : List Char) : (unifyLines s).length ≤ s.length := by
  induction s using unifyLines.induct with
  | case1 => exact Nat.le_refl _
  | case2 s ih =>
    rw [unifyLines]
    simp only [List.length_cons]
    omega
  | case3 c s hne ih =>
    rw [unifyLines_cons hne]
    simpa using ih

theorem unifyLines_eq_iff {s : List Char} : unifyLines s = s ↔ '\r' ∉ s :=
  ⟨fun h => h ▸ Disk.notMem_unifyLines s, Disk.unifyLines_of_notMem⟩

/-- Around a text that stays, nothing is changed exactly when there is no carriage return. -/
theorem unifyLines_around_iff (front middle back : List Char) :
    unifyLines front ++ middle ++ unifyLines back = front ++ middle ++ back ↔
      '\r' ∉ front ∧ '\r' ∉ back := by
  rw [← unifyLines_eq_iff, ← unifyLines_eq_iff]
  constructor
  · intro h
    have hlength := congrArg List.length h
    simp only [List.length_append] at hlength
    have hfront := length_unifyLines_le front
    have hback := length_unifyLines_le back
    rw [List.append_assoc, List.append_assoc] at h
    obtain ⟨hsame, hrest⟩ := List.append_inj h (by omega)
    exact ⟨hsame, List.append_cancel_left hrest⟩
  · rintro ⟨hfront, hback⟩
    rw [hfront, hback]

/-! ## Searching -/

theorem after?_unifyLines {start : List Char} (h : Unbroken start) (s : List Char) :
    after? start (unifyLines s) = (after? start s).map unifyLines := by
  induction start generalizing s with
  | nil => rfl
  | cons p start ih =>
    obtain ⟨⟨hp, hn⟩, hstart⟩ := List.forall_mem_cons.1 h
    cases s using unifyLines.fun_cases with
    | case1 => rfl
    | case2 s => simp [unifyLines, after?, hp, hn]
    | case3 c s hne =>
      rw [unifyLines_cons hne]
      by_cases hc : c = '\r'
      · simp [after?, hc, hp, hn]
      · by_cases hpc : p = c
        · simp [after?, hc, hpc, ih hstart]
        · simp [after?, hc, hpc]

theorem after?_break {needle : List Char} (hne : needle ≠ []) (h : Unbroken needle) {c : Char}
    (hc : c = '\r' ∨ c = '\n') (s : List Char) : after? needle (c :: s) = none := by
  cases needle with
  | nil => exact absurd rfl hne
  | cons p needle =>
    obtain ⟨hp, hn⟩ := h p List.mem_cons_self
    rcases hc with rfl | rfl
    · simp [after?, hp]
    · simp [after?, hn]

theorem cut?_unifyLines {needle : List Char} (hne : needle ≠ []) (h : Unbroken needle)
    (s : List Char) : cut? needle (unifyLines s) =
      (cut? needle s).map fun cut => (unifyLines cut.1, unifyLines cut.2) := by
  induction s using unifyLines.induct with
  | case1 => simp [unifyLines, cut?, hne]
  | case2 s ih =>
    rw [unifyLines, cut?, after?_break hne h (.inr rfl), cut?, after?_break hne h (.inl rfl), cut?,
      after?_break hne h (.inr rfl), ih]
    simp only [Option.map_map]
    rfl
  | case3 c s hcs ih =>
    have hafter := after?_unifyLines h (c :: s)
    rw [unifyLines_cons hcs] at hafter ⊢
    rw [cut?, cut?, hafter]
    cases after? needle (c :: s) with
    | some rest => rfl
    | none =>
      simp only [Option.map_none, ih]
      cases hcut : cut? needle s with
      | none => rfl
      | some cut =>
        obtain ⟨front, rest⟩ := cut
        -- no line end of two begins in front of what was cut off, as none begins in front of `s`
        have hfront : ∀ t, c = '\r' → front = '\n' :: t → False := by
          rintro t hc rfl
          exact hcs (t ++ needle ++ rest) hc (eq_append_of_cut? hcut)
        simp only [Option.map_some, unifyLines_cons hfront]

theorem unifyLines_append_of_unbroken {a b : List Char} (ha : Unbroken a) :
    unifyLines (a ++ b) = a ++ unifyLines b := by
  induction a with
  | nil => rfl
  | cons c a ih =>
    obtain ⟨⟨hc, _⟩, ha⟩ := List.forall_mem_cons.1 ha
    rw [List.cons_append, unifyLines_cons fun t h => absurd h hc, if_neg hc, ih ha]
    rfl

theorem unifyLines_append {b : List Char} (hb : ∀ t, b ≠ '\n' :: t) (a : List Char) :
    unifyLines (a ++ b) = unifyLines a ++ unifyLines b := by
  induction a using unifyLines.induct with
  | case1 => rfl
  | case2 s ih =>
    show unifyLines ('\r' :: '\n' :: (s ++ b)) = _
    rw [unifyLines, unifyLines, ih]
    rfl
  | case3 c s hcs ih =>
    have hcsb : ∀ t, c = '\r' → s ++ b = '\n' :: t → False := by
      intro t hc hs
      cases s with
      | nil => exact hb t hs
      | cons d s =>
        obtain ⟨rfl, _⟩ := List.cons.inj hs
        exact hcs s hc rfl
    rw [List.cons_append, unifyLines_cons hcsb, unifyLines_cons hcs, ih]
    rfl

end Text

/-! ## Spans -/

namespace Markup

open Text

def Span.unified (sp : Span) : Span :=
  ⟨unifyLines sp.before, unifyLines sp.element, unifyLines sp.behind⟩

theorem unbroken_svgStart : Unbroken svgStart := by decide

theorem unbroken_svgEnd : Unbroken svgEnd := by decide

theorem svgEnd_ne_feed (t : List Char) : svgEnd ≠ '\n' :: t := fun h =>
  absurd (congrArg List.head? h) (show svgEnd.head? ≠ some '\n' by decide)

theorem span?_unifyLines (s : List Char) : span? (unifyLines s) = (span? s).map Span.unified := by
  rw [span?, span?, cut?_unifyLines (by decide) unbroken_svgStart]
  cases cut? svgStart s with
  | none => rfl
  | some start =>
    show (cut? svgEnd (unifyLines start.2)).bind _ = Option.map _ ((cut? svgEnd start.2).bind _)
    rw [cut?_unifyLines (by decide) unbroken_svgEnd]
    cases hcut : cut? svgEnd start.2 with
    | none => rfl
    | some stop =>
      obtain ⟨inner, behind⟩ := stop
      have hend : unifyLines svgEnd = svgEnd := unifyLines_eq_iff.2 (by decide)
      have helement : unifyLines (svgStart ++ inner ++ svgEnd) =
          svgStart ++ unifyLines inner ++ svgEnd := by
        rw [List.append_assoc, unifyLines_append_of_unbroken unbroken_svgStart,
          unifyLines_append svgEnd_ne_feed, hend, List.append_assoc]
      show some (Span.mk _ _ _) = some (Span.mk _ _ _)
      rw [helement]

/-- Looking for the span where line ends are unified finds the span of the text. -/
theorem exists_span_of_extract? {s element : List Char}
    (h : extract? (unifyLines s) = some element) :
    ∃ sp : Span, sp.IsFirst s ∧ sp.unified.IsFirst (unifyLines s) ∧
      element = sp.unified.element := by
  obtain ⟨sp', hsp', rfl⟩ := Option.map_eq_some_iff.1 h
  have hspan := hsp'
  rw [span?_unifyLines] at hspan
  obtain ⟨sp, hsp, rfl⟩ := Option.map_eq_some_iff.1 hspan
  exact ⟨sp, span?_isFirst hsp, span?_isFirst hsp', rfl⟩

end Markup

/-! ## Files -/

namespace Disk

theorem exists_text_of_readText {d : Disk} {p : Path} {text : String}
    (h : d.readText p = .ok text) : ∃ (place : Place) (there : String), d.locate p = .ok place ∧
      d.find? place = some (.file there.toUTF8) ∧
      text = String.ofList (Text.unifyLines there.toList) := by
  obtain ⟨bytes, hread, hdecode⟩ := exists_of_bind_eq_ok h
  obtain ⟨place, hplace, hfile⟩ := read_eq_ok_iff.1 hread
  rw [Utf8.decode] at hdecode
  cases hutf8 : String.fromUTF8? bytes with
  | none =>
    rw [hutf8] at hdecode
    exact absurd hdecode (by simp [throw, throwThe, MonadExceptOf.throw])
  | some there =>
    rw [hutf8] at hdecode
    have hbytes : there.toUTF8 = bytes := by
      rw [String.fromUTF8?] at hutf8
      split at hutf8
      · rw [← Option.some.inj hutf8]
        rfl
      · simp at hutf8
    exact ⟨place, there, hplace, hbytes ▸ hfile, (Except.ok.inj hdecode).symm⟩

end Disk
end SvgIcon
