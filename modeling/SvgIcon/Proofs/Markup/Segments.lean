import SvgIcon.Proofs.Markup.Framing
import SvgIcon.Proofs.Markup.Names

/-!
Inline styles segment by segment.  What a segment gives does not depend on the segments around it, and a
declaration that has been read is in a form that reading leaves as it is: key and value begin and end with
characters that are not blank, the key is camelized, and neither holds what would split it.
-/

namespace SvgIcon
namespace Markup

open Text

variable {segment key value : List Char} {d : Declaration}

/-! ## Segments -/

theorem parseStyle_append (a b : List Char) :
    parseStyle (a ++ ';' :: b) = parseStyle a ++ parseStyle b := by
  rw [parseStyle, pieces_separator, List.filterMap_append]
  rfl

theorem parseStyle_of_notMem (h : ';' ∉ segment) :
    parseStyle segment = (Declaration.read? segment).toList := by
  rw [parseStyle, pieces_of_notMem h]
  cases hread : Declaration.read? segment <;> simp [hread]

theorem parseStyle_join (segments : List (List Char)) :
    parseStyle (join [';'] segments) = segments.flatMap parseStyle := by
  induction segments with
  | nil => rfl
  | cons s segments ih =>
    cases segments with
    | nil => simp [join]
    | cons r segments =>
      rw [join_cons_cons, List.append_assoc, List.singleton_append, parseStyle_append, ih]
      rfl

/-- A segment gives what stands on either side of its first colon, if neither is blank. -/
theorem parseStyle_declaration (hkey : ':' ∉ key) (hsplit : ';' ∉ key ++ ':' :: value) :
    parseStyle (key ++ ':' :: value) =
      if trim key = [] ∨ trim value = [] then [] else [⟨camelize (trim key), trim value⟩] := by
  rw [parseStyle_of_notMem hsplit, Declaration.read?, takeWhile_ne hkey, dropWhile_ne hkey,
    List.drop_one, List.tail_cons]
  split <;> rfl

theorem parseStyle_of_notMem_colon (hcolon : ':' ∉ segment) (hsplit : ';' ∉ segment) :
    parseStyle segment = [] := by
  have hnone : segment.dropWhile (· ≠ ':') = [] :=
    List.dropWhile_eq_nil_iff.2 fun c hc => by
      simpa using fun heq : c = ':' => hcolon (heq ▸ hc)
  have hvalue : trim ((segment.dropWhile (· ≠ ':')).drop 1) = [] := by rw [hnone]; rfl
  rw [parseStyle_of_notMem hsplit, Declaration.read?, if_pos (Or.inr hvalue)]
  rfl

/-! ## Declarations that have been read -/

theorem isBlank_toUpper {c : Char} (h : IsLower c) : isBlank c.toUpper = false :=
  isBlank_eq_false_of_isWord (isWord_of_isAsciiLetter (isAsciiLetter_toUpper h.1 h.2))

theorem Framed.camelize {s : List Char} (h : Framed s) : Framed (camelize s) := by
  obtain ⟨c, r, hstart, hc⟩ := h.start
  obtain ⟨a, e, hstop, he⟩ := h.stop
  have hne : Markup.camelize s ≠ [] := fun hnil => h.ne_nil (eq_nil_of_camelize hnil)
  constructor
  · obtain ⟨b, t, hcons⟩ := List.exists_cons_of_ne_nil hne
    refine ⟨b, t, hcons, ?_⟩
    rcases camelize_eq_cons hcons with ⟨r', hs, _, _⟩ | ⟨d, r', _, hd, rfl, _⟩
    · obtain ⟨rfl, _⟩ := List.cons.inj (hstart.symm.trans hs)
      exact hc
    · exact isBlank_toUpper hd
  · obtain ⟨front, b, hlast⟩ := (List.eq_nil_or_concat (Markup.camelize s)).resolve_left hne
    rw [List.concat_eq_append] at hlast
    refine ⟨front, b, hlast, ?_⟩
    -- the last character comes from an end of the text that gives it alone
    obtain ⟨a', r', hs, hr'⟩ := exists_suffix_of_camelize hlast
    rcases camelize_eq_cons hr' with ⟨r'', rfl, hr'', _⟩ | ⟨d, r'', _, hd, rfl, _⟩
    · rw [eq_nil_of_camelize hr''] at hs
      obtain ⟨_, hb⟩ := List.append_inj' (hstop.symm.trans hs) rfl
      rwa [← List.singleton_inj.1 hb]
    · exact isBlank_toUpper hd

theorem notMem_camelize {c : Char} (hc : isAsciiLetter c = false) (h : c ∉ key) : c ∉ camelize key := by
  intro hmem
  rcases mem_camelize hmem with hkey | hletter
  · exact h hkey
  · exact absurd (hletter.symm.trans hc) (by simp)

namespace Declaration

/-- The declaration as it is written in a style. -/
def text (d : Declaration) : List Char := d.key ++ ':' :: d.value

/-- The declaration is in the form in which declarations are read. -/
structure Settled (d : Declaration) : Prop where
  key : Framed d.key
  value : Framed d.value
  camel : camelize d.key = d.key
  colon : ':' ∉ d.key

theorem Settled.read?_text (h : d.Settled) : read? d.text = some d := by
  rw [read?, text, takeWhile_ne h.colon, dropWhile_ne h.colon, List.drop_one, List.tail_cons,
    h.key.trim, h.value.trim, if_neg (not_or.2 ⟨h.key.ne_nil, h.value.ne_nil⟩), h.camel]

/-- A segment is read as a settled declaration that is made of its own characters and of letters. -/
theorem settled_of_read? (h : read? segment = some d) :
    d.Settled ∧ ∀ c ∈ d.text, c ∈ segment ∨ c = ':' ∨ isAsciiLetter c = true := by
  rw [read?] at h
  split at h
  · exact absurd h (by simp)
  rename_i hfull
  obtain ⟨hkey, hvalue⟩ := not_or.1 hfull
  obtain rfl := Option.some.inj h
  constructor
  · refine ⟨(framed_trim hkey).camelize, framed_trim hvalue, camelize_camelize _, ?_⟩
    refine notMem_camelize (by decide) fun hmem => ?_
    have hbefore := List.mem_takeWhile_imp (mem_of_mem_trim hmem)
    simp at hbefore
  · intro c hc
    rcases List.mem_append.1 hc with hc | hc
    · rcases mem_camelize hc with hc | hletter
      · exact .inl ((List.takeWhile_sublist _).subset (mem_of_mem_trim hc))
      · exact .inr (.inr hletter)
    · rcases List.mem_cons.1 hc with rfl | hc
      · exact .inr (.inl rfl)
      · refine .inl ((List.dropWhile_sublist _).subset (List.mem_of_mem_drop (mem_of_mem_trim hc)))

end Declaration

/-- A declaration of a style is written as a segment that gives it back. -/
theorem parseStyle_text {style : List Char} (h : d ∈ parseStyle style) : parseStyle d.text = [d] := by
  obtain ⟨segment, hsegment, hread⟩ := List.mem_filterMap.1 h
  obtain ⟨hsettled, hchars⟩ := Declaration.settled_of_read? hread
  have hsplit : ';' ∉ d.text := by
    intro hmem
    rcases hchars ';' hmem with hin | hcolon | hletter
    · exact notMem_of_mem_pieces hsegment hin
    · exact absurd hcolon (by decide)
    · exact absurd hletter (by decide)
  rw [parseStyle_of_notMem hsplit, hsettled.read?_text]
  rfl

/-- Declarations as they are written in a style, one after the other. -/
def styleText (ds : List Declaration) : List Char := join [';'] (ds.map Declaration.text)

theorem parseStyle_styleText (style : List Char) :
    parseStyle (styleText (parseStyle style)) = parseStyle style := by
  have hback : ∀ d ∈ parseStyle style, parseStyle d.text = [d] := fun d hd => parseStyle_text hd
  rw [styleText, parseStyle_join, List.flatMap_map]
  calc (parseStyle style).flatMap (fun d => parseStyle d.text)
      = (parseStyle style).flatMap fun d => [d] := List.flatMap_congr hback
    _ = parseStyle style := List.flatMap_singleton' _

/-- A style is parsed segment by segment, and what has been parsed is parsed as itself when it is written
again.  A segment gives its key, camelized, and what stands behind its first colon, later colons included;
it gives nothing without a colon, or if one of the two is blank. -/
theorem parseStyle_segments :
    (∀ a b, parseStyle (a ++ ';' :: b) = parseStyle a ++ parseStyle b) ∧
      (∀ style, parseStyle (styleText (parseStyle style)) = parseStyle style) ∧
      (∀ key value, ':' ∉ key → ';' ∉ key ++ ':' :: value →
        parseStyle (key ++ ':' :: value) =
          if trim key = [] ∨ trim value = [] then [] else [⟨camelize (trim key), trim value⟩]) ∧
      (∀ segment, ':' ∉ segment → ';' ∉ segment → parseStyle segment = []) ∧
      ∀ key, camelize (camelize key) = camelize key :=
  ⟨parseStyle_append, parseStyle_styleText, fun _ _ => parseStyle_declaration,
    fun _ => parseStyle_of_notMem_colon, camelize_camelize⟩

/-- A key in capitals and dashes, a value with colons between blanks, a key that comes twice, and segments
that give nothing. -/
def untidy : List Char :=
  " -webkit-Mask\t:url(x:y) ;; no value: ;fill:red;:no key;nothing;\u00A0fill :\u2003blue ".toList

theorem parseStyle_segments_untidy :
    parseStyle untidy = [⟨"Webkit-Mask".toList, "url(x:y)".toList⟩, ⟨"fill".toList, "red".toList⟩,
        ⟨"fill".toList, "blue".toList⟩] ∧
      parseStyle (styleText (parseStyle untidy)) = parseStyle untidy ∧
      parseStyle (" no value: ".toList ++ ';' :: untidy) = parseStyle untidy ∧
      (':' ∉ "nothing".toList ∧ ';' ∉ "nothing".toList ∧ parseStyle "nothing".toList = []) ∧
      (':' ∉ "a-b ".toList ∧ ';' ∉ "a-b ".toList ++ ':' :: " c:d".toList ∧
        parseStyle ("a-b ".toList ++ ':' :: " c:d".toList) = [⟨"aB".toList, "c:d".toList⟩]) := by
  obtain ⟨happend, hagain, hdeclaration, hnothing, _⟩ := parseStyle_segments
  have hblank : parseStyle " no value: ".toList = [] := by decide +kernel
  have hkey : ':' ∉ "a-b ".toList := by decide
  have hsplit : ';' ∉ "a-b ".toList ++ ':' :: " c:d".toList := by decide
  refine ⟨by decide +kernel, hagain untidy, ?_, ?_, hkey, hsplit, ?_⟩
  · rw [happend, hblank, List.nil_append]
  · exact ⟨by decide, by decide, hnothing _ (by decide) (by decide)⟩
  · rw [hdeclaration _ _ hkey hsplit]
    decide +kernel

end Markup
end SvgIcon
