import SvgIcon.File.Path
import SvgIcon.Proofs.Text.Pieces

/-!
Paths and their texts.  A path that was read from a text has plain names, and its own text is read as
the same path.
-/

namespace SvgIcon
namespace Path

open Text

/-- Names as they are left when a path is read. -/
structure Plain (p : Path) : Prop where
  root : p.root ∈ ["", "/", "//"]
  names : ∀ name ∈ p.names, name ≠ "" ∧ name ≠ "." ∧ '/' ∉ name.toList

theorem plain_ofString (s : String) : (ofString s).Plain where
  root := by
    rw [ofString]
    simp only
    split
    · decide
    · split <;> decide
  names := by
    intro name hname
    obtain ⟨piece, hpiece, rfl⟩ := List.mem_map.1 hname
    obtain ⟨hmem, hkept⟩ := List.mem_filter.1 hpiece
    simp only [Bool.and_eq_true, decide_eq_true_eq] at hkept
    refine ⟨fun h => hkept.1 ?_, fun h => hkept.2 ?_, ?_⟩
    · simpa using congrArg String.toList h
    · simpa using congrArg String.toList h
    · rw [String.toList_ofList]
      exact notMem_of_mem_pieces hmem

/-- The slashes in front of a text are the root of the path that is read from it. -/
theorem ofString_slashes {root : String} (hroot : root ∈ ["", "/", "//"]) {s : String}
    (hs : s.toList.head? ≠ some '/') :
    ofString (root ++ s) = ⟨root, (ofString s).names⟩ := by
  have hnone : s.toList.takeWhile (· = '/') = [] := by
    cases hchars : s.toList with
    | nil => rfl
    | cons c cs =>
      have hc : c ≠ '/' := by simpa [hchars] using hs
      simp [hc]
  simp only [List.mem_cons, List.not_mem_nil, or_false] at hroot
  rcases hroot with rfl | rfl | rfl
  · rw [String.empty_append, ofString, hnone]
    rfl
  · have hchars : ("/" ++ s).toList = '/' :: s.toList := by simp
    simp [ofString, hchars, pieces, hnone]
  · have hchars : ("//" ++ s).toList = '/' :: '/' :: s.toList := by simp
    simp [ofString, hchars, pieces, hnone]

theorem ofString_intercalate {names : List String} (hne : names ≠ [])
    (h : ∀ name ∈ names, name ≠ "" ∧ name ≠ "." ∧ '/' ∉ name.toList) :
    (ofString ("/".intercalate names)).names = names := by
  have hpieces : pieces '/' ("/".intercalate names).toList = names.map String.toList := by
    rw [String.toList_intercalate, intercalate_eq_join]
    refine pieces_join (by simpa using hne) ?_
    intro piece hpiece
    obtain ⟨name, hname, rfl⟩ := List.mem_map.1 hpiece
    exact (h name hname).2.2
  have hkept : (names.map String.toList).filter (fun p => p ≠ [] && p ≠ ['.']) =
      names.map String.toList := by
    refine List.filter_eq_self.2 fun piece hpiece => ?_
    obtain ⟨name, hname, rfl⟩ := List.mem_map.1 hpiece
    obtain ⟨hempty, hpoint, _⟩ := h name hname
    simp only [Bool.and_eq_true, decide_eq_true_eq]
    refine ⟨fun hnil => hempty (String.toList_inj.1 hnil), fun hdot => hpoint (String.toList_inj.1 hdot)⟩
  rw [ofString, hpieces]
  simp only [hkept, List.map_map]
  rw [List.map_congr_left fun name _ => show (String.ofList ∘ String.toList) name = name from
    String.ofList_toList]
  exact List.map_id names

/-- The text of a plain path is read as the path. -/
theorem Plain.ofString_text {p : Path} (h : p.Plain) : ofString p.text = p := by
  obtain ⟨root, names⟩ := p
  by_cases hnames : names = []
  · subst hnames
    have hroot := h.root
    simp only [List.mem_cons, List.not_mem_nil, or_false] at hroot
    rcases hroot with rfl | rfl | rfl <;> decide
  · have htext : text ⟨root, names⟩ = root ++ "/".intercalate names := by
      simp [text, hnames]
    have hhead : ("/".intercalate names).toList.head? ≠ some '/' := by
      obtain ⟨name, others, rfl⟩ := List.exists_cons_of_ne_nil hnames
      obtain ⟨hempty, _, hslash⟩ := h.names name List.mem_cons_self
      obtain ⟨c, cs, hchars⟩ := List.exists_cons_of_ne_nil
        (show name.toList ≠ [] from fun hnil => hempty (String.toList_inj.1 hnil))
      obtain ⟨rest, hrest⟩ := exists_join_append ['/'] [c] cs (others.map String.toList)
      have hfront : ("/".intercalate (name :: others)).toList = c :: rest := by
        rw [String.toList_intercalate, intercalate_eq_join, List.map_cons, hchars]
        exact hrest
      rw [hfront]
      intro hc
      exact hslash (hchars ▸ (Option.some.inj hc ▸ List.mem_cons_self))
    rw [htext, ofString_slashes h.root hhead, ofString_intercalate hnames h.names]

end Path
end SvgIcon
