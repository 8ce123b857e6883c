import Mathlib.Data.List.Forall2
import SvgIcon.Proofs.File.Refusals
import SvgIcon.Proofs.File.Standing
import SvgIcon.Proofs.Text.Passes
import SvgIcon.Proofs.Traversal

/-!
Listing files.  A path to a file stands for the file, and a path to a directory for the files below it
whose names end as is asked for, in the order of the names on the way to them.  Paths that do not lead
below one another have no file in common.
-/

namespace SvgIcon

/-! ## Endings of names -/

namespace Path

open Text

variable {p : Path} {name ending : String} {rest : List String}

/-- The name ends so from its last point on; there is something in front of the point and something
behind it. -/
def HasEnding (name ending : String) : Prop :=
  ∃ stem ext, name = stem ++ "." ++ ext ∧ ending = "." ++ ext ∧ stem ≠ "" ∧ ext ≠ "" ∧
    '.' ∉ ext.toList

/-- A text is what stands behind its last point, or there is one in front of that. -/
theorem exists_behind_point (cs : List Char) : ∃ behind,
    (cs.reverse.takeWhile (· ≠ '.')).reverse = behind ∧ '.' ∉ behind ∧
      (cs = behind ∨ ∃ front, cs = front ++ '.' :: behind) := by
  refine ⟨_, rfl, fun hmem => ?_, ?_⟩
  · simpa using List.mem_takeWhile_imp (List.mem_reverse.1 hmem)
  have hsplit := List.takeWhile_append_dropWhile (p := (· ≠ '.')) (l := cs.reverse)
  have hstop := List.head?_dropWhile_not (· ≠ '.') cs.reverse
  cases hrest : cs.reverse.dropWhile (· ≠ '.') with
  | nil =>
    rw [hrest, List.append_nil] at hsplit
    exact .inl (by rw [hsplit, List.reverse_reverse])
  | cons c front =>
    rw [hrest] at hstop hsplit
    obtain rfl : c = '.' := by simpa using hstop
    have hback := congrArg List.reverse hsplit
    rw [List.reverse_reverse, List.reverse_append, List.reverse_cons] at hback
    exact .inr ⟨front.reverse, hback.symm.trans (List.append_cons _ _ _).symm⟩

theorem suffixOf_eq_iff (h : ending ≠ "") : suffixOf name = ending ↔ HasEnding name ending := by
  obtain ⟨behind, hbehind, hpoint, hname⟩ := exists_behind_point name.toList
  simp only [suffixOf, hbehind]
  constructor
  · intro hsuffix
    split at hsuffix
    · exact absurd hsuffix.symm h
    rename_i hlong
    simp only [Bool.or_eq_true, List.isEmpty_iff, decide_eq_true_eq, not_or] at hlong
    rcases hname with heq | ⟨front, heq⟩
    · simp [heq] at hlong
    refine ⟨String.ofList front, String.ofList behind, ?_, ?_, ?_, ?_, by simpa using hpoint⟩
    · exact String.toList_inj.1 (by simp [heq])
    · rw [← hsuffix]
      exact String.toList_inj.1 (by simp)
    · rintro hnil
      have hfront : front = [] := by simpa using congrArg String.toList hnil
      simp [heq, hfront] at hlong
    · intro hnil
      exact hlong.1 (by simpa using congrArg String.toList hnil)
  · rintro ⟨stem, ext, rfl, rfl, hstem, hext, hnone⟩
    have hchars : (stem ++ "." ++ ext).toList = stem.toList ++ '.' :: ext.toList := by simp
    obtain rfl : ext.toList = behind := by
      have hreverse : (stem.toList ++ '.' :: ext.toList).reverse =
          ext.toList.reverse ++ '.' :: stem.toList.reverse := by simp
      rw [← hbehind, hchars, hreverse, takeWhile_ne (by simpa using hnone), List.reverse_reverse]
    have hstem' : stem.toList ≠ [] := fun hnil => hstem (String.toList_inj.1 hnil)
    have hext' : ext.toList ≠ [] := fun hnil => hext (String.toList_inj.1 hnil)
    have hlength := List.length_pos_iff.2 hstem'
    rw [if_neg]
    · exact String.toList_inj.1 (by simp)
    · simp only [Bool.or_eq_true, List.isEmpty_iff, decide_eq_true_eq, not_or, hchars,
        List.length_append, List.length_cons]
      exact ⟨hext', by omega⟩

theorem NullFree.extend (h : p.NullFree) (hrest : ∀ name ∈ rest, '\x00' ∉ name.toList) :
    (p.extend rest).NullFree := by
  refine nullFree_iff.2 fun name hname => ?_
  rcases List.mem_cons.1 hname with hroot | hmem
  · exact nullFree_iff.1 h name (List.mem_cons.2 (.inl hroot))
  · rcases List.mem_append.1 hmem with hnames | hmem
    · exact nullFree_iff.1 h name (List.mem_cons_of_mem _ hnames)
    · intro c hc hnull
      obtain rfl : c = '\x00' := Char.toNat_inj.1 hnull
      exact hrest name hmem hc

/-- The root of a path and its names. -/
def parts (p : Path) : List String := p.root :: p.names

end Path

namespace Disk

variable {d : Disk} {p : Path} {place q : Place} {rest : List String} {suffixes : List String}
  {node : Node}

/-! ## Trees as the system keeps them -/

/-- A tree in which every place is listed once, and its names are ones that the system takes. -/
structure Orderly (d : Disk) : Prop where
  tree : d.Tree
  distinct : (d.nodes.map (·.1)).Nodup
  names : ∀ entry ∈ d.nodes, ∀ name ∈ entry.1,
    name ≠ ".." ∧ name.utf8ByteSize ≤ nameLimit ∧ '\x00' ∉ name.toList

theorem Orderly.mem_nodes_iff (h : d.Orderly) (hplace : place ≠ []) :
    (place, node) ∈ d.nodes ↔ d.find? place = some node := by
  rw [find?, if_neg hplace, List.lookup_eq_some_iff]
  constructor
  · intro hmem
    obtain ⟨front, back, hnodes⟩ := List.append_of_mem hmem
    refine ⟨front, back, hnodes, fun entry hentry => bne_iff_ne.2 fun heq => ?_⟩
    have hdistinct := h.distinct
    rw [hnodes, List.map_append, List.map_cons, List.nodup_append] at hdistinct
    exact hdistinct.2.2 entry.1 (List.mem_map_of_mem hentry) place List.mem_cons_self heq.symm
  · rintro ⟨front, back, hnodes, _⟩
    rw [hnodes]
    exact List.mem_append_right _ List.mem_cons_self

theorem Orderly.names_of_find? (h : d.Orderly) (hthere : d.find? place = some node) {name : String}
    (hname : name ∈ place) :
    name ≠ ".." ∧ name.utf8ByteSize ≤ nameLimit ∧ '\x00' ∉ name.toList :=
  h.names _ ((h.mem_nodes_iff (List.ne_nil_of_mem hname)).2 hthere) name hname

theorem Tree.above (h : d.Tree) (hne : rest ≠ []) (hthere : d.find? (q ++ rest) = some node) :
    d.find? q = some .directory := by
  induction rest generalizing q with
  | nil => exact absurd rfl hne
  | cons name rest ih =>
    rw [List.append_cons] at hthere
    by_cases hrest : rest = []
    · rw [hrest, List.append_nil] at hthere
      exact h.parent hthere
    · exact h.parent (ih hrest hthere)

/-- What is in a directory is reached from it name by name. -/
theorem Orderly.follow (h : d.Orderly) (hthere : d.find? (q ++ rest) = some node) :
    rest.foldlM d.step q = .ok (q ++ rest) := by
  induction rest generalizing q with
  | nil => rw [List.append_nil]; rfl
  | cons name rest ih =>
    have hname : name ∈ q ++ name :: rest := by simp
    obtain ⟨hback, hlength, _⟩ := h.names_of_find? hthere hname
    have hdirectory := h.tree.above (List.cons_ne_nil name rest) hthere
    have hstep : d.step q name = .ok (q ++ [name]) := by
      rw [step, hdirectory]
      simp only
      rw [if_neg hback, if_neg (Nat.not_lt.2 hlength)]
    rw [List.append_cons] at hthere ⊢
    rw [List.foldlM_cons, hstep]
    exact ih hthere

theorem Orderly.locate_extend (h : d.Orderly) (hplace : d.locate p = .ok q)
    (hthere : d.find? (q ++ rest) = some node)
    (hshort : (p.extend rest).text.utf8ByteSize ≤ pathLimit) :
    d.locate (p.extend rest) = .ok (q ++ rest) := by
  rw [locate] at hplace
  split at hplace
  · simp at hplace
  rename_i hnull
  split at hplace
  · simp at hplace
  have hfree : (p.extend rest).NullFree := by
    refine Path.NullFree.extend (Bool.eq_false_iff.2 hnull) fun name hname => ?_
    exact (h.names_of_find? hthere (List.mem_append_right q hname)).2.2
  have hfollow : (p.names ++ rest).foldlM d.step (if p.isAbsolute then [] else d.cwd) =
      .ok (q ++ rest) := by
    rw [List.foldlM_append, hplace]
    exact h.follow hthere
  rw [locate, if_neg (by rw [Bool.not_eq_true]; exact hfree), if_neg (Nat.not_lt.2 hshort)]
  exact hfollow

/-! ## Below a directory -/

theorem below?_eq_some_iff : below? q place = some rest ↔ rest ≠ [] ∧ place = q ++ rest := by
  induction q generalizing place with
  | nil =>
    cases place with
    | nil => simp +contextual [below?, eq_comm]
    | cons name names =>
      simp only [below?, Option.some.injEq, List.nil_append]
      exact ⟨fun heq => ⟨heq ▸ List.cons_ne_nil _ _, heq⟩, fun heq => heq.2⟩
  | cons a q ih =>
    cases place with
    | nil => simp [below?]
    | cons b place =>
      rw [below?]
      split
      · next heq => rw [ih, heq, List.cons_append, List.cons_inj_right]
      · next hne => simp [Ne.symm hne]

theorem Orderly.mem_filesBelow (h : d.Orderly) :
    rest ∈ d.filesBelow q ↔ rest ≠ [] ∧ ∃ bytes, d.find? (q ++ rest) = some (.file bytes) := by
  rw [filesBelow, List.mem_mergeSort, List.mem_filterMap]
  constructor
  · rintro ⟨⟨there, bytes | _⟩, hmem, hbelow⟩
    · obtain ⟨hne, rfl⟩ := below?_eq_some_iff.1 hbelow
      exact ⟨hne, bytes, (h.mem_nodes_iff (by simp [hne])).1 hmem⟩
    · simp at hbelow
  · rintro ⟨hne, bytes, hthere⟩
    exact ⟨(q ++ rest, .file bytes), (h.mem_nodes_iff (by simp [hne])).2 hthere,
      below?_eq_some_iff.2 ⟨hne, rfl⟩⟩

/-- The files below a directory come in the order of their names, and each of them once. -/
theorem Orderly.pairwise_filesBelow (h : d.Orderly) (q : Place) :
    (d.filesBelow q).Pairwise (· < ·) := by
  have hsorted : (d.filesBelow q).Pairwise fun a b => (!decide (b < a)) = true := by
    refine List.pairwise_mergeSort (fun a b c hab hbc => ?_) (fun a b => ?_) _
    · simp only [Bool.not_eq_true', decide_eq_false_iff_not] at hab hbc ⊢
      exact List.le_trans (α := String) hab hbc
    · simp only [Bool.or_eq_true, Bool.not_eq_true', decide_eq_false_iff_not]
      exact List.le_total a b
  have hdistinct : (d.filesBelow q).Nodup := by
    rw [filesBelow, (List.mergeSort_perm _ _).nodup_iff]
    refine List.Pairwise.filterMap _ (fun entry entry' hne rest hrest rest' hrest' heq => ?_)
      (List.pairwise_map.1 h.distinct)
    obtain ⟨there, node⟩ := entry
    obtain ⟨there', node'⟩ := entry'
    cases node <;> cases node' <;> simp only [reduceCtorEq] at hrest hrest'
    obtain ⟨_, rfl⟩ := below?_eq_some_iff.1 hrest
    obtain ⟨_, rfl⟩ := below?_eq_some_iff.1 hrest'
    exact hne (by rw [heq])
  refine (hsorted.and hdistinct).imp fun {a b} hab => ?_
  obtain ⟨hle, hne⟩ := hab
  simp only [Bool.not_eq_true', decide_eq_false_iff_not] at hle
  exact Classical.byContradiction fun hnot =>
    hne (List.le_antisymm (List.not_lt.1 hle) (List.not_lt.1 hnot))

/-- Everything below the place can be asked for by a path that starts from this one. -/
def ShortBelow (d : Disk) (p : Path) (q : Place) : Prop :=
  ∀ rest, rest ≠ [] → d.find? (q ++ rest) ≠ none → (p.extend rest).text.utf8ByteSize ≤ pathLimit

theorem Orderly.tooLongBelow?_eq_none_iff (h : d.Orderly) :
    d.tooLongBelow? p q = none ↔ d.ShortBelow p q := by
  rw [tooLongBelow?, List.find?_eq_none]
  simp only [decide_eq_true_eq, Nat.not_lt]
  constructor
  · intro hall rest hne hthere
    obtain ⟨node, hnode⟩ := Option.ne_none_iff_exists'.1 hthere
    have hbelow : below? q (q ++ rest) = some rest := below?_eq_some_iff.2 ⟨hne, rfl⟩
    refine hall _ (List.mem_filterMap.2 ⟨(q ++ rest, node), ?_, by simp [hbelow]⟩)
    exact (h.mem_nodes_iff (by simp [hne])).2 hnode
  · intro hall file hfile
    obtain ⟨⟨there, node⟩, hmem, hsome⟩ := List.mem_filterMap.1 hfile
    obtain ⟨rest, hbelow, rfl⟩ := Option.map_eq_some_iff.1 hsome
    obtain ⟨hne, rfl⟩ := below?_eq_some_iff.1 hbelow
    exact hall rest hne (by simp [(h.mem_nodes_iff (by simp [hne])).1 hmem])

/-! ## What a path stands for -/

/-- The system takes the path, and every path below it if it leads to a directory. -/
def Fits (d : Disk) (p : Path) : Prop :=
  d.locate p ≠ .error .nameTooLong ∧ ∀ q, d.Reaches p q → d.ShortBelow p q

/-- What a path stands for: a file for itself whatever its name is, a directory for the files below it
whose names end as is asked for, and a path that leads to nothing for nothing. -/
inductive Finds (d : Disk) (suffixes : List String) (p : Path) : List Path → Prop
  | file {bytes} (hread : d.read p = .ok bytes) : Finds d suffixes p [p]
  | directory {q : Place} {found : List Path} (hreach : d.Reaches p q)
      (hexact : ∀ f, f ∈ found ↔ ∃ rest bytes, f = p.extend rest ∧
        d.find? (q ++ rest) = some (.file bytes) ∧ Text.lowered f.suffix ∈ suffixes)
      (hsorted : found.Pairwise fun f g => f.names < g.names)
      (hleads : ∀ rest, p.extend rest ∈ found → d.locate (p.extend rest) = .ok (q ++ rest)) :
      Finds d suffixes p found
  | missing (hnothing : ∀ node, d.node p ≠ .ok node) : Finds d suffixes p []

theorem node_of_locate (hplace : d.locate p = .ok q) :
    d.node p = (d.find? q).elim (.error .missing) .ok := by
  rw [node, hplace]
  simp only [bind, Except.bind]
  cases d.find? q <;> rfl

theorem node_of_refused {r : Refusal} (hplace : d.locate p = .error r) : d.node p = .error r := by
  rw [node, hplace]
  rfl

theorem look_of_locate (hplace : d.locate p = .ok q) : d.look p = .ok (d.find? q) := by
  rw [look, node_of_locate hplace]
  cases d.find? q <;> rfl

/-- The paths from a directory to the files below it whose names end as is asked for. -/
def listed (d : Disk) (suffixes : List String) (p : Path) (q : Place) : List Path :=
  (d.filesBelow q).filterMap fun names =>
    if suffixes.contains (Text.lowered (p.extend names).suffix) then some (p.extend names) else none

theorem filesAt_directory (hreach : d.Reaches p q) (suffixes : List String) :
    d.filesAt suffixes p =
      match d.tooLongBelow? p q with
      | some file => .error (Refusal.nameTooLong.fault file)
      | none => .ok (d.listed suffixes p q) := by
  rw [filesAt, look_of_locate hreach.locate, hreach.directory]
  simp only [bind, Except.bind, hreach.locate]
  cases d.tooLongBelow? p q <;> rfl

theorem Reaches.ne_nil_of_file {bytes : ByteArray} (h : d.Reaches p q)
    (hfile : d.find? (q ++ rest) = some (.file bytes)) : rest ≠ [] := by
  rintro rfl
  rw [List.append_nil, h.directory] at hfile
  exact absurd hfile (by simp)

theorem Orderly.mem_listed (h : d.Orderly) (hreach : d.Reaches p q) {f : Path} :
    f ∈ d.listed suffixes p q ↔ ∃ rest bytes, f = p.extend rest ∧
      d.find? (q ++ rest) = some (.file bytes) ∧ Text.lowered f.suffix ∈ suffixes := by
  simp only [listed, List.mem_filterMap, h.mem_filesBelow, Option.ite_none_right_eq_some,
    List.contains_iff_mem, Option.some.injEq]
  constructor
  · rintro ⟨rest, ⟨_, bytes, hfile⟩, hsuffix, rfl⟩
    exact ⟨rest, bytes, rfl, hfile, hsuffix⟩
  · rintro ⟨rest, bytes, rfl, hfile, hsuffix⟩
    exact ⟨rest, ⟨hreach.ne_nil_of_file hfile, bytes, hfile⟩, hsuffix, rfl⟩

theorem Orderly.pairwise_listed (h : d.Orderly) (suffixes : List String) (p : Path) (q : Place) :
    (d.listed suffixes p q).Pairwise fun f g => f.names < g.names := by
  refine List.Pairwise.filterMap _ (fun a b hab f hf g hg => ?_) (h.pairwise_filesBelow q)
  obtain ⟨_, heq⟩ := Option.ite_none_right_eq_some.1 hf
  obtain ⟨_, heq'⟩ := Option.ite_none_right_eq_some.1 hg
  rw [← Option.some.inj heq, ← Option.some.inj heq']
  exact List.append_left_lt hab

theorem extend_inj {rest' : List String} : p.extend rest = p.extend rest' ↔ rest = rest' := by
  simp [Path.extend]

theorem Orderly.finds_directory (h : d.Orderly) (hreach : d.Reaches p q) (hshort : d.ShortBelow p q)
    (suffixes : List String) : d.Finds suffixes p (d.listed suffixes p q) := by
  refine .directory hreach (fun f => h.mem_listed hreach) (h.pairwise_listed suffixes p q) ?_
  intro rest hmem
  obtain ⟨rest', bytes, heq, hfile, _⟩ := (h.mem_listed hreach).1 hmem
  obtain rfl := extend_inj.1 heq
  have hne := hreach.ne_nil_of_file hfile
  exact h.locate_extend hreach.locate hfile (hshort rest hne (by simp [hfile]))

theorem Orderly.filesAt_finds (h : d.Orderly) (hfits : d.Fits p) (suffixes : List String) :
    ∃ found, d.filesAt suffixes p = .ok found ∧ d.Finds suffixes p found := by
  cases hplace : d.locate p with
  | error r =>
    have hr : r ≠ .nameTooLong := by
      rintro rfl
      exact hfits.1 hplace
    have hnode := node_of_refused hplace
    have hlook : d.look p = .ok none := by
      rw [look, hnode]
      cases r <;> first | rfl | exact absurd rfl hr
    refine ⟨[], ?_, .missing (by simp [hnode])⟩
    rw [filesAt, hlook]
    rfl
  | ok q =>
    have hnode := node_of_locate hplace
    have hlook := look_of_locate hplace
    cases hthere : d.find? q with
    | none =>
      refine ⟨[], ?_, .missing (by simp [hnode, hthere])⟩
      rw [filesAt, hlook, hthere]
      rfl
    | some node =>
      cases node with
      | file bytes =>
        refine ⟨[p], ?_, .file (read_eq_ok_iff.2 ⟨q, hplace, hthere⟩)⟩
        rw [filesAt, hlook, hthere]
        rfl
      | directory =>
        have hreach : d.Reaches p q := ⟨hplace, hthere⟩
        have hshort := hfits.2 q hreach
        rw [filesAt_directory hreach, h.tooLongBelow?_eq_none_iff.2 hshort]
        exact ⟨_, rfl, h.finds_directory hreach hshort suffixes⟩

/-- Of what is too long the system says so. -/
theorem Orderly.filesAt_refused (h : d.Orderly) (hnot : ¬ d.Fits p) (suffixes : List String) :
    ∃ f, d.filesAt suffixes p = .error f ∧ f.kind = .system := by
  by_cases hlong : d.locate p = .error .nameTooLong
  · refine ⟨Refusal.nameTooLong.fault p, ?_, rfl⟩
    rw [filesAt, look, node_of_refused hlong]
    rfl
  · have hbelow : ∃ q, d.Reaches p q ∧ ¬ d.ShortBelow p q := by
      simpa [Fits, hlong] using hnot
    obtain ⟨q, hreach, hlong⟩ := hbelow
    rw [filesAt_directory hreach]
    cases hfile : d.tooLongBelow? p q with
    | none => exact absurd (h.tooLongBelow?_eq_none_iff.1 hfile) hlong
    | some file => exact ⟨_, rfl, rfl⟩

theorem Orderly.fits_iff (h : d.Orderly) (suffixes : List String) :
    d.Fits p ↔ ∃ found, d.filesAt suffixes p = .ok found := by
  refine ⟨fun hfits => (h.filesAt_finds hfits suffixes).imp fun _ => And.left, ?_⟩
  rintro ⟨found, hfound⟩
  refine Classical.byContradiction fun hnot => ?_
  obtain ⟨f, hf, _⟩ := h.filesAt_refused hnot suffixes
  exact absurd (hfound.symm.trans hf) (by simp)

theorem Orderly.system_of_filesAt (h : d.Orderly) {f : Fault} (hf : d.filesAt suffixes p = .error f) :
    f.kind = .system := by
  have hnot : ¬ d.Fits p := fun hfits => by
    obtain ⟨_, hok⟩ := (h.fits_iff suffixes).1 hfits
    exact absurd (hok.symm.trans hf) (by simp)
  obtain ⟨f', hf', hsystem⟩ := h.filesAt_refused hnot suffixes
  rwa [Except.error.inj (hf.symm.trans hf')]

/-! ## What several paths stand for -/

/-- Neither leads to where the other leads or below it. -/
def Apart (a b : List String) : Prop := ¬ a <+: b ∧ ¬ b <+: a

instance (a b : List String) : Decidable (Apart a b) := inferInstanceAs (Decidable (_ ∧ _))

theorem exists_of_forall₂ {α β : Type} {R : α → β → Prop} {xs : List α} {ys : List β} {y : β}
    (h : List.Forall₂ R xs ys) (hy : y ∈ ys) : ∃ x ∈ xs, R x y := by
  induction h with
  | nil => exact absurd hy List.not_mem_nil
  | @cons x y' xs ys hxy _ ih =>
    rcases List.mem_cons.1 hy with rfl | hmem
    · exact ⟨x, List.mem_cons_self, hxy⟩
    · obtain ⟨x', hx', hxy'⟩ := ih hmem
      exact ⟨x', List.mem_cons_of_mem x hx', hxy'⟩

/-- Files that are found by paths which are apart are not found twice. -/
theorem nodup_of_apart {key : Path → List String} {paths : List Path} {found : List (List Path)}
    (h : List.Forall₂ (fun p fs => (fs.map key).Nodup ∧ ∀ f ∈ fs, key p <+: key f) paths found)
    (hapart : paths.Pairwise fun p q => Apart (key p) (key q)) : (found.flatten.map key).Nodup := by
  induction h with
  | nil => exact .nil
  | @cons p fs paths found hp hall ih =>
    obtain ⟨hfirst, hothers⟩ := List.pairwise_cons.1 hapart
    rw [List.flatten_cons, List.map_append, List.nodup_append]
    refine ⟨hp.1, ih hothers, ?_⟩
    rintro _ hmem _ hmem' rfl
    obtain ⟨f, hf, hkey⟩ := List.mem_map.1 hmem
    obtain ⟨f', hf', hkey'⟩ := List.mem_map.1 hmem'
    obtain ⟨fs', hfs', hin⟩ := List.mem_flatten.1 hf'
    obtain ⟨q, hq, _, hqs⟩ := exists_of_forall₂ hall hfs'
    have hpre : key p <+: key f := hp.2 f hf
    have hpre' : key q <+: key f := hkey.trans hkey'.symm ▸ hqs f' hin
    rcases List.prefix_or_prefix_of_prefix hpre hpre' with hbelow | hbelow
    · exact (hfirst q hq).1 hbelow
    · exact (hfirst q hq).2 hbelow

/-- The paths that a path stands for lead below it, and are told apart by their names. -/
theorem Finds.parts {found : List Path} (h : d.Finds suffixes p found) :
    (found.map Path.parts).Nodup ∧ ∀ f ∈ found, p.parts <+: f.parts := by
  cases h with
  | file => simp
  | missing => simp
  | directory hreach hexact hsorted hleads =>
    constructor
    · refine List.pairwise_map.2 (hsorted.imp fun {f g} hlt heq => ?_)
      rw [(List.cons.inj heq).2] at hlt
      exact List.lt_irrefl _ hlt
    · intro f hf
      obtain ⟨rest, _, rfl, _⟩ := (hexact f).1 hf
      exact List.prefix_append p.parts rest

/-- So do the places that they lead to. -/
theorem Finds.places {found : List Path} (h : d.Finds suffixes p found) :
    (found.map (·.place d.cwd)).Nodup ∧ ∀ f ∈ found, p.place d.cwd <+: f.place d.cwd := by
  cases h with
  | file => simp
  | missing => simp
  | @directory q _ hreach hexact hsorted hleads =>
    have hplace : ∀ f ∈ found, ∃ rest, f = p.extend rest ∧ f.place d.cwd = q ++ rest := by
      intro f hf
      obtain ⟨rest, _, rfl, _⟩ := (hexact f).1 hf
      exact ⟨rest, rfl, (locate_spelled (hleads rest hf)).symm⟩
    constructor
    · refine List.pairwise_map.2 (hsorted.imp_of_mem fun {f g} hf hg hlt heq => ?_)
      obtain ⟨rest, rfl, hrest⟩ := hplace f hf
      obtain ⟨rest', rfl, hrest'⟩ := hplace g hg
      rw [hrest, hrest'] at heq
      rw [List.append_cancel_left heq] at hlt
      exact List.lt_irrefl _ hlt
    · intro f hf
      obtain ⟨rest, _, hrest⟩ := hplace f hf
      rw [hrest, ← locate_spelled hreach.locate]
      exact List.prefix_append q rest

/-- What a path stands for can be read. -/
theorem Finds.read {found : List Path} (h : d.Finds suffixes p found) {f : Path} (hf : f ∈ found) :
    ∃ bytes, d.read f = .ok bytes := by
  cases h with
  | file hread =>
    obtain rfl := List.mem_singleton.1 hf
    exact ⟨_, hread⟩
  | missing => exact absurd hf List.not_mem_nil
  | directory hreach hexact hsorted hleads =>
    obtain ⟨rest, bytes, rfl, hfile, _⟩ := (hexact f).1 hf
    exact ⟨bytes, read_eq_ok_iff.2 ⟨_, hleads rest hf, hfile⟩⟩

/-- Path by path there is found what the path stands for, as long as nothing is too long for the system;
of what is too long the system says so.  Paths of which none leads below another one find no path twice,
and if not even the places that they lead to are below one another, they find no file twice. -/
theorem filesAtAll_finds (h : d.Orderly) (suffixes : List String) (paths : List Path) :
    ((∀ p ∈ paths, d.Fits p) → ∃ found, d.filesAtAll suffixes paths = .ok found.flatten ∧
      List.Forall₂ (d.Finds suffixes) paths found ∧
      (∀ f ∈ found.flatten, ∃ bytes, d.read f = .ok bytes) ∧
      (paths.Pairwise (fun p q => Apart p.parts q.parts) → found.flatten.Nodup) ∧
      (paths.Pairwise (fun p q => Apart (p.place d.cwd) (q.place d.cwd)) →
        (found.flatten.map (·.place d.cwd)).Nodup)) ∧
    ((∃ p ∈ paths, ¬ d.Fits p) →
      ∃ f, d.filesAtAll suffixes paths = .error f ∧ f.kind = .system) ∧
    ∀ name ending, ending ≠ "" → (Path.suffixOf name = ending ↔ Path.HasEnding name ending) := by
  refine ⟨fun hfits => ?_, fun hnot => ?_, fun name ending => Path.suffixOf_eq_iff⟩
  · obtain ⟨found, hfound, hall⟩ := mapM_of_ok fun p hp => h.filesAt_finds (hfits p hp) suffixes
    refine ⟨found, ?_, hall, fun f hf => ?_, fun hapart => ?_, fun hapart => ?_⟩
    · rw [filesAtAll, hfound]
      rfl
    · obtain ⟨fs, hfs, hin⟩ := List.mem_flatten.1 hf
      obtain ⟨_, _, hfinds⟩ := exists_of_forall₂ hall hfs
      exact hfinds.read hin
    · have hkeys := nodup_of_apart (hall.imp fun _ _ => Finds.parts) hapart
      exact (List.pairwise_map.1 hkeys).imp fun hne heq => hne (congrArg Path.parts heq)
    · exact nodup_of_apart (hall.imp fun _ _ => Finds.places) hapart
  · obtain ⟨p, hp, hunfit⟩ := hnot
    have hrefused := (h.filesAt_refused hunfit suffixes).imp fun _ => And.left
    have hsystem : ∀ q ∈ paths, ∀ f, d.filesAt suffixes q = .error f → f.kind = .system :=
      fun _ _ _ => h.system_of_filesAt
    obtain ⟨f, hf, hsystem⟩ := mapM_of_error hsystem ⟨p, hp, hrefused⟩
    exact ⟨f, by rw [filesAtAll, hf]; rfl, hsystem⟩

/-- A directory in which a file and a directory share the front of their names, with endings in capitals,
behind a point in front and before a point at the end. -/
def shelf : Disk where
  nodes := [(["a", "b.jsx"], .file .empty), (["a"], .directory), (["a", "x.TSX"], .file .empty),
    (["a", ".tsx"], .file .empty), (["a", "b"], .directory), (["a", "b", "y.tsx"], .file .empty),
    (["a", "c.tsx."], .file .empty), (["notes.txt"], .file .empty)]

theorem shelf_orderly : shelf.Orderly where
  tree := tree_of_nodes rfl (by simp [shelf, find?, List.lookup_cons])
  distinct := by decide
  names := by decide +kernel

theorem filesBelow_shelf : shelf.filesBelow ["a"] =
    [[".tsx"], ["b", "y.tsx"], ["b.jsx"], ["c.tsx."], ["x.TSX"]] := by
  have hasymm : ∀ a b : Place, a < b → b < a → a = b := fun a b hab hba =>
    absurd (List.lt_trans hab hba) (List.lt_irrefl a)
  have hperm : [["b.jsx"], ["x.TSX"], [".tsx"], ["b", "y.tsx"], ["c.tsx."]].Perm
      [[".tsx"], ["b", "y.tsx"], ["b.jsx"], ["c.tsx."], ["x.TSX"]] := by decide
  exact List.Perm.eq_of_pairwise (fun a b _ _ => hasymm a b) (shelf_orderly.pairwise_filesBelow ["a"])
    (by decide +kernel) ((List.mergeSort_perm _ _).trans hperm)

theorem filesAtAll_finds_shelf :
    let paths : List Path := [⟨"", ["notes.txt"]⟩, ⟨"", ["nowhere"]⟩, ⟨"", ["a"]⟩]
    let listed : List Path := [⟨"", ["a", "b", "y.tsx"]⟩, ⟨"", ["a", "b.jsx"]⟩, ⟨"", ["a", "x.TSX"]⟩]
    shelf.Orderly ∧ (∀ p ∈ paths, shelf.Fits p) ∧
    paths.Pairwise (fun p q => Apart p.parts q.parts) ∧
    ∃ found, shelf.filesAtAll componentSuffixes paths = .ok found.flatten ∧
      found.flatten = ⟨"", ["notes.txt"]⟩ :: listed ∧
      List.Forall₂ (shelf.Finds componentSuffixes) paths found ∧ found.flatten.Nodup := by
  intro paths listed
  have hfile : shelf.filesAt componentSuffixes ⟨"", ["notes.txt"]⟩ = .ok [⟨"", ["notes.txt"]⟩] := rfl
  have hnothing : shelf.filesAt componentSuffixes ⟨"", ["nowhere"]⟩ = .ok [] := rfl
  have hlisted : shelf.filesAt componentSuffixes ⟨"", ["a"]⟩ = .ok listed := by
    have hreach : shelf.Reaches ⟨"", ["a"]⟩ ["a"] := ⟨rfl, rfl⟩
    have hshort : shelf.tooLongBelow? ⟨"", ["a"]⟩ ["a"] = none := by decide +kernel
    rw [filesAt_directory hreach, hshort, Disk.listed, filesBelow_shelf]
    exact congrArg Except.ok (by decide +kernel)
  have hfits : ∀ p ∈ paths, shelf.Fits p := by
    intro p hp
    simp only [paths, List.mem_cons, List.not_mem_nil, or_false] at hp
    refine (shelf_orderly.fits_iff componentSuffixes).2 ?_
    rcases hp with rfl | rfl | rfl
    exacts [⟨_, hfile⟩, ⟨_, hnothing⟩, ⟨_, hlisted⟩]
  have hapart : paths.Pairwise fun p q => Apart p.parts q.parts := by decide
  have hwhole : shelf.filesAtAll componentSuffixes paths = .ok (⟨"", ["notes.txt"]⟩ :: listed) := by
    simp only [filesAtAll, paths, List.mapM_cons, List.mapM_nil, hfile, hnothing, hlisted]
    rfl
  obtain ⟨found, hfound, hall, _, hnodup, _⟩ :=
    (filesAtAll_finds shelf_orderly componentSuffixes paths).1 hfits
  have hflat := Except.ok.inj (hfound.symm.trans hwhole)
  exact ⟨shelf_orderly, hfits, hapart, found, hfound, hflat, hall, hnodup hapart⟩

/-- A name that is too long is refused where it is looked for. -/
theorem locate_tooLong {name : String} (hcwd : d.find? d.cwd = some .directory) (hname : name ≠ "..")
    (hfree : ∀ c ∈ name.toList, c.toNat ≠ 0) (hlong : nameLimit < name.utf8ByteSize)
    (hshort : name.utf8ByteSize ≤ pathLimit) : d.locate ⟨"", [name]⟩ = .error .nameTooLong := by
  have htext : Path.text ⟨"", [name]⟩ = name := by simp [Path.text]
  have hstep : d.step d.cwd name = .error .nameTooLong := by
    rw [step, hcwd]
    simp only
    rw [if_neg hname, if_pos hlong]
  rw [locate, htext, if_neg (by simpa using hfree), if_neg (Nat.not_lt.2 hshort)]
  show (d.step d.cwd name >>= _) = _
  rw [hstep]
  rfl

/-- A path with a name that is too long leads to nothing, and the system says so instead.  Two paths that
lead to one directory find its files once each. -/
theorem filesAtAll_amiss :
    let long : Path := ⟨"", [String.ofList (List.replicate 256 'a')]⟩
    let twice : Disk :=
      { nodes := [(["a"], .directory), (["a", "x.tsx"], .file .empty), (["b"], .directory)] }
    let paths : List Path := [⟨"", ["a"]⟩, ⟨"", ["b", "..", "a"]⟩]
    (({} : Disk).Orderly ∧ (∀ node, ({} : Disk).node long ≠ .ok node) ∧
      ({} : Disk).filesAtAll componentSuffixes [long] = .error (Refusal.nameTooLong.fault long)) ∧
    twice.Orderly ∧ paths.Pairwise (fun p q => Apart p.parts q.parts) ∧
    (twice.filesAtAll componentSuffixes paths).toOption.map (·.map (·.place [])) =
      some [["a", "x.tsx"], ["a", "x.tsx"]] := by
  intro long twice paths
  have hempty : ({} : Disk).Orderly := ⟨tree_of_nodes rfl (by simp), by simp, by simp⟩
  have htwice : twice.Orderly :=
    ⟨tree_of_nodes rfl (by simp [twice, find?, List.lookup_cons]), by decide, by decide +kernel⟩
  have hlong : ({} : Disk).locate long = .error .nameTooLong := by
    refine locate_tooLong rfl ?_ ?_ (by decide +kernel) (by decide +kernel)
    · exact fun heq => absurd (congrArg String.utf8ByteSize heq) (by decide +kernel)
    · intro c hc
      rw [String.toList_ofList] at hc
      rw [List.eq_of_mem_replicate hc]
      decide
  refine ⟨⟨hempty, by simp [node_of_refused hlong], ?_⟩, htwice, by decide, by decide +kernel⟩
  rw [filesAtAll, List.mapM_cons, filesAt, look, node_of_refused hlong]
  rfl

end Disk
end SvgIcon
