import Mathlib.Data.List.Basic
import SvgIcon.Proofs.Markup.Pairing

/-!
Markup read as a tree, tag by tag, with the elements that are open on a stack.  What is read in a
branch is the same after its empty elements are closed in place; but a tag that is taken for the
start of its parent's end tag leaves one end tag too few, and then nothing is read.
-/

namespace SvgIcon
namespace Markup

open Text

/-! ## The reader -/

/-- What markup says: texts, and elements with their attributes and contents. -/
inductive Content
  | text (s : List Char)
  | element (name attributes : List Char) (contents : List Content)

/-- A tag that is read, with the text in front of it. -/
structure Token where
  before : List Char
  kind : Kind
  name : List Char
  attributes : List Char

/-- A tag without its brackets, taken apart: an end tag starts with a slash, and a tag that closes
its element ends with one. -/
def readTag (before inside : List Char) : Token :=
  if inside.head? = some '/' then ⟨before, .closing, trim (inside.drop 1), []⟩
  else if inside.getLast? = some '/' then
    ⟨before, .closed, inside.dropLast.takeWhile isWord, trim (inside.dropLast.dropWhile isWord)⟩
  else ⟨before, .opening, inside.takeWhile isWord, trim (inside.dropWhile isWord)⟩

/-- The tag that ends a piece of markup, and nothing if there is none or it has no name. -/
def readToken? (piece : List Char) : Option Token :=
  match piece.dropWhile (· ≠ '<') with
  | [] => none
  | _ :: inside =>
    let token := readTag (piece.takeWhile (· ≠ '<')) inside
    if inside.contains '<' || token.name.isEmpty then none else some token

/-- How far a reader has come: what it has read of the innermost element that is open, and the open
elements around that, each with what stands before it. -/
structure Progress where
  here : List Content
  above : List (List Char × List Char × List Content)

def textContent (s : List Char) : List Content := if s.isEmpty then [] else [.text s]

namespace Progress

def put (p : Progress) (t : Token) : Option Progress :=
  let here := p.here ++ textContent t.before
  match t.kind with
  | .opening => some ⟨[], (t.name, t.attributes, here) :: p.above⟩
  | .closed => some ⟨here ++ [.element t.name t.attributes []], p.above⟩
  | .closing =>
    match p.above with
    | (name, attributes, outer) :: above =>
      if name = t.name then some ⟨outer ++ [.element name attributes here], above⟩ else none
    | [] => none

/-- The rest of markup that is cut at each `>`. -/
def read (p : Progress) : List (List Char) → Option (List Content)
  | [] => none
  | [last] =>
    if p.above.isEmpty && !last.contains '<' then some (p.here ++ textContent last) else none
  | piece :: others => do
    let token ← readToken? piece
    let next ← p.put token
    next.read others

end Progress

/-- What markup says, if its tags nest. -/
def readMarkup (s : List Char) : Option (List Content) :=
  (Progress.mk [] []).read (pieces '>' s)

/-! ## Reading passages -/

namespace Passage

variable {u : Passage Assigned}

/-- The passage as it is read. -/
def token (u : Passage Assigned) : Token := readTag u.before (u.inside Assigned.text)

/-- The tag is told apart from what stands around it, and is read as one of its kind. -/
structure Readable (u : Passage Assigned) : Prop where
  before : Lacks ['<', '>'] u.before
  inside : Lacks ['<', '>'] (u.inside Assigned.text)
  kind : u.token.kind = u.kind
  named : u.token.name ≠ []

theorem Readable.readToken? (h : u.Readable) :
    readToken? (u.before ++ '<' :: u.inside Assigned.text) = some u.token := by
  have hbefore : '<' ∉ u.before := h.before '<' (by decide)
  have hinside : (u.inside Assigned.text).contains '<' = false := by
    simpa using h.inside '<' (by decide)
  have hname : (readTag u.before (u.inside Assigned.text)).name.isEmpty = false := by
    simpa [token] using h.named
  rw [Markup.readToken?, dropWhile_ne hbefore, takeWhile_ne hbefore]
  simp only [hinside, hname, Bool.or_self, Bool.false_eq_true, if_false]
  rfl

/-- One passage is read, then the others. -/
theorem Readable.read (h : u.Readable) (p : Progress) (us : List (Passage Assigned)) :
    p.read (pieces '>' (written Assigned.text (u :: us))) =
      (p.put u.token).bind fun q => q.read (pieces '>' (written Assigned.text us)) := by
  have hpiece : '>' ∉ u.before ++ '<' :: u.inside Assigned.text := by
    simpa using ⟨h.before '>' (by decide), h.inside '>' (by decide)⟩
  have htext : written Assigned.text (u :: us) =
      u.before ++ '<' :: u.inside Assigned.text ++ '>' :: written Assigned.text us := by
    simp [written, text]
  obtain ⟨piece, others, hothers⟩ :=
    List.exists_cons_of_ne_nil (pieces_ne_nil '>' (written Assigned.text us))
  rw [htext, pieces_append hpiece, hothers, Progress.read, h.readToken?]
  · rfl
  · simp

/-! ## Tags of every kind -/

theorem readTag_closing (before s : List Char) :
    readTag before ('/' :: s) = ⟨before, .closing, trim s, []⟩ := rfl

theorem readTag_closed {before s : List Char} (hs : s.head? ≠ some '/') (hne : s ≠ []) :
    readTag before (s ++ ['/']) =
      ⟨before, .closed, s.takeWhile isWord, trim (s.dropWhile isWord)⟩ := by
  have hhead : (s ++ ['/']).head? ≠ some '/' := by rwa [List.head?_append_of_ne_nil s hne]
  rw [readTag, if_neg hhead, if_pos (by simp), List.dropLast_concat]

theorem readTag_opening {before s : List Char} (hs : s.head? ≠ some '/')
    (hend : s.getLast? ≠ some '/') :
    readTag before s = ⟨before, .opening, s.takeWhile isWord, trim (s.dropWhile isWord)⟩ := by
  rw [readTag, if_neg hs, if_neg hend]

theorem WellFormed.head?_name (h : u.WellFormed) (s : List Char) :
    (u.name ++ s).head? ≠ some '/' := by
  obtain ⟨c, n, hname⟩ := List.exists_cons_of_ne_nil h.named
  have hword : isWord c = true := h.name c (by simp [hname])
  rw [hname]
  rintro heq
  obtain rfl : c = '/' := Option.some.inj heq
  exact absurd hword (by decide)

/-- Neither a name nor an attribute nor a blank ends a tag with a slash. -/
theorem WellFormed.getLast?_name (h : u.WellFormed) :
    (u.name ++ (u.attributes.flatMap Assigned.text ++ u.gap)).getLast? ≠ some '/' := by
  have hname : u.name.getLast? ≠ some '/' := fun heq =>
    h.notMem_name (by decide) (List.mem_of_getLast? heq)
  have hgap : u.gap.getLast? ≠ some '/' := fun heq =>
    h.gap.notMem (by decide) (List.mem_of_getLast? heq)
  have hattributes : (u.attributes.flatMap Assigned.text).getLast? ≠ some '/' := by
    rcases List.eq_nil_or_concat u.attributes with hnil | ⟨as, a, hconcat⟩
    · simp [hnil]
    · have htext : a.text = a.gap ++ (a.name ++ (a.beforeEquals ++
          '=' :: (a.behindEquals ++ '"' :: a.value))) ++ ['"'] := by simp [Assigned.text]
      have hflat : u.attributes.flatMap Assigned.text = as.flatMap Assigned.text ++ a.text := by
        simp [hconcat]
      rw [hflat, htext, ← List.append_assoc, List.getLast?_concat]
      simp
  rw [List.getLast?_append, List.getLast?_append]
  cases hg : u.gap.getLast? with
  | some c => simpa [hg] using hgap
  | none =>
    cases ha : (u.attributes.flatMap Assigned.text).getLast? with
    | some c => simpa [ha] using hattributes
    | none => simpa using hname

/-- What is read behind a name, up to the end of the tag. -/
theorem WellFormed.readBody (h : u.WellFormed) {g : List Char} (hg : Blank g)
    (hgap : ∀ c ∈ g.head?, isWord c = false) :
    (u.name ++ (u.attributes.flatMap Assigned.text ++ (u.gap ++ g))).takeWhile isWord = u.name ∧
      trim ((u.name ++ (u.attributes.flatMap Assigned.text ++ (u.gap ++ g))).dropWhile isWord) =
        trim (u.attributes.flatMap Assigned.text) := by
  have hbehind := h.isWord_behind hgap
  have hblank : ∀ c ∈ u.gap ++ g, isBlank c = true := by
    intro c hc
    rcases List.mem_append.1 hc with hc | hc
    · exact h.gap c hc
    · exact hg c hc
  rw [takeWhile_append_of_head h.name hbehind, dropWhile_append_of_head h.name hbehind,
    trim_append_blank hblank]
  exact ⟨rfl, rfl⟩

theorem WellFormed.trim_name (h : u.WellFormed) : trim u.name = u.name := by
  have hsolid : ∀ c ∈ u.name, isBlank c = false := fun c hc =>
    isBlank_eq_false_of_isWord (h.name c hc)
  obtain ⟨c, n, hname⟩ := List.exists_cons_of_ne_nil h.named
  obtain ⟨m, d, hconcat⟩ := List.eq_nil_or_concat u.name |>.resolve_left h.named
  rw [List.concat_eq_append] at hconcat
  exact trim_eq_self hname hconcat (hsolid c (by simp [hname])) (hsolid d (by simp [hconcat]))

/-- A passage is read as what it is. -/
theorem WellFormed.token_eq (h : u.WellFormed) :
    u.token = ⟨u.before, u.kind, u.name, trim (u.attributes.flatMap Assigned.text)⟩ := by
  have hbody := h.readBody (g := []) (by simp [Blank]) (by simp)
  rw [List.append_nil] at hbody
  rw [token, inside]
  cases hkind : u.kind with
  | closing =>
    have htext : Kind.closing.front ++ (u.name ++ (u.attributes.flatMap Assigned.text ++
        (u.gap ++ Kind.closing.back))) = '/' :: (u.name ++ u.gap) := by
      simp [Kind.front, Kind.back, h.bare hkind]
    rw [htext, readTag_closing, trim_append_blank h.gap, h.trim_name, h.bare hkind]
    rfl
  | closed =>
    have htext : Kind.closed.front ++ (u.name ++ (u.attributes.flatMap Assigned.text ++
        (u.gap ++ Kind.closed.back))) =
          u.name ++ (u.attributes.flatMap Assigned.text ++ u.gap) ++ ['/'] := by
      simp [Kind.front, Kind.back]
    rw [htext, readTag_closed (h.head?_name _) (by simp [h.named]), hbody.1, hbody.2]
  | opening =>
    have htext : Kind.opening.front ++ (u.name ++ (u.attributes.flatMap Assigned.text ++
        (u.gap ++ Kind.opening.back))) =
          u.name ++ (u.attributes.flatMap Assigned.text ++ u.gap) := by
      simp [Kind.front, Kind.back]
    rw [htext, readTag_opening (h.head?_name _) h.getLast?_name, hbody.1, hbody.2]

theorem WellFormed.readable (h : u.WellFormed) : u.Readable where
  before := h.before
  inside c hc := h.notMem_inside hc
  kind := by rw [h.token_eq]
  named := by
    rw [h.token_eq]
    exact h.named

/-- A tag that stands for a pair is read as one that closes its element, slashes inside or not. -/
theorem WellFormed.readable_shut (h : u.WellFormed) (hkind : u.kind ≠ .closing) :
    u.shut.Readable := by
  have htext : u.shut.inside Assigned.text = u.inside Assigned.text ++ [' ', '/'] := by
    simp [inside, shut, Kind.front, Kind.back]
  have hbody : u.shut.inside Assigned.text =
      u.name ++ (u.attributes.flatMap Assigned.text ++ (u.gap ++ (u.kind.back ++ [' ']))) ++
        ['/'] := by
    simp [inside, shut, Kind.front, Kind.back]
  have htoken : u.shut.token.kind = .closed ∧ u.shut.token.name ≠ [] := by
    obtain ⟨c, n, hname⟩ := List.exists_cons_of_ne_nil h.named
    have hword : isWord c = true := h.name c (by simp [hname])
    rw [token, hbody, readTag_closed (h.head?_name _) (by simp [h.named]), hname]
    exact ⟨rfl, by simp [hword]⟩
  refine ⟨h.before, fun c hc => ?_, htoken.1, htoken.2⟩
  have hinside := h.notMem_inside hc
  rw [htext]
  simp only [List.mem_cons, List.not_mem_nil, or_false] at hc
  rcases hc with rfl | rfl <;> simpa using hinside

theorem readable_merge {us : List (Passage Assigned)} (h : ∀ u ∈ us, u.WellFormed) :
    ∀ u ∈ merge us, u.Readable := by
  induction us using merge.induct with
  | case1 => exact fun u hu => absurd hu List.not_mem_nil
  | case2 u => exact fun v hv => (h v hv).readable
  | case3 u v us hpairs ih =>
    rw [merge_of_pairs hpairs]
    intro w hw
    rcases List.mem_cons.1 hw with rfl | hw
    · exact (h u List.mem_cons_self).readable_shut hpairs.1
    · exact ih (fun x hx => h x (by simp [hx])) w hw
  | case4 u v us hpairs ih =>
    rw [merge_of_not_pairs (by simpa using hpairs)]
    intro w hw
    rcases List.mem_cons.1 hw with rfl | hw
    · exact (h w List.mem_cons_self).readable
    · exact ih (fun x hx => h x (List.mem_cons_of_mem u hx)) w hw

/-! ## Depth -/

end Passage

/-- By how much a tag changes how many elements are open. -/
def Kind.weight : Kind → Int
  | .opening => 1
  | .closing => -1
  | .closed => 0

theorem Progress.length_of_put {p q : Progress} {t : Token} (h : p.put t = some q) :
    (q.above.length : Int) = p.above.length + t.kind.weight := by
  unfold put at h
  cases hkind : t.kind with
  | opening =>
    rw [hkind] at h
    obtain rfl := Option.some.inj h
    simp [Kind.weight]
  | closed =>
    rw [hkind] at h
    obtain rfl := Option.some.inj h
    simp [Kind.weight]
  | closing =>
    rw [hkind] at h
    cases habove : p.above with
    | nil =>
      rw [habove] at h
      exact absurd h (by simp)
    | cons e above =>
      obtain ⟨name, attributes, outer⟩ := e
      rw [habove] at h
      simp only at h
      split at h
      · obtain rfl := Option.some.inj h
        simp only [List.length_cons, Kind.weight]
        omega
      · exact absurd h (by simp)

namespace Passage

/-- How many more elements are opened than ended. -/
def depth : List (Passage Assigned) → Int
  | [] => 0
  | u :: us => u.kind.weight + depth us

theorem depth_cons (u : Passage Assigned) (us : List (Passage Assigned)) :
    depth (u :: us) = u.kind.weight + depth us := rfl

theorem depth_append (us vs : List (Passage Assigned)) :
    depth (us ++ vs) = depth us + depth vs := by
  induction us with
  | nil => exact (Int.zero_add _).symm
  | cons u us ih => rw [List.cons_append, depth_cons, depth_cons, ih, Int.add_assoc]

/-- What can be read to its end ends every element that is open. -/
theorem depth_of_read {us : List (Passage Assigned)} (h : ∀ u ∈ us, u.Readable) {p : Progress}
    {cs : List Content} (hread : p.read (pieces '>' (written Assigned.text us)) = some cs) :
    p.above.length + depth us = 0 := by
  induction us generalizing p with
  | nil =>
    have habove : p.above.isEmpty = true := by
      by_contra hopen
      exact absurd hread (by simp [written, pieces, Progress.read, hopen])
    simp [depth, List.isEmpty_iff.1 habove]
  | cons u us ih =>
    have hu := h u List.mem_cons_self
    rw [hu.read] at hread
    obtain ⟨q, hput, hrest⟩ := Option.bind_eq_some_iff.1 hread
    have hdepth := ih (fun v hv => h v (List.mem_cons_of_mem u hv)) hrest
    rw [Progress.length_of_put hput, hu.kind] at hdepth
    rw [depth_cons]
    omega

theorem weight_shut (u : Passage Assigned) : u.shut.kind.weight = 0 := rfl

theorem weight_of_pairs {u v : Passage Assigned} (h : Pairs u v) :
    u.kind.weight + v.kind.weight ≤ u.shut.kind.weight := by
  obtain ⟨hkind, hclosing, _⟩ := h
  rw [hclosing, weight_shut]
  cases hu : u.kind with
  | closing => exact absurd hu hkind
  | opening => decide
  | closed => decide

theorem depth_le_merge (us : List (Passage Assigned)) : depth us ≤ depth (merge us) := by
  induction us using merge.induct with
  | case1 => exact Int.le_refl _
  | case2 u => exact Int.le_refl _
  | case3 u v us hpairs ih =>
    have hweight := weight_of_pairs hpairs
    rw [merge_of_pairs hpairs, depth_cons, depth_cons, depth_cons]
    omega
  | case4 u v us hpairs ih =>
    rw [merge_of_not_pairs (by simpa using hpairs), depth_cons u, depth_cons u]
    omega

/-- A tag that closes its element and is merged with an end tag leaves one end tag too few. -/
theorem depth_lt_merge {us : List (Passage Assigned)} {u v : Passage Assigned}
    (hclosed : u.kind = .closed) (hpairs : Pairs u v) {a b : List (Passage Assigned)}
    (h : us = a ++ u :: v :: b) : depth us < depth (merge us) := by
  induction us using merge.induct generalizing a with
  | case1 => exact absurd h (by simp)
  | case2 w =>
    have hlength := congrArg List.length h
    simp at hlength
    omega
  | case3 w x us hhere ih =>
    have hweight := weight_of_pairs hhere
    rw [merge_of_pairs hhere, depth_cons w, depth_cons x, depth_cons]
    cases a with
    | nil =>
      obtain ⟨rfl, hrest⟩ := List.cons.inj h
      obtain ⟨rfl, rfl⟩ := List.cons.inj hrest
      have hle := depth_le_merge us
      have hstrict : w.kind.weight + x.kind.weight < w.shut.kind.weight := by
        rw [hclosed, hpairs.2.1, weight_shut]
        decide
      omega
    | cons y a =>
      obtain ⟨_, hrest⟩ := List.cons.inj h
      cases a with
      | nil =>
        obtain ⟨rfl, _⟩ := List.cons.inj hrest
        exact absurd hhere.2.1 hpairs.1
      | cons z a =>
        have hlt := ih (List.cons.inj hrest).2
        omega
  | case4 w x us hhere ih =>
    rw [merge_of_not_pairs (by simpa using hhere), depth_cons w, depth_cons w]
    cases a with
    | nil =>
      obtain ⟨rfl, hrest⟩ := List.cons.inj h
      obtain ⟨rfl, rfl⟩ := List.cons.inj hrest
      exact absurd hpairs hhere
    | cons y a =>
      have hlt := ih (List.cons.inj h).2
      omega

end Passage

/-! ## Reading trees -/

namespace Branch

mutual
/-- What a branch says. -/
def contents : Branch Assigned → List Content
  | closed before n as _ =>
    textContent before ++ [.element n (trim (as.flatMap Assigned.text)) []]
  | element before n as _ children last _ =>
    textContent before ++ [.element n (trim (as.flatMap Assigned.text))
      (contentsOf children ++ textContent last)]

def contentsOf : List (Branch Assigned) → List Content
  | [] => []
  | t :: ts => contents t ++ contentsOf ts
end

/-- Every tag of the tree is one. -/
def WellFormed (t : Branch Assigned) : Prop := ∀ u ∈ t.passages, u.WellFormed

instance (t : Branch Assigned) : Decidable t.WellFormed :=
  inferInstanceAs (Decidable (∀ u ∈ t.passages, u.WellFormed))

mutual
theorem read_passages (t : Branch Assigned) (h : ∀ u ∈ t.passages, u.WellFormed) (p : Progress)
    (us : List (Passage Assigned)) :
    p.read (pieces '>' (Passage.written Assigned.text (t.passages ++ us))) =
      Progress.read ⟨p.here ++ t.contents, p.above⟩
        (pieces '>' (Passage.written Assigned.text us)) := by
  cases t with
  | closed before n as gap =>
    have hself := h _ List.mem_cons_self
    rw [passages, List.singleton_append, hself.readable.read, hself.token_eq]
    simp [Progress.put, contents]
  | element before n as gap children last endGap =>
    have hself := h _ List.mem_cons_self
    have hend := h ⟨last, .closing, n, [], endGap⟩ (by simp [passages])
    have hbelow := read_passagesOf children fun u hu => h u (by simp [passages, hu])
    rw [passages, List.cons_append, List.append_assoc, hself.readable.read, hself.token_eq]
    simp only [Progress.put, Option.bind_some]
    rw [hbelow, List.singleton_append, hend.readable.read, hend.token_eq]
    simp [Progress.put, contents]

theorem read_passagesOf (ts : List (Branch Assigned)) (h : ∀ u ∈ passagesOf ts, u.WellFormed)
    (p : Progress) (us : List (Passage Assigned)) :
    p.read (pieces '>' (Passage.written Assigned.text (passagesOf ts ++ us))) =
      Progress.read ⟨p.here ++ contentsOf ts, p.above⟩
        (pieces '>' (Passage.written Assigned.text us)) := by
  cases ts with
  | nil => simp [passagesOf, contentsOf]
  | cons t ts =>
    have ht := read_passages t fun u hu => h u (by simp [passagesOf, hu])
    have hts := read_passagesOf ts fun u hu => h u (by simp [passagesOf, hu])
    rw [passagesOf, List.append_assoc, ht, hts, contentsOf, List.append_assoc]
end

theorem WellFormed.readMarkup {t : Branch Assigned} (h : t.WellFormed) :
    readMarkup (t.text Assigned.text) = some t.contents := by
  have hread := read_passages t h ⟨[], []⟩ []
  rw [List.append_nil] at hread
  rw [Markup.readMarkup, text, hread]
  simp [Passage.written, pieces, Progress.read, textContent]

mutual
theorem wellFormed_closePairs (t : Branch Assigned) (h : ∀ u ∈ t.passages, u.WellFormed) :
    ∀ u ∈ t.closePairs.passages, u.WellFormed := by
  cases t with
  | closed before n as gap => exact h
  | element before n as gap children last endGap =>
    have hself := h _ List.mem_cons_self
    have hbelow := wellFormed_closePairsIn children fun u hu => h u (by simp [passages, hu])
    rw [closePairs]
    split
    · intro u hu
      obtain rfl := List.mem_singleton.1 hu
      refine ⟨hself.before, hself.named, hself.name, hself.attributes, ?_, by simp⟩
      intro c hc
      rcases List.mem_append.1 hc with hc | hc
      · exact hself.gap c hc
      · obtain rfl := List.mem_singleton.1 hc
        decide
    · intro u hu
      rw [passages] at hu
      rcases List.mem_cons.1 hu with rfl | hu
      · exact hself
      · rcases List.mem_append.1 hu with hu | hu
        · exact hbelow u hu
        · exact h u (by rw [passages]; simp [List.mem_singleton.1 hu])

theorem wellFormed_closePairsIn (ts : List (Branch Assigned))
    (h : ∀ u ∈ passagesOf ts, u.WellFormed) :
    ∀ u ∈ passagesOf (closePairsIn ts), u.WellFormed := by
  cases ts with
  | nil => exact h
  | cons t ts =>
    have ht := wellFormed_closePairs t fun u hu => h u (by simp [passagesOf, hu])
    have hts := wellFormed_closePairsIn ts fun u hu => h u (by simp [passagesOf, hu])
    intro u hu
    rw [closePairsIn, passagesOf] at hu
    rcases List.mem_append.1 hu with hu | hu
    · exact ht u hu
    · exact hts u hu
end

mutual
/-- A pair with nothing between its tags says what the one tag says. -/
theorem contents_closePairs (t : Branch Assigned) : t.closePairs.contents = t.contents := by
  cases t with
  | closed before n as gap => rfl
  | element before n as gap children last endGap =>
    rw [closePairs]
    split
    · rename_i hempty
      simp only [Bool.and_eq_true, List.isEmpty_iff] at hempty
      obtain ⟨⟨rfl, rfl⟩, rfl⟩ := hempty
      rfl
    · rw [contents, contents, contentsOf_closePairsIn children]

theorem contentsOf_closePairsIn (ts : List (Branch Assigned)) :
    contentsOf (closePairsIn ts) = contentsOf ts := by
  cases ts with
  | nil => rfl
  | cons t ts =>
    rw [closePairsIn, contentsOf, contentsOf, contents_closePairs t, contentsOf_closePairsIn ts]
end

mutual
theorem depth_passages (t : Branch Assigned) : Passage.depth t.passages = 0 := by
  cases t with
  | closed before n as gap => rfl
  | element before n as gap children last endGap =>
    rw [passages, Passage.depth_cons, Passage.depth_append, depth_passagesOf children]
    rfl

theorem depth_passagesOf (ts : List (Branch Assigned)) : Passage.depth (passagesOf ts) = 0 := by
  cases ts with
  | nil => rfl
  | cons t ts =>
    rw [passagesOf, Passage.depth_append, depth_passages t, depth_passagesOf ts]
    rfl
end

/-! ## Where a pair is not one -/

theorem exists_passagesOf_concat {ts : List (Branch Assigned)} {d : Branch Assigned}
    (h : ts.getLast? = some d) (hd : d.isClosed = true) :
    ∃ a u, passagesOf ts = a ++ [u] ∧ u.kind = .closed ∧ u.name = d.name := by
  induction ts with
  | nil => exact absurd h (by simp)
  | cons t ts ih =>
    cases ts with
    | nil =>
      obtain rfl : t = d := by simpa using h
      cases t with
      | closed before n as gap =>
        exact ⟨[], ⟨before, .closed, n, as, gap⟩, by simp [passagesOf, passages], rfl, rfl⟩
      | element before n as gap children last endGap => exact absurd hd (by simp [isClosed])
    | cons e es =>
      rw [List.getLast?_cons_cons] at h
      obtain ⟨a, u, hcons, hkind, hname⟩ := ih h
      exact ⟨t.passages ++ a, u, by rw [passagesOf, hcons, List.append_assoc], hkind, hname⟩

mutual
/-- A tree whose ends are not apart has an end tag that is taken for the end of a pair. -/
theorem exists_pairs_passages (t : Branch Assigned) (h : ¬ t.EndsApart) :
    ∃ a u v b, t.passages = a ++ u :: v :: b ∧ u.kind = .closed ∧ Passage.Pairs u v := by
  cases t with
  | closed before n as gap => exact absurd trivial h
  | element before n as gap children last endGap =>
    by_cases hchildren : EndsApartIn children
    · rw [EndsApart, not_and] at h
      have hlast := h hchildren
      simp only [Classical.not_imp, not_forall, not_not] at hlast
      obtain ⟨rfl, rfl, d, hd, hclosed, hpre⟩ := hlast
      obtain ⟨a, u, hcons, hkind, hname⟩ := exists_passagesOf_concat hd hclosed
      refine ⟨⟨before, .opening, n, as, gap⟩ :: a, u, ⟨[], .closing, n, [], []⟩, [], ?_, hkind, ?_⟩
      · rw [passages, hcons]
        simp
      · exact ⟨by simp [hkind], rfl, rfl, rfl, by rwa [hname]⟩
    · obtain ⟨a, u, v, b, hcons, hkind, hpairs⟩ := exists_pairs_passagesOf children hchildren
      refine ⟨⟨before, .opening, n, as, gap⟩ :: a, u, v, b ++ [⟨last, .closing, n, [], endGap⟩],
        ?_, hkind, hpairs⟩
      rw [passages, hcons]
      simp

theorem exists_pairs_passagesOf (ts : List (Branch Assigned)) (h : ¬ EndsApartIn ts) :
    ∃ a u v b, passagesOf ts = a ++ u :: v :: b ∧ u.kind = .closed ∧ Passage.Pairs u v := by
  cases ts with
  | nil => exact absurd trivial h
  | cons t ts =>
    by_cases ht : t.EndsApart
    · obtain ⟨a, u, v, b, hcons, hrest⟩ := exists_pairs_passagesOf ts fun hts => h ⟨ht, hts⟩
      exact ⟨t.passages ++ a, u, v, b, by rw [passagesOf, hcons, List.append_assoc], hrest⟩
    · obtain ⟨a, u, v, b, hcons, hrest⟩ := exists_pairs_passages t ht
      exact ⟨a, u, v, b ++ passagesOf ts, by rw [passagesOf, hcons]; simp, hrest⟩
end

/-- On every tree whose ends are apart, closing empty elements in place turns each pair of tags with
nothing between them into one tag and changes nothing else, so the markup says what it said.  On
every other tree an end tag is lost, and the markup says nothing any more. -/
theorem selfCloseEmpty_branch (t : Branch Assigned) (h : t.WellFormed) :
    Markup.readMarkup (t.text Assigned.text) = some t.contents ∧
    (t.EndsApart →
      selfCloseEmpty (t.text Assigned.text) = t.closePairs.text Assigned.text ∧
      Markup.readMarkup (selfCloseEmpty (t.text Assigned.text)) = some t.contents) ∧
    (¬ t.EndsApart → Markup.readMarkup (selfCloseEmpty (t.text Assigned.text)) = none) := by
  have hmerge : selfCloseEmpty (t.text Assigned.text) =
      Passage.written Assigned.text (Passage.merge t.passages) :=
    Passage.selfCloseEmpty_written t.passages h
  refine ⟨h.readMarkup, fun hapart => ?_, fun hapart => ?_⟩
  · have hpassages : Passage.merge t.passages = t.closePairs.passages := by
      have hall := merge_passages t hapart [] (by simp [Clear])
      simpa [Passage.merge] using hall
    have hclose : t.closePairs.WellFormed := wellFormed_closePairs t h
    rw [hmerge, hpassages, ← contents_closePairs t]
    exact ⟨rfl, hclose.readMarkup⟩
  · obtain ⟨a, u, v, b, hcons, hkind, hpairs⟩ := exists_pairs_passages t hapart
    have hlt := Passage.depth_lt_merge hkind hpairs hcons
    rw [depth_passages] at hlt
    rw [hmerge, Option.eq_none_iff_forall_ne_some]
    intro cs hread
    have hdepth := Passage.depth_of_read (Passage.readable_merge h) hread
    simp only [List.length_nil] at hdepth
    omega

/-- A tree with a text, blanks in its tags, pairs with and without a blank between them, and a tag
in front of an end tag that is named otherwise. -/
def mixed : Branch Assigned :=
  element "\n".toList "svg".toList [⟨" ".toList, "a-b".toList, [], " ".toList, "c/d='e'".toList⟩] []
    [element [] "g".toList [] [' '] [] [] [], element "x = 1".toList "g1".toList [] [] [] [] [' '],
      closed [] "gg".toList [⟨"\t".toList, "id".toList, [], [], []⟩] []] [] []

theorem selfCloseEmpty_branch_mixed :
    mixed.WellFormed ∧ mixed.EndsApart ∧
      mixed.text Assigned.text =
        "\n<svg a-b= \"c/d='e'\"><g ></g>x = 1<g1></g1 ><gg\tid=\"\"/></svg>".toList ∧
      selfCloseEmpty (mixed.text Assigned.text) =
        "\n<svg a-b= \"c/d='e'\"><g  />x = 1<g1></g1 ><gg\tid=\"\"/></svg>".toList ∧
      Markup.readMarkup (selfCloseEmpty (mixed.text Assigned.text)) = some mixed.contents := by
  have hwell : mixed.WellFormed := by decide
  have hapart : mixed.EndsApart := by simp [mixed, EndsApart, EndsApartIn, isClosed, name]
  have hresult := (selfCloseEmpty_branch mixed hwell).2.1 hapart
  refine ⟨hwell, hapart, by decide, ?_, hresult.2⟩
  rw [hresult.1]
  decide

variable {α : Type}

mutual
/-- The names of an element and of all below it. -/
def names : Branch α → List (List Char)
  | closed _ n _ _ => [n]
  | element _ n _ _ children _ _ => n :: namesIn children

def namesIn : List (Branch α) → List (List Char)
  | [] => []
  | t :: ts => names t ++ namesIn ts
end

mutual
/-- No element of the tree has one of its own name below it. -/
def Unrepeated : Branch α → Prop
  | closed _ _ _ _ => True
  | element _ n _ _ children _ _ => n ∉ namesIn children ∧ UnrepeatedIn children

def UnrepeatedIn : List (Branch α) → Prop
  | [] => True
  | t :: ts => Unrepeated t ∧ UnrepeatedIn ts
end

/-- An end tag is lost behind a tag that only starts with its name: `<g><gg/></g>` becomes
`<g><gg/ />`. -/
theorem selfCloseEmpty_branch_frontPart :
    ∃ t : Branch Assigned, t.WellFormed ∧ t.Unrepeated ∧
      t.text Assigned.text = "<g><gg/></g>".toList ∧
      selfCloseEmpty (t.text Assigned.text) = "<g><gg/ />".toList ∧
      Markup.readMarkup (t.text Assigned.text) = some t.contents ∧
      Markup.readMarkup (selfCloseEmpty (t.text Assigned.text)) = none := by
  let t : Branch Assigned := element [] ['g'] [] [] [closed [] ['g', 'g'] [] []] [] []
  have hwell : t.WellFormed := by decide
  have hread : Markup.readMarkup (t.text Assigned.text) = some t.contents := hwell.readMarkup
  have hclosed : selfCloseEmpty (t.text Assigned.text) = "<g><gg/ />".toList := by decide
  have hnames : t.Unrepeated := by simp [t, Unrepeated, UnrepeatedIn, namesIn, names]
  refine ⟨t, hwell, hnames, by decide, hclosed, hread, ?_⟩
  rw [hclosed]
  rfl

end Branch

end Markup
end SvgIcon
