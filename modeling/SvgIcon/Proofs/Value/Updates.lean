import SvgIcon.Proofs.Value.Keyed

/-!
Entries written one after another.  A key keeps the place at which it is first written and the value
that it is given last, so it does not matter which of the writes are made first.
-/

namespace SvgIcon
namespace Assoc

variable {α : Type} {entries pairs : Assoc α} {key : String} {value : α}

/-! ## Keys -/

theorem mem_keys_iff : key ∈ entries.keys ↔ ∃ v, (key, v) ∈ entries := by
  rw [keys, List.mem_map]
  constructor
  · rintro ⟨e, he, rfl⟩
    exact ⟨e.2, he⟩
  · intro h
    obtain ⟨v, hv⟩ := h
    exact ⟨(key, v), hv, rfl⟩

theorem lookup_eq_none_iff : List.lookup key entries = none ↔ key ∉ entries.keys := by
  rw [List.lookup_eq_none_iff, mem_keys_iff]
  constructor
  · intro h hkey
    obtain ⟨v, hv⟩ := hkey
    exact absurd (h (key, v) hv) (by simp)
  · intro h e he
    exact bne_iff_ne.2 fun heq => h ⟨e.2, heq ▸ he⟩

theorem lookup_of_mem (h : entries.keys.Nodup) (hmem : (key, value) ∈ entries) :
    List.lookup key entries = some value := by
  induction entries with
  | nil => exact absurd hmem List.not_mem_nil
  | cons e rest ih =>
    obtain ⟨hnew, hrest⟩ := List.nodup_cons.1 h
    rw [lookup_eq]
    rcases List.mem_cons.1 hmem with rfl | hmem
    · exact if_pos rfl
    · have hkey : key ∈ keys rest := mem_keys_iff.2 ⟨value, hmem⟩
      have hne : key ≠ e.1 := by
        rintro rfl
        exact hnew hkey
      rw [if_neg hne]
      exact ih hrest hmem

theorem lookup_eq_some_iff (h : entries.keys.Nodup) :
    List.lookup key entries = some value ↔ (key, value) ∈ entries :=
  ⟨lookup_mem, lookup_of_mem h⟩

theorem mem_keys_put {k : String} : k ∈ (put key value entries).keys ↔ k = key ∨ k ∈ entries.keys := by
  induction entries with
  | nil => simp [put, keys]
  | cons e rest ih =>
    rw [put]
    split
    · rename_i he
      rw [beq_iff_eq] at he
      simp [keys, he]
    · simp only [keys, List.map_cons, List.mem_cons] at ih ⊢
      rw [ih]
      exact or_left_comm

theorem nodup_put (h : entries.keys.Nodup) : (put key value entries).keys.Nodup := by
  induction entries with
  | nil => simp [put, keys]
  | cons e rest ih =>
    obtain ⟨hnew, hrest⟩ := List.nodup_cons.1 h
    rw [put]
    split
    · rename_i he
      rw [beq_iff_eq] at he
      exact List.nodup_cons.2 ⟨he ▸ hnew, hrest⟩
    · rename_i he
      rw [beq_iff_eq] at he
      refine List.nodup_cons.2 ⟨fun hmem => ?_, ih hrest⟩
      rcases mem_keys_put.1 hmem with heq | hmem
      · exact he heq
      · exact hnew hmem

theorem nodup_update (h : entries.keys.Nodup) : (update entries pairs).keys.Nodup := by
  induction pairs generalizing entries with
  | nil => exact h
  | cons e pairs ih => exact ih (nodup_put h)

theorem nodup_ofPairs : (ofPairs pairs).keys.Nodup := nodup_update List.nodup_nil

/-! ## The last word on a key -/

/-- The value that the key is given last. -/
def last? (key : String) (pairs : List (String × α)) : Option α := pairs.reverse.lookup key

theorem last?_append (key : String) (a b : List (String × α)) :
    last? key (a ++ b) = (last? key b).or (last? key a) := by
  rw [last?, List.reverse_append, List.lookup_append]
  rfl

theorem last?_cons (key : String) (e : String × α) (pairs : List (String × α)) :
    last? key (e :: pairs) = (last? key pairs).or (if key = e.1 then some e.2 else none) := by
  have hone : last? key [e] = if key = e.1 then some e.2 else none := lookup_eq e [] key
  rw [← hone, ← last?_append]
  rfl

theorem last?_eq_none_iff : last? key pairs = none ↔ key ∉ keys pairs := by
  rw [last?, lookup_eq_none_iff, keys, List.map_reverse, List.mem_reverse]
  rfl

theorem last?_of_nodup (h : pairs.keys.Nodup) : last? key pairs = pairs.lookup key := by
  have hreverse : (keys pairs.reverse).Nodup := by
    rw [keys, List.map_reverse]
    exact List.pairwise_reverse.2 (h.imp Ne.symm)
  apply Option.ext
  intro v
  rw [last?, lookup_eq_some_iff hreverse, List.mem_reverse, lookup_eq_some_iff h]

theorem last?_map {β : Type} (f : α → β) (key : String) (pairs : List (String × α)) :
    last? key (pairs.map fun (k, v) => (k, f v)) = (last? key pairs).map f := by
  induction pairs with
  | nil => rfl
  | cons e pairs ih =>
    rw [List.map_cons, last?_cons, last?_cons, ih]
    cases last? key pairs with
    | some v => rfl
    | none => by_cases h : key = e.1 <;> simp [h]

theorem last?_map_const (key : String) (names : List String) (value : α) :
    last? key (names.map (·, value)) = if key ∈ names then some value else none := by
  induction names with
  | nil => rfl
  | cons name names ih =>
    rw [List.map_cons, last?_cons, ih]
    by_cases hmem : key ∈ names
    · simp [hmem]
    · rw [if_neg hmem, Option.none_or]
      by_cases h : key = name <;> simp [hmem, h]

theorem lookup_update (entries pairs : Assoc α) (key : String) :
    (update entries pairs).lookup key = (last? key pairs).or (entries.lookup key) := by
  induction pairs generalizing entries with
  | nil => rfl
  | cons e pairs ih =>
    show (update (put e.1 e.2 entries) pairs).lookup key = _
    rw [ih, lookup_put, last?_cons, Option.or_assoc]
    split <;> rfl

theorem lookup_ofPairs (pairs : List (String × α)) (key : String) :
    (ofPairs pairs).lookup key = last? key pairs := by
  rw [ofPairs, lookup_update]
  exact Option.or_none

theorem last?_flatMap_eq_none_iff {β : Type} (f : β → List (String × α)) (items : List β) :
    last? key (items.flatMap f) = none ↔ ∀ item ∈ items, last? key (f item) = none := by
  simp only [last?_eq_none_iff, keys, List.map_flatMap, List.mem_flatMap, not_exists, not_and]

/-- Where each of several things gives some pairs, a key has its value from the last of them that
gives it one. -/
theorem last?_flatMap_eq_some_iff {β : Type} (f : β → List (String × α)) (items : List β) :
    last? key (items.flatMap f) = some value ↔ ∃ before item after,
      items = before ++ item :: after ∧ last? key (f item) = some value ∧
        ∀ later ∈ after, last? key (f later) = none := by
  induction items with
  | nil => simp [last?]
  | cons item items ih =>
    rw [List.flatMap_cons, last?_append, Option.or_eq_some_iff, ih, last?_flatMap_eq_none_iff]
    constructor
    · intro h
      rcases h with ⟨before, found, after, rfl, hfound, hafter⟩ | ⟨hafter, hitem⟩
      · exact ⟨item :: before, found, after, rfl, hfound, hafter⟩
      · exact ⟨[], item, items, rfl, hitem, hafter⟩
    · intro h
      obtain ⟨before, found, after, heq, hfound, hafter⟩ := h
      cases before with
      | nil =>
        obtain ⟨rfl, rfl⟩ := List.cons.inj heq
        exact Or.inr ⟨hafter, hfound⟩
      | cons first before =>
        obtain ⟨rfl, rfl⟩ := List.cons.inj heq
        exact Or.inl ⟨before, found, after, rfl, hfound, hafter⟩

/-! ## Writes over writes -/

theorem put_put_self (key : String) (value other : α) (entries : Assoc α) :
    put key value (put key other entries) = put key value entries := by
  induction entries with
  | nil => simp [put]
  | cons e rest ih =>
    by_cases he : e.1 = key
    · simp [put, he]
    · simp [put, he, ih]

/-- Two keys can be written in any order if one of them has its place already. -/
theorem put_comm {k : String} {v : α} (hne : k ≠ key) (hkey : key ∈ entries.keys) :
    put key value (put k v entries) = put k v (put key value entries) := by
  induction entries with
  | nil => exact absurd hkey List.not_mem_nil
  | cons e rest ih =>
    by_cases he : e.1 = key
    · simp [put, he, hne.symm]
    · have hrest : key ∈ keys rest := (List.mem_cons.1 hkey).resolve_left (Ne.symm he)
      by_cases hk : e.1 = k
      · simp [put, hk, hne]
      · simp [put, he, hk, ih hrest]

theorem put_update (hkey : key ∈ entries.keys) (hnew : key ∉ keys pairs) :
    put key value (update entries pairs) = update (put key value entries) pairs := by
  induction pairs generalizing entries with
  | nil => rfl
  | cons e pairs ih =>
    have hne : e.1 ≠ key := fun heq => hnew (heq ▸ List.mem_cons_self)
    have hrest : key ∉ keys pairs := fun hmem => hnew (List.mem_cons_of_mem _ hmem)
    show put key value (update (put e.1 e.2 entries) pairs) =
      update (put e.1 e.2 (put key value entries)) pairs
    rw [ih (mem_keys_put.2 (Or.inr hkey)) hrest, put_comm hne hkey]

theorem update_put (h : pairs.keys.Nodup) (entries : Assoc α) :
    update entries (put key value pairs) = put key value (update entries pairs) := by
  induction pairs generalizing entries with
  | nil => rfl
  | cons e pairs ih =>
    obtain ⟨hnew, hrest⟩ := List.nodup_cons.1 h
    by_cases he : e.1 = key
    · obtain rfl := he
      have hput : put e.1 value (e :: pairs) = (e.1, value) :: pairs := by simp [put]
      have hplace : e.1 ∈ keys (put e.1 e.2 entries) := mem_keys_put.2 (Or.inl rfl)
      calc update entries (put e.1 value (e :: pairs))
          = update (put e.1 value entries) pairs := by rw [hput]; rfl
        _ = update (put e.1 value (put e.1 e.2 entries)) pairs := by rw [put_put_self]
        _ = put e.1 value (update (put e.1 e.2 entries) pairs) := (put_update hplace hnew).symm
    · have hput : put key value (e :: pairs) = e :: put key value pairs := by simp [put, he]
      rw [hput]
      exact ih hrest (put e.1 e.2 entries)

/-- Writing is associative: what is written over something can be put together first. -/
theorem update_update (h : pairs.keys.Nodup) (entries newer : Assoc α) :
    update entries (update pairs newer) = update (update entries pairs) newer := by
  induction newer generalizing pairs with
  | nil => rfl
  | cons e newer ih =>
    show update entries (update (put e.1 e.2 pairs) newer) =
      update (put e.1 e.2 (update entries pairs)) newer
    rw [ih (nodup_put h), update_put h]

theorem ofPairs_append (a b : List (String × α)) :
    ofPairs (a ++ b) = update (ofPairs a) (ofPairs b) := by
  have hnil : (keys ([] : Assoc α)).Nodup := List.nodup_nil
  rw [ofPairs, update_append, ofPairs, ofPairs, update_update hnil]
  rfl

end Assoc
end SvgIcon
