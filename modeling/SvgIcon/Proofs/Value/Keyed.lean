import SvgIcon.Value.Basic

/-!
Values in which no object has a key twice.  Every object that is put together entry by entry is one
of them, since a key that is written again only changes its value.
-/

namespace SvgIcon

/-! ## Entries -/

namespace Assoc

variable {α : Type} {entries pairs : Assoc α} {key : String} {value : α}

theorem put_of_notMem (h : key ∉ entries.keys) : put key value entries = entries ++ [(key, value)] := by
  induction entries with
  | nil => rfl
  | cons e rest ih =>
    have hne : e.1 ≠ key := fun heq => h (heq ▸ List.mem_cons_self)
    have hrest : key ∉ keys rest := fun hmem => h (List.mem_cons_of_mem _ hmem)
    rw [put, if_neg (by simpa using hne), ih hrest]
    rfl

theorem update_of_nodup (h : (entries ++ pairs).keys.Nodup) :
    update entries pairs = entries ++ pairs := by
  induction pairs generalizing entries with
  | nil => exact (List.append_nil entries).symm
  | cons e pairs ih =>
    have hnew : e.1 ∉ entries.keys := by
      intro hmem
      rw [keys, List.map_append, List.nodup_append] at h
      exact h.2.2 e.1 hmem e.1 List.mem_cons_self rfl
    have hnext : (entries ++ [e] ++ pairs).keys.Nodup := by
      rwa [List.append_assoc]
    show update (put e.1 e.2 entries) pairs = _
    rw [put_of_notMem hnew, ih hnext, List.append_assoc]
    rfl

/-- Pairs with different keys are the entries that they make. -/
theorem ofPairs_of_nodup (h : pairs.keys.Nodup) : ofPairs pairs = pairs := update_of_nodup h

theorem lookup_mem (h : List.lookup key entries = some value) : (key, value) ∈ entries := by
  induction entries with
  | nil => exact absurd h (by simp)
  | cons e rest ih =>
    rw [lookup_eq] at h
    split at h
    · rename_i heq
      obtain rfl := Option.some.inj h
      rw [heq]
      exact List.mem_cons_self
    · exact List.mem_cons_of_mem _ (ih h)

end Assoc

/-! ## Values -/

namespace Value

mutual
/-- No object in the value has a key twice. -/
def Keyed : Value → Prop
  | array items => KeyedItems items
  | object fields => (Assoc.keys fields).Nodup ∧ KeyedFields fields
  | _ => True

def KeyedItems : List Value → Prop
  | [] => True
  | v :: rest => Keyed v ∧ KeyedItems rest

def KeyedFields : List (String × Value) → Prop
  | [] => True
  | f :: rest => Keyed f.2 ∧ KeyedFields rest
end

theorem keyedFields_iff {fields : Fields} : KeyedFields fields ↔ ∀ f ∈ fields, Keyed f.2 := by
  induction fields with
  | nil => simp [KeyedFields]
  | cons f rest ih => simp [KeyedFields, ih]

theorem keyedItems_iff {items : List Value} : KeyedItems items ↔ ∀ v ∈ items, Keyed v := by
  induction items with
  | nil => simp [KeyedItems]
  | cons v rest ih => simp [KeyedItems, ih]

theorem defectsOfFields_eq_nil {fields : Fields} :
    defectsOfFields fields = [] ↔ ∀ f ∈ fields, f.2.defects = [] := by
  induction fields with
  | nil => simp [defectsOfFields]
  | cons f rest ih => simp [defectsOfFields, ih]

theorem defectsOfItems_eq_nil {items : List Value} :
    defectsOfItems items = [] ↔ ∀ v ∈ items, v.defects = [] := by
  induction items with
  | nil => simp [defectsOfItems]
  | cons v rest ih => simp [defectsOfItems, ih]

/-- The value can be written as JSON and read back: it has no defects and no key twice. -/
structure Sound (v : Value) : Prop where
  defects : v.defects = []
  keyed : v.Keyed

theorem Sound.item {items : List Value} (h : (array items).Sound) {v : Value} (hv : v ∈ items) :
    v.Sound :=
  ⟨defectsOfItems_eq_nil.1 h.defects v hv, keyedItems_iff.1 h.keyed v hv⟩

theorem Sound.field {fields : Fields} (h : (object fields).Sound) {f : String × Value}
    (hf : f ∈ fields) : f.2.Sound :=
  ⟨defectsOfFields_eq_nil.1 h.defects f hf, keyedFields_iff.1 h.keyed.2 f hf⟩

theorem sound_array {items : List Value} (h : ∀ v ∈ items, v.Sound) : (array items).Sound :=
  ⟨defectsOfItems_eq_nil.2 fun v hv => (h v hv).defects, keyedItems_iff.2 fun v hv => (h v hv).keyed⟩

theorem sound_object {fields : Fields} (hkeys : (Assoc.keys fields).Nodup)
    (h : ∀ f ∈ fields, f.2.Sound) : (object fields).Sound :=
  ⟨defectsOfFields_eq_nil.2 fun f hf => (h f hf).defects,
    hkeys, keyedFields_iff.2 fun f hf => (h f hf).keyed⟩

theorem sound_empty : (object []).Sound := sound_object List.nodup_nil (by simp)

/-- An object stays sound when a field is put in front of it. -/
theorem Sound.cons {fields : Fields} (h : (object fields).Sound) (key : String) {v : Value}
    (hkey : key ∉ Assoc.keys fields) (hv : v.Sound) : (object ((key, v) :: fields)).Sound := by
  refine sound_object (List.nodup_cons.2 ⟨hkey, h.keyed.1⟩) ?_
  rintro f (_ | ⟨_, hf⟩)
  · exact hv
  · exact h.field hf

theorem sound_text (s : String) : (text s).Sound := ⟨rfl, trivial⟩

theorem sound_int {i : Int} (h : Numeral.fits i = true) : (int i).Sound :=
  ⟨by simp [defects, h], trivial⟩

end Value
end SvgIcon
