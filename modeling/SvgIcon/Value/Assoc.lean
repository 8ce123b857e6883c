/-!
Association lists that keep the order in which keys were first written.  Writing a key again
changes its value and not its place.  They are read with `List.lookup`.
-/

namespace SvgIcon

abbrev Assoc (α : Type) := List (String × α)

namespace Assoc

variable {α : Type}

def has (entries : Assoc α) (key : String) : Bool := entries.any fun e => e.1 == key

def keys (entries : Assoc α) : List String := entries.map (·.1)

/-- A key that is there keeps its place, a new one comes last. -/
def put (key : String) (value : α) : Assoc α → Assoc α
  | [] => [(key, value)]
  | e :: rest => if e.1 == key then (key, value) :: rest else e :: put key value rest

/-- The entries of `newer` written one after another over `entries`. -/
def update (entries newer : Assoc α) : Assoc α :=
  newer.foldl (fun acc e => put e.1 e.2 acc) entries

/-- The entries with every key written once; a later value replaces an earlier one. -/
def ofPairs (pairs : List (String × α)) : Assoc α := update [] pairs

theorem lookup_eq (e : String × α) (rest : Assoc α) (key : String) :
    List.lookup key (e :: rest) = if key = e.1 then some e.2 else rest.lookup key := by
  show (match key == e.1 with
    | true => some e.2
    | false => List.lookup key rest) = _
  by_cases h : key = e.1
  · rw [if_pos h, beq_iff_eq.2 h]
  · rw [if_neg h, beq_eq_false_iff_ne.2 h]

theorem lookup_put (entries : Assoc α) (k key : String) (v : α) :
    (put k v entries).lookup key = if key = k then some v else entries.lookup key := by
  induction entries with
  | nil => simp [put, lookup_eq]
  | cons e rest ih =>
    simp only [put, beq_iff_eq]
    split
    · rename_i he
      subst he
      simp only [lookup_eq]
      split <;> rfl
    · rename_i he
      simp only [lookup_eq, ih]
      by_cases h : key = e.1
      · subst h; simp [he]
      · simp [h]

theorem update_append (entries a b : Assoc α) :
    update entries (a ++ b) = update (update entries a) b := by
  simp [update, List.foldl_append]

end Assoc
end SvgIcon
