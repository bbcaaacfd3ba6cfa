/-
# Tables

Lists of named entries that keep the order in which the names first came. A name that comes again
replaces its entry in place.
-/

namespace Deskwork.Table

variable {κ α : Type} [DecidableEq κ]

/-! ## Operations -/

/-- The entry of a name. -/
def get? (t : List (κ × α)) (k : κ) : Option α :=
  match t with
  | [] => none
  | (k', v) :: rest => if k' = k then some v else get? rest k

/-- The table with an entry for `k`: in place of the old one, or else at the end. -/
def put (t : List (κ × α)) (k : κ) (v : α) : List (κ × α) :=
  match t with
  | [] => [(k, v)]
  | (k', v') :: rest => if k' = k then (k', v) :: rest else (k', v') :: put rest k v

/-- The table without the first entry of `k`. -/
def remove (t : List (κ × α)) (k : κ) : List (κ × α) :=
  match t with
  | [] => []
  | (k', v) :: rest => if k' = k then rest else (k', v) :: remove rest k

/-- The names of a table, in order. -/
def keys (t : List (κ × α)) : List κ :=
  t.map Prod.fst

/-! ## What the operations do to a look-up -/

/-- A name that was put is found. -/
theorem get?_put_self (t : List (κ × α)) (k : κ) (v : α) : get? (put t k v) k = some v := by
  induction t with
  | nil => simp [put, get?]
  | cons e rest ih =>
    obtain ⟨k', v'⟩ := e
    by_cases h : k' = k
    · simp [put, get?, h]
    · simp [put, get?, h, ih]

/-- Other names are found as before. -/
theorem get?_put_of_ne (t : List (κ × α)) {k k₂ : κ} (v : α) (h : k₂ ≠ k) :
    get? (put t k v) k₂ = get? t k₂ := by
  induction t with
  | nil => simp [put, get?, Ne.symm h]
  | cons e rest ih =>
    obtain ⟨k', v'⟩ := e
    by_cases hk : k' = k
    · subst hk
      simp [put, get?, Ne.symm h]
    · by_cases hk₂ : k' = k₂
      · subst hk₂
        simp [put, get?, hk]
      · simp [put, get?, hk, hk₂, ih]

end Deskwork.Table
