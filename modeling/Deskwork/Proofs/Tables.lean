/-
# Tables

What is in a table after an entry was put into it, taken out of it or given another name, and what is
found there.
-/
import Deskwork.Data.Table

namespace Deskwork.Table

variable {κ α : Type}

/-- Of different names, one that comes later is none of those before. -/
theorem not_mem_keys_of_nodup {before after : List (κ × α)} {k : κ} {v : α}
    (h : (keys (before ++ (k, v) :: after)).Nodup) : k ∉ keys before := by
  simp only [keys, List.map_append, List.map_cons] at h ⊢
  exact fun earlier => (List.nodup_append.mp h).2.2 k earlier k List.mem_cons_self rfl

/-- Of different names, those that come later are not the first one. -/
theorem ne_of_mem_of_nodup {t : List (κ × α)} {k : κ} {v : α} (h : (keys ((k, v) :: t)).Nodup)
    {e : κ × α} (mem : e ∈ t) : e.1 ≠ k := by
  have later : e.1 ∈ keys t := List.mem_map_of_mem mem
  rintro rfl
  exact (List.nodup_cons.mp h).1 later

variable [DecidableEq κ]

/-! ## Entries -/

/-- What is found is in the table. -/
theorem mem_of_get? {t : List (κ × α)} {k : κ} {v : α} (h : get? t k = some v) : (k, v) ∈ t := by
  induction t with
  | nil => cases h
  | cons e t ih =>
    obtain ⟨k', v'⟩ := e
    rw [get?] at h
    split at h
    case isTrue same =>
      cases h
      rw [same]
      exact List.mem_cons_self
    case isFalse => exact List.mem_cons_of_mem _ (ih h)

/-- In a table of different names, every entry is found. -/
theorem get?_of_mem {t : List (κ × α)} (distinct : (keys t).Nodup) {k : κ} {v : α} (h : (k, v) ∈ t) :
    get? t k = some v := by
  induction t with
  | nil => cases h
  | cons e t ih =>
    obtain ⟨k', v'⟩ := e
    rw [get?]
    rcases List.mem_cons.mp h with same | later
    · cases same
      exact if_pos rfl
    · rw [if_neg (ne_of_mem_of_nodup distinct later).symm]
      exact ih distinct.of_cons later

/-- In a table of different names, the entries of a name are the one that is found, if any. -/
theorem filter_eq_of_nodup {t : List (κ × α)} (distinct : (keys t).Nodup) (k : κ) :
    (t.filter fun e => decide (e.1 = k)) = ((get? t k).map (Prod.mk k)).toList := by
  induction t with
  | nil => rfl
  | cons e t ih =>
    obtain ⟨k', v'⟩ := e
    rw [get?]
    by_cases same : k' = k
    · subst same
      have nothing : (t.filter fun e => decide (e.1 = k')) = [] := by
        rw [List.filter_eq_nil_iff]
        intro e mem
        simp [ne_of_mem_of_nodup distinct mem]
      rw [List.filter_cons_of_pos (by simp), nothing, if_pos rfl]
      rfl
    · rw [List.filter_cons_of_neg (by simpa using same), if_neg same]
      exact ih distinct.of_cons

/-- From a table of different names, an entry is removed with its name. -/
theorem remove_eq_filter {t : List (κ × α)} (distinct : (keys t).Nodup) (k : κ) :
    remove t k = t.filter fun e => !decide (e.1 = k) := by
  induction t with
  | nil => rfl
  | cons e t ih =>
    obtain ⟨k', v'⟩ := e
    rw [remove]
    by_cases same : k' = k
    · subst same
      rw [if_pos rfl, List.filter_cons_of_neg (by simp)]
      refine (List.filter_eq_self.mpr ?_).symm
      intro e mem
      simp [ne_of_mem_of_nodup distinct mem]
    · rw [if_neg same, List.filter_cons_of_pos (by simpa using same), ih distinct.of_cons]

/-- A table with a new entry holds nothing else that is new. -/
theorem mem_put {t : List (κ × α)} {k : κ} {v : α} {e : κ × α} (h : e ∈ put t k v) :
    e = (k, v) ∨ e ∈ t := by
  induction t with
  | nil => exact .inl (List.mem_singleton.mp h)
  | cons e' t ih =>
    obtain ⟨k', v'⟩ := e'
    rw [put] at h
    split at h
    case isTrue same =>
      rcases List.mem_cons.mp h with rfl | h
      · exact .inl (by rw [same])
      · exact .inr (List.mem_cons_of_mem _ h)
    case isFalse =>
      rcases List.mem_cons.mp h with rfl | h
      · exact .inr List.mem_cons_self
      · exact (ih h).imp_right (List.mem_cons_of_mem _)

/-- An entry that stands there already is put there without a change. -/
theorem put_of_get? {t : List (κ × α)} {k : κ} {v : α}
    (h : get? t k = some v) : put t k v = t := by
  induction t with
  | nil => cases h
  | cons e t ih =>
    obtain ⟨k', v'⟩ := e
    rw [get?] at h
    rw [put]
    split at h
    case isTrue same =>
      cases h
      rw [if_pos same, same]
    case isFalse differ => rw [if_neg differ, ih h]

/-- A name that is not in a table is put at its end. -/
theorem put_of_not_mem {t : List (κ × α)} {k : κ} (v : α)
    (h : k ∉ keys t) : put t k v = t ++ [(k, v)] := by
  induction t with
  | nil => rfl
  | cons e t ih =>
    obtain ⟨k', v'⟩ := e
    simp only [keys, List.map_cons, List.mem_cons, not_or] at h
    rw [put, if_neg (Ne.symm h.1), ih h.2]
    rfl

/-! ## Looking up -/

/-- What is not found in the first of two tables is looked for in the second one. -/
theorem get?_append (t t' : List (κ × α)) (k : κ) : get? (t ++ t') k = (get? t k).or (get? t' k) := by
  induction t with
  | nil => rfl
  | cons e t ih =>
    obtain ⟨name, v⟩ := e
    rw [List.cons_append, get?, get?]
    split
    case isTrue => rfl
    case isFalse => exact ih

/-- Of entries that are changed, the changed one is found. -/
theorem get?_map {β : Type} (f : α → β) (t : List (κ × α)) (k : κ) :
    get? (t.map fun e => (e.1, f e.2)) k = (get? t k).map f := by
  induction t with
  | nil => rfl
  | cons e t ih =>
    obtain ⟨name, v⟩ := e
    rw [List.map_cons, get?, get?]
    split
    case isTrue => rfl
    case isFalse => exact ih

/-- Other names are found when the entries of a name are taken out. -/
theorem get?_filter_of_ne (t : List (κ × α)) {k k' : κ} (h : k' ≠ k) :
    get? (t.filter fun e => e.1 ≠ k) k' = get? t k' := by
  induction t with
  | nil => rfl
  | cons e t ih =>
    obtain ⟨name, v⟩ := e
    by_cases out : name = k
    · subst out
      rw [List.filter_cons_of_neg (by simp), ih, get?, if_neg (Ne.symm h)]
    · rw [List.filter_cons_of_pos (by simpa using out), get?, get?, ih]

/-- A name whose entries are taken out is not found. -/
theorem get?_filter_self (t : List (κ × α)) (k : κ) : get? (t.filter fun e => e.1 ≠ k) k = none := by
  induction t with
  | nil => rfl
  | cons e t ih =>
    obtain ⟨name, v⟩ := e
    by_cases out : name = k
    · rw [List.filter_cons_of_neg (by simpa using out), ih]
    · rw [List.filter_cons_of_pos (by simpa using out), get?, if_neg out, ih]

/-- A table in which the entries of one name go by another name. -/
def rename (t : List (κ × α)) (a b : κ) : List (κ × α) :=
  t.map fun e => if e.1 = a then (b, e.2) else e

/-- What went by the old name goes by the new one, which was free. -/
theorem get?_rename_self {t : List (κ × α)} {a b : κ} (free : get? t b = none) :
    get? (rename t a b) b = get? t a := by
  induction t with
  | nil => rfl
  | cons e t ih =>
    obtain ⟨name, v⟩ := e
    rw [get?] at free
    split at free
    case isTrue => cases free
    case isFalse other =>
      rw [rename, List.map_cons, ← rename]
      by_cases moved : name = a
      · simp only [get?, if_pos moved, if_true]
      · simp only [get?, if_neg moved, if_neg other, ih free]

/-- Nothing goes by the old name any more. -/
theorem get?_rename_old {t : List (κ × α)} {a b : κ} (differ : a ≠ b) :
    get? (rename t a b) a = none := by
  induction t with
  | nil => rfl
  | cons e t ih =>
    obtain ⟨name, v⟩ := e
    rw [rename, List.map_cons, ← rename]
    by_cases moved : name = a
    · simp only [get?, if_pos moved, if_neg (Ne.symm differ), ih]
    · simp only [get?, if_neg moved, ih]

/-- All other names are found as before. -/
theorem get?_rename_of_ne {t : List (κ × α)} {a b k : κ} (old : k ≠ a) (new : k ≠ b) :
    get? (rename t a b) k = get? t k := by
  induction t with
  | nil => rfl
  | cons e t ih =>
    obtain ⟨name, v⟩ := e
    rw [rename, List.map_cons, ← rename]
    by_cases moved : name = a
    · subst moved
      simp only [get?, if_true, if_neg (Ne.symm new), if_neg (Ne.symm old), ih]
    · simp only [get?, if_neg moved, ih]

end Deskwork.Table
