/-
# Reading Back What Was Written

A data value written as a JSON text is read back from it, on one line (`read_line`) and indented
(`read_page`). Both texts are cases of one printer, which leaves open what blanks stand between the
parts (`Spacing`), and the reader is shown to undo that printer at any depth and whatever follows
(`readValue_write`). What a text keeps are the values without floating-point numbers, without numerals
that are too long to be read, and without two fields of one name (`Value.Kept`).
-/
import Deskwork.Proofs.Json.Literals
import Deskwork.Proofs.Results
import Deskwork.Proofs.Tables

namespace Deskwork

open Deskwork.Text Deskwork.Number

/-! ## Values that a text keeps -/

/-- A value without parts that a text keeps. -/
def Scalar.Kept : Scalar → Prop
  | .float _ => False
  | .int n => n.natAbs < 10 ^ digitLimit
  | _ => True

/-- A value that a text keeps: it holds no floating-point number, no number with too many digits and
no name twice. -/
inductive Value.Kept : Value → Prop where
  /-- A value without parts. -/
  | scalar {s : Scalar} (kept : s.Kept) : Kept (.scalar s)
  /-- A list of such values. -/
  | list {items : List Value} (kept : ∀ v ∈ items, Kept v) : Kept (.list items)
  /-- Such values under different names. -/
  | object {fields : List (String × Value)} (kept : ∀ f ∈ fields, Kept f.2)
    (distinct : (Table.keys fields).Nodup) : Kept (.object fields)

/-- What holds of a value whenever it holds of its parts holds of every value. -/
theorem Value.induction {P : Value → Prop} (scalar : ∀ s, P (.scalar s))
    (list : ∀ items, (∀ v ∈ items, P v) → P (.list items))
    (object : ∀ fields, (∀ f ∈ fields, P f.2) → P (.object fields)) (v : Value) : P v := by
  match v with
  | .scalar s => exact scalar s
  | .list items => exact list items fun w _ => Value.induction scalar list object w
  | .object fields => exact object fields fun f _ => Value.induction scalar list object f.2
termination_by sizeOf v
decreasing_by
  · have := List.sizeOf_lt_of_mem ‹w ∈ items›
    simp only [Value.list.sizeOf_spec]
    omega
  · have := List.sizeOf_lt_of_mem ‹f ∈ fields›
    obtain ⟨name, w⟩ := f
    simp only [Value.object.sizeOf_spec, Prod.mk.sizeOf_spec] at this ⊢
    omega

namespace Json

/-! ## One printer -/

/-- Characters that may stand between the parts of a text. -/
def Blanks (cs : List Char) : Prop := ∀ c ∈ cs, c = ' ' ∨ c = '\n'

/-- What stands between the parts of a text, at each depth: behind an opening bracket, behind a comma
and before a closing bracket. -/
structure Spacing where
  /-- Behind an opening bracket, at the depth of the parts. -/
  opening : Nat → List Char
  between : Nat → List Char
  /-- Before a closing bracket, at the depth of the whole. -/
  closing : Nat → List Char
  /-- Blanks stand behind an opening bracket. -/
  opening_blanks : ∀ d, Blanks (opening d)
  /-- Blanks stand behind a comma. -/
  between_blanks : ∀ d, Blanks (between d)
  /-- Blanks stand before a closing bracket. -/
  closing_blanks : ∀ d, Blanks (closing d)

/-- The beginning of a line is blank. -/
theorem blanks_newLine (d : Nat) : Blanks (newLine d) := by
  intro c h
  simp only [newLine, List.mem_cons, List.mem_replicate] at h
  rcases h with newline | ⟨-, blank⟩
  · exact .inr newline
  · exact .inl blank

/-- One line: a blank behind each comma. -/
def onLine : Spacing where
  opening _ := []
  between _ := [' ']
  closing _ := []
  opening_blanks _ := by simp [Blanks]
  between_blanks _ := by simp [Blanks]
  closing_blanks _ := by simp [Blanks]

/-- Each part on a line of its own. -/
def onPage : Spacing where
  opening := newLine
  between := newLine
  closing := newLine
  opening_blanks := blanks_newLine
  between_blanks := blanks_newLine
  closing_blanks := blanks_newLine

variable (g : Spacing)

mutual

/-- The text of a value at a depth, with some spacing. -/
def write (d : Nat) : Value → List Char
  | .scalar s => writeScalar s
  | .list [] => ['[', ']']
  | .list (v :: rest) =>
    '[' :: (g.opening (d + 1) ++ (write (d + 1) v ++ (moreItems (d + 1) rest
      ++ (g.closing d ++ [']']))))
  | .object [] => ['\x7b', '\x7d']
  | .object ((k, v) :: rest) =>
    '\x7b' :: (g.opening (d + 1) ++ (writeChars k.toList ++ (':' :: ' ' :: (write (d + 1) v
      ++ (moreFields (d + 1) rest ++ (g.closing d ++ ['\x7d']))))))

/-- The texts of items, with a comma in front of each. -/
def moreItems (d : Nat) : List Value → List Char
  | [] => []
  | v :: rest => ',' :: (g.between d ++ (write d v ++ moreItems d rest))

/-- The texts of fields, with a comma in front of each. -/
def moreFields (d : Nat) : List (String × Value) → List Char
  | [] => []
  | (k, v) :: rest =>
    ',' :: (g.between d ++ (writeChars k.toList ++ (':' :: ' ' :: (write d v
      ++ moreFields d rest))))

end

/-- Items on one line. -/
theorem lineItems_eq {v : Value} {rest : List Value} {d : Nat}
    (h : ∀ w ∈ v :: rest, writeLine w = write onLine d w) :
    lineItems (v :: rest) = write onLine d v ++ moreItems onLine d rest := by
  induction rest generalizing v with
  | nil => simp [lineItems, moreItems, h v]
  | cons w rest ih =>
    have others := ih fun x hx => h x (List.mem_cons_of_mem v hx)
    simp [lineItems, moreItems, h v, others, onLine]

/-- Fields on one line. -/
theorem lineFields_eq {k : String} {v : Value} {rest : List (String × Value)} {d : Nat}
    (h : ∀ f ∈ (k, v) :: rest, writeLine f.2 = write onLine d f.2) :
    lineFields ((k, v) :: rest)
      = writeChars k.toList ++ (':' :: ' ' :: (write onLine d v ++ moreFields onLine d rest)) := by
  induction rest generalizing k v with
  | nil => simp [lineFields, moreFields, h (k, v)]
  | cons f rest ih =>
    obtain ⟨k', v'⟩ := f
    have others := ih fun x hx => h x (List.mem_cons_of_mem (k, v) hx)
    simp [lineFields, moreFields, h (k, v), others, onLine]

/-- A value on one line. -/
theorem writeLine_eq (v : Value) (d : Nat) : writeLine v = write onLine d v := by
  induction v using Value.induction generalizing d with
  | scalar s => simp [writeLine, write]
  | list items ih =>
    cases items with
    | nil => simp [writeLine, write, lineItems]
    | cons v rest => simp [writeLine, write, lineItems_eq fun w hw => ih w hw (d + 1), onLine]
  | object fields ih =>
    cases fields with
    | nil => simp [writeLine, write, lineFields]
    | cons f rest =>
      obtain ⟨k, v⟩ := f
      simp [writeLine, write, lineFields_eq fun f hf => ih f hf (d + 1), onLine]

/-- Items on lines of their own. -/
theorem pageItems_eq {v : Value} {rest : List Value} {d : Nat}
    (h : ∀ w ∈ v :: rest, writePage d w = write onPage d w) :
    pageItems d (v :: rest) = newLine d ++ (write onPage d v ++ moreItems onPage d rest) := by
  induction rest generalizing v with
  | nil => simp [pageItems, moreItems, h v]
  | cons w rest ih =>
    have others := ih fun x hx => h x (List.mem_cons_of_mem v hx)
    simp [pageItems, moreItems, h v, others, onPage]

/-- Fields on lines of their own. -/
theorem pageFields_eq {k : String} {v : Value} {rest : List (String × Value)} {d : Nat}
    (h : ∀ f ∈ (k, v) :: rest, writePage d f.2 = write onPage d f.2) :
    pageFields d ((k, v) :: rest)
      = newLine d ++ (writeChars k.toList
          ++ (':' :: ' ' :: (write onPage d v ++ moreFields onPage d rest))) := by
  induction rest generalizing k v with
  | nil => simp [pageFields, moreFields, h (k, v)]
  | cons f rest ih =>
    obtain ⟨k', v'⟩ := f
    have others := ih fun x hx => h x (List.mem_cons_of_mem (k, v) hx)
    simp [pageFields, moreFields, h (k, v), others, onPage]

/-- A value whose parts stand on lines of their own. -/
theorem writePage_eq (v : Value) (d : Nat) : writePage d v = write onPage d v := by
  induction v using Value.induction generalizing d with
  | scalar s => simp [writePage, write]
  | list items ih =>
    cases items with
    | nil => simp [writePage, write]
    | cons v rest => simp [writePage, write, pageItems_eq fun w hw => ih w hw (d + 1), onPage]
  | object fields ih =>
    cases fields with
    | nil => simp [writePage, write]
    | cons f rest =>
      obtain ⟨k, v⟩ := f
      simp [writePage, write, pageFields_eq fun f hf => ih f hf (d + 1), onPage]

/-! ## What stands in front and behind -/

/-- A digit is a digit, and no other character that begins or ends anything. -/
theorem ne_of_isDigit {c x : Char} (digit : isDigit c = true) (other : isDigit x = false) : c ≠ x := by
  rintro rfl
  exact absurd digit (by simp [other])

/-- A character with which the text of a value may begin. -/
def Opens (c : Char) : Prop :=
  isSpace c = false ∧ c ≠ ']' ∧ c ≠ '\x7d' ∧ c ≠ '\uFEFF'

instance (c : Char) : Decidable (Opens c) := inferInstanceAs (Decidable (_ ∧ _))

/-- A number begins with a sign or a digit. -/
theorem opens_of_isDigit {c : Char} (digit : isDigit c = true) : Opens c := by
  refine ⟨?_, ne_of_isDigit digit rfl, ne_of_isDigit digit rfl, ne_of_isDigit digit rfl⟩
  simp [isSpace, ne_of_isDigit digit (x := ' ') rfl, ne_of_isDigit digit (x := '\t') rfl,
    ne_of_isDigit digit (x := '\n') rfl, ne_of_isDigit digit (x := '\r') rfl]

/-- The text of a whole number begins with its sign or with a digit. -/
theorem intText_eq_cons (n : Int) :
    ∃ c cs, isDigit c = true
      ∧ ((intText n).toList = c :: cs ∨ (intText n).toList = '-' :: c :: cs) := by
  obtain ⟨c, cs, front, -⟩ := decimalChars_eq_cons n.natAbs
  refine ⟨c, cs, isDigit_of_mem_decimalChars (front ▸ List.mem_cons_self), ?_⟩
  by_cases negative : n < 0 <;> simp [intText, signChars, negative, front]

/-- The text of a value begins with a character that is no blank and closes nothing. -/
theorem write_eq_cons {v : Value} (kept : v.Kept) (d : Nat) :
    ∃ c cs, write g d v = c :: cs ∧ Opens c := by
  cases kept with
  | @scalar s kept =>
    cases s with
    | null => exact ⟨_, _, rfl, by decide⟩
    | bool b => cases b <;> exact ⟨_, _, rfl, by decide⟩
    | float x => exact kept.elim
    | text s => exact ⟨_, _, rfl, by decide⟩
    | int n =>
      obtain ⟨c, cs, digit, plain | negative⟩ := intText_eq_cons n
      · exact ⟨c, cs, plain, opens_of_isDigit digit⟩
      · exact ⟨'-', c :: cs, negative, by decide⟩
  | @list items kept => cases items <;> exact ⟨_, _, rfl, by decide⟩
  | @object fields kept distinct => cases fields <;> exact ⟨_, _, rfl, by decide⟩

/-- What may follow a value: a comma, a closing bracket, a blank or nothing. -/
def Follows (rest : List Char) : Prop :=
  ∀ c, rest.head? = some c → c = ',' ∨ c = ']' ∨ c = '\x7d' ∨ c = ' ' ∨ c = '\n'

/-- What may follow a value does not go on a number. -/
theorem Follows.endsNumber {rest : List Char} (h : Follows rest) : EndsNumber rest := by
  intro c head
  rcases h c head with rfl | rfl | rfl | rfl | rfl <;> decide

/-- Blanks and a closing bracket may follow a value. -/
theorem follows_closing {cs : List Char} (blanks : Blanks cs) {bracket : Char}
    (h : bracket = ']' ∨ bracket = '\x7d') (after : List Char) :
    Follows (cs ++ bracket :: after) := by
  intro c head
  cases cs with
  | nil =>
    obtain rfl : bracket = c := by simpa using head
    rcases h with rfl | rfl <;> simp
  | cons b cs =>
    obtain rfl : b = c := by simpa using head
    rcases blanks b List.mem_cons_self with rfl | rfl <;> simp

/-- A comma may follow a value. -/
theorem follows_comma (after : List Char) : Follows (',' :: after) := by
  intro c head
  obtain rfl : ',' = c := by simpa using head
  simp

/-! ## Blanks passed over -/

/-- Blanks in front are passed over. -/
theorem skip_blanks {cs : List Char} (blanks : Blanks cs) (rest : List Char) :
    skip (cs ++ rest) = skip rest := by
  refine List.dropWhile_append_of_pos fun c h => ?_
  rcases blanks c h with rfl | rfl <;> rfl

/-- Nothing is passed over in front of a value. -/
theorem skip_of_opens {c : Char} (opens : Opens c) (cs : List Char) : skip (c :: cs) = c :: cs := by
  simp [skip, opens.1]

/-- Nothing is passed over in front of the text of a value. -/
theorem skip_write {v : Value} (kept : v.Kept) (d : Nat) (rest : List Char) :
    skip (write g d v ++ rest) = write g d v ++ rest := by
  obtain ⟨c, cs, front, opens⟩ := write_eq_cons g kept d
  rw [front]
  exact skip_of_opens opens (cs ++ rest)

/-- Nothing is passed over in front of a quoted text. -/
theorem skip_writeChars (cs rest : List Char) : skip (writeChars cs ++ rest) = writeChars cs ++ rest :=
  rfl

/-! ## Values -/

/-- A number is read where a digit stands. -/
theorem readValue_of_isDigit {c : Char} (digit : isDigit c = true) (n : Nat) (cs : List Char) :
    readValue (n + 1) (c :: cs) = readNumber (c :: cs) := by
  simp [readValue, ne_of_isDigit digit (x := '"') rfl, ne_of_isDigit digit (x := '\x7b') rfl,
    ne_of_isDigit digit (x := '[') rfl, ne_of_isDigit digit (x := 'n') rfl,
    ne_of_isDigit digit (x := 't') rfl, ne_of_isDigit digit (x := 'f') rfl,
    ne_of_isDigit digit (x := 'N') rfl, ne_of_isDigit digit (x := 'I') rfl,
    ne_of_isDigit digit (x := '-') rfl]

/-- A number is read where a digit stands behind a sign. -/
theorem readValue_of_sign {c : Char} (digit : isDigit c = true) (n : Nat) (cs : List Char) :
    readValue (n + 1) ('-' :: c :: cs) = readNumber ('-' :: c :: cs) := by
  simp [readValue, ne_of_isDigit digit (x := 'I') rfl]

/-- A value without parts is read back. -/
theorem readValue_writeScalar {s : Scalar} (kept : s.Kept) (n : Nat) {rest : List Char}
    (follows : Follows rest) :
    readValue (n + 1) (writeScalar s ++ rest) = .ok (.scalar s, rest) := by
  cases s with
  | null => rfl
  | bool b => cases b <;> rfl
  | float x => exact kept.elim
  | text s =>
    obtain ⟨cs, written, read⟩ := readQuoted_writeChars s rest
    rw [writeScalar, written, readValue, read]
    rfl
  | int m =>
    have read := readNumber_intText kept follows.endsNumber
    obtain ⟨c, cs, digit, plain | negative⟩ := intText_eq_cons m
    · rw [writeScalar, ← read, plain]
      exact readValue_of_isDigit digit n (cs ++ rest)
    · rw [writeScalar, ← read, negative]
      exact readValue_of_sign digit n (cs ++ rest)

/-! ## Items and fields one after the other -/

section Steps

variable {n : Nat} {cs rest more after : List Char} {v : Value}

/-- The last item of a list. -/
theorem readItems_last (first : readValue n cs = .ok (v, rest)) (last : skip rest = ']' :: after) :
    readItems (n + 1) cs = .ok ([v], after) := by
  simp [readItems, first, last, bind, Except.bind]

/-- An item of a list that is not the last one. -/
theorem readItems_comma {items : List Value} (first : readValue n cs = .ok (v, rest))
    (comma : skip rest = ',' :: more) (others : readItems n (skip more) = .ok (items, after)) :
    readItems (n + 1) cs = .ok (v :: items, after) := by
  simp [readItems, first, comma, others, bind, Except.bind]

/-- A list that is not empty. -/
theorem readValue_bracket {items : List Value} {c : Char} (start : skip cs = c :: rest)
    (notClosed : c ≠ ']') (read : readItems n (c :: rest) = .ok (items, after)) :
    readValue (n + 1) ('[' :: cs) = .ok (.list items, after) := by
  simp [readValue, start, notClosed, read, Except.map]

variable {k : String} {fields : List (String × Value)} {colon : List Char}

/-- An object that is not empty. -/
theorem readValue_brace {c : Char} (start : skip cs = c :: rest) (notClosed : c ≠ '\x7d')
    (read : readFields n [] (c :: rest) = .ok (fields, after)) :
    readValue (n + 1) ('\x7b' :: cs) = .ok (.object fields, after) := by
  simp [readValue, start, notClosed, read, Except.map]

/-- The last field of an object. -/
theorem readFields_last (name : readQuoted cs = .ok (k, ':' :: colon))
    (first : readValue n (skip colon) = .ok (v, rest)) (last : skip rest = '\x7d' :: after) :
    readFields (n + 1) fields ('"' :: cs) = .ok (Table.put fields k v, after) := by
  have here : skip (':' :: colon) = ':' :: colon := rfl
  simp [readFields, name, here, first, last, bind, Except.bind]

/-- A field of an object that is not the last one. -/
theorem readFields_comma {r : Except Flaw (List (String × Value) × List Char)}
    (name : readQuoted cs = .ok (k, ':' :: colon))
    (first : readValue n (skip colon) = .ok (v, rest)) (comma : skip rest = ',' :: more)
    (others : readFields n (Table.put fields k v) (skip more) = r) :
    readFields (n + 1) fields ('"' :: cs) = r := by
  have here : skip (':' :: colon) = ':' :: colon := rfl
  simp [readFields, name, here, first, comma, others, bind, Except.bind]

end Steps

/-- A value is read back at every depth, whatever may follow, when the bound on the nesting is as large
as twice its text. -/
def ReadBack (v : Value) : Prop :=
  ∀ d n rest, Follows rest → 2 * (write g d v).length + 1 ≤ n →
    readValue n (write g d v ++ rest) = .ok (v, rest)

variable {g}

/-- Items are read back up to the closing bracket. -/
theorem readItems_write {v : Value} {items : List Value} (kept : ∀ w ∈ v :: items, w.Kept)
    (back : ∀ w ∈ v :: items, ReadBack g w) {d n : Nat} {cs : List Char} (blanks : Blanks cs)
    (after : List Char)
    (fuel : 2 * ((write g d v).length + (moreItems g d items).length) + 2 ≤ n) :
    readItems n (write g d v ++ (moreItems g d items ++ (cs ++ ']' :: after)))
      = .ok (v :: items, after) := by
  induction items generalizing v n with
  | nil =>
    simp only [moreItems, List.length_nil, List.nil_append] at fuel ⊢
    obtain ⟨n, rfl⟩ : ∃ m, n = m + 1 := ⟨n - 1, by omega⟩
    have first := back v List.mem_cons_self d n _ (follows_closing blanks (.inl rfl) after)
      (by omega)
    exact readItems_last first (skip_blanks blanks _)
  | cons w items ih =>
    simp only [moreItems, List.length_cons, List.length_append, List.cons_append,
      List.append_assoc] at fuel ⊢
    obtain ⟨n, rfl⟩ : ∃ m, n = m + 1 := ⟨n - 1, by omega⟩
    have first := back v List.mem_cons_self d n _
      (follows_comma (g.between d ++ (write g d w ++ (moreItems g d items ++ (cs ++ ']' :: after)))))
      (by omega)
    have others := ih (v := w) (n := n) (fun x hx => kept x (List.mem_cons_of_mem v hx))
      (fun x hx => back x (List.mem_cons_of_mem v hx)) (by omega)
    refine readItems_comma first rfl ?_
    rw [skip_blanks (g.between_blanks d), skip_write g (kept w (by simp))]
    exact others

/-- Fields are read back up to the closing bracket, and put after those read before. -/
theorem readFields_write {k : String} {v : Value} {fields : List (String × Value)}
    (kept : ∀ f ∈ (k, v) :: fields, f.2.Kept) (back : ∀ f ∈ (k, v) :: fields, ReadBack g f.2)
    {before : List (String × Value)} (distinct : (Table.keys (before ++ (k, v) :: fields)).Nodup)
    {d n : Nat} {cs : List Char} (blanks : Blanks cs) (after : List Char)
    (fuel : 2 * ((writeChars k.toList).length + (write g d v).length
      + (moreFields g d fields).length) + 2 ≤ n) :
    readFields n before (writeChars k.toList ++ (':' :: ' ' :: (write g d v
        ++ (moreFields g d fields ++ (cs ++ '\x7d' :: after)))))
      = .ok (before ++ (k, v) :: fields, after) := by
  induction fields generalizing k v n before with
  | nil =>
    simp only [moreFields, List.length_nil, List.nil_append] at fuel ⊢
    obtain ⟨n, rfl⟩ : ∃ m, n = m + 1 := ⟨n - 1, by omega⟩
    have first := back (k, v) List.mem_cons_self d n _
      (follows_closing blanks (.inr rfl) after) (by simp only; omega)
    rw [← skip_write g (kept (k, v) List.mem_cons_self) d] at first
    have last : skip (cs ++ '\x7d' :: after) = '\x7d' :: after := skip_blanks blanks _
    obtain ⟨name, written, read⟩ := readQuoted_writeChars k
      (':' :: ' ' :: (write g d v ++ (cs ++ '\x7d' :: after)))
    rw [written, ← Table.put_of_not_mem v (Table.not_mem_keys_of_nodup distinct)]
    exact readFields_last read first last
  | cons f fields ih =>
    obtain ⟨k', v'⟩ := f
    simp only [moreFields, List.length_cons, List.length_append, List.cons_append,
      List.append_assoc] at fuel ⊢
    obtain ⟨n, rfl⟩ : ∃ m, n = m + 1 := ⟨n - 1, by omega⟩
    have first := back (k, v) List.mem_cons_self d n _
      (follows_comma (g.between d ++ (writeChars k'.toList ++ (':' :: ' ' :: (write g d v'
        ++ (moreFields g d fields ++ (cs ++ '\x7d' :: after))))))) (by simp only; omega)
    rw [← skip_write g (kept (k, v) List.mem_cons_self) d] at first
    have distinct' : (Table.keys ((before ++ [(k, v)]) ++ (k', v') :: fields)).Nodup := by
      simpa using distinct
    have others := ih (n := n) (fun x hx => kept x (List.mem_cons_of_mem (k, v) hx))
      (fun x hx => back x (List.mem_cons_of_mem (k, v) hx)) distinct' (by omega)
    obtain ⟨name, written, read⟩ := readQuoted_writeChars k
      (':' :: ' ' :: (write g d v ++ (',' :: (g.between d ++ (writeChars k'.toList
        ++ (':' :: ' ' :: (write g d v' ++ (moreFields g d fields ++ (cs ++ '\x7d' :: after)))))))))
    rw [written]
    refine readFields_comma read first rfl ?_
    rw [skip_blanks (g.between_blanks d), skip_writeChars,
      Table.put_of_not_mem v (Table.not_mem_keys_of_nodup distinct)]
    simpa using others

/-! ## Whole texts -/

variable (g)

/-- What a text keeps is read back from it, with any spacing, at any depth and whatever follows. -/
theorem readValue_write {v : Value} (kept : v.Kept) : ReadBack g v := by
  induction kept with
  | scalar kept =>
    intro d n rest follows fuel
    obtain ⟨n, rfl⟩ : ∃ m, n = m + 1 := ⟨n - 1, by omega⟩
    rw [write]
    exact readValue_writeScalar kept n follows
  | @list items kept ih =>
    intro d n rest follows fuel
    obtain ⟨n, rfl⟩ : ∃ m, n = m + 1 := ⟨n - 1, by omega⟩
    cases items with
    | nil => rfl
    | cons v items =>
      simp only [write, List.length_cons, List.length_append, List.cons_append,
        List.append_assoc] at fuel ⊢
      have read := readItems_write (n := n) (d := d + 1) kept ih (g.closing_blanks d) rest (by omega)
      obtain ⟨c, cs, front, opens⟩ := write_eq_cons g (kept v List.mem_cons_self) (d + 1)
      rw [front] at read ⊢
      refine readValue_bracket ?_ opens.2.1 read
      rw [skip_blanks (g.opening_blanks (d + 1))]
      exact skip_of_opens opens _
  | @object fields kept distinct ih =>
    intro d n rest follows fuel
    obtain ⟨n, rfl⟩ : ∃ m, n = m + 1 := ⟨n - 1, by omega⟩
    cases fields with
    | nil => rfl
    | cons f fields =>
      obtain ⟨k, v⟩ := f
      simp only [write, List.length_cons, List.length_append, List.cons_append,
        List.append_assoc] at fuel ⊢
      have distinct' : (Table.keys ([] ++ (k, v) :: fields)).Nodup := distinct
      have read := readFields_write (n := n) (d := d + 1) kept ih distinct'
        (g.closing_blanks d) rest (by omega)
      refine readValue_brace ?_ (c := '"') (by decide) read
      rw [skip_blanks (g.opening_blanks (d + 1)), skip_writeChars]
      rfl

/-- A text with some spacing is read back as the value. -/
theorem readList_write {v : Value} (kept : v.Kept) (d : Nat) : readList (write g d v) = .ok v := by
  obtain ⟨c, cs, front, opens⟩ := write_eq_cons g kept d
  have start : skip (write g d v) = write g d v := by
    rw [front]
    exact skip_of_opens opens cs
  have noMark : (write g d v).head? ≠ some '\uFEFF' := by
    rw [front]
    exact fun h => opens.2.2.2 (Option.some.inj h)
  have read := readValue_write g kept d _ [] (fun c h => by cases h) (Nat.le_refl _)
  rw [List.append_nil] at read
  have done : skip [] = [] := rfl
  simp [readList, noMark, start, read, done, bind, Except.bind]

/-- A value on one line is read back. -/
theorem read_line {v : Value} (kept : v.Kept) : read (line v) = .ok v := by
  simp [read, line, writeLine_eq v 0, readList_write onLine kept, mapError_eq_ok_iff]

/-- A value whose parts stand on lines of their own is read back. -/
theorem read_page {v : Value} (kept : v.Kept) : read (page v) = .ok v := by
  simp [read, page, writePage_eq v 0, readList_write onPage kept, mapError_eq_ok_iff]

/-! ## Ends of lines -/

/-- A carriage return is escaped. -/
theorem carriage_not_mem_escapeChar (c : Char) : '\r' ∉ escapeChar c := by
  unfold escapeChar
  split_ifs with quote backslash newline carriage tab backspace page control
  · decide
  · decide
  · decide
  · decide
  · decide
  · decide
  · decide
  · have digits : ∀ n, n < 0x20 → '\r' ∉ hexDigits 4 n := by decide
    simp only [List.mem_cons, Char.reduceEq, false_or]
    exact digits c.toNat control
  · simpa using Ne.symm carriage

/-- A quoted text has no carriage return. -/
theorem carriage_not_mem_writeChars (cs : List Char) : '\r' ∉ writeChars cs := by
  simp [writeChars, carriage_not_mem_escapeChar]

/-- Blanks are no carriage returns. -/
theorem Blanks.carriage_not_mem {cs : List Char} (blanks : Blanks cs) : '\r' ∉ cs := by
  intro h
  rcases blanks _ h with h | h <;> cases h

/-- The text of a value without parts has no carriage return. -/
theorem carriage_not_mem_writeScalar {s : Scalar} (kept : s.Kept) : '\r' ∉ writeScalar s := by
  cases s with
  | null => decide
  | bool b => cases b <;> decide
  | float x => exact kept.elim
  | text s => exact carriage_not_mem_writeChars s.toList
  | int n =>
    have digits : '\r' ∉ decimalChars n.natAbs := fun h =>
      absurd (isDigit_of_mem_decimalChars h) (by decide)
    by_cases negative : n < 0 <;> simp [writeScalar, intText, signChars, negative, digits]

/-- Items bring no carriage returns with them. -/
theorem carriage_not_mem_moreItems {items : List Value} {d : Nat}
    (h : ∀ v ∈ items, '\r' ∉ write g d v) : '\r' ∉ moreItems g d items := by
  induction items with
  | nil => simp [moreItems]
  | cons v items ih =>
    simp [moreItems, (g.between_blanks d).carriage_not_mem, h v,
      ih fun w hw => h w (List.mem_cons_of_mem v hw)]

/-- Fields bring no carriage returns with them. -/
theorem carriage_not_mem_moreFields {fields : List (String × Value)} {d : Nat}
    (h : ∀ f ∈ fields, '\r' ∉ write g d f.2) : '\r' ∉ moreFields g d fields := by
  induction fields with
  | nil => simp [moreFields]
  | cons f fields ih =>
    simp [moreFields, (g.between_blanks d).carriage_not_mem, carriage_not_mem_writeChars, h f,
      ih fun w hw => h w (List.mem_cons_of_mem f hw)]

/-- The only ends of lines in the text of a value are newlines. -/
theorem carriage_not_mem_write {v : Value} (kept : v.Kept) (d : Nat) : '\r' ∉ write g d v := by
  induction kept generalizing d with
  | scalar kept =>
    rw [write]
    exact carriage_not_mem_writeScalar kept
  | @list items kept ih =>
    cases items with
    | nil => simp [write]
    | cons v items =>
      have others := carriage_not_mem_moreItems g (d := d + 1) fun w hw =>
        ih w (List.mem_cons_of_mem v hw) (d + 1)
      simp [write, (g.opening_blanks (d + 1)).carriage_not_mem,
        (g.closing_blanks d).carriage_not_mem, ih v, others]
  | @object fields kept distinct ih =>
    cases fields with
    | nil => simp [write]
    | cons f fields =>
      have others := carriage_not_mem_moreFields g (d := d + 1) fun w hw =>
        ih w (List.mem_cons_of_mem f hw) (d + 1)
      simp [write, (g.opening_blanks (d + 1)).carriage_not_mem,
        (g.closing_blanks d).carriage_not_mem, carriage_not_mem_writeChars, ih f, others]

/-- The only ends of lines in an indented text are newlines. -/
theorem carriage_not_mem_page {v : Value} (kept : v.Kept) : '\r' ∉ (page v).toList := by
  simpa [page, writePage_eq v 0] using carriage_not_mem_write onPage kept 0

end Json

end Deskwork
