/-
# Substitution in Texts

Looking for a text inside another one, and replacing every occurrence of a text from left to right.
-/

namespace Deskwork.Text

/-! ## Looking for a text -/

/-- What follows `pat` when `cs` begins with it. -/
def dropStart? : (pat cs : List Char) → Option (List Char)
  | [], cs => some cs
  | _ :: _, [] => none
  | p :: ps, c :: cs => if p = c then dropStart? ps cs else none

/-- The characters of `pat` stand together somewhere in `cs`. -/
def occursIn (pat : List Char) : List Char → Bool
  | [] => pat.isEmpty
  | c :: cs => (dropStart? pat (c :: cs)).isSome || occursIn pat cs

/-- A text holds another one. -/
def holds (s part : String) : Bool :=
  occursIn part.toList s.toList

/-- What follows a beginning is what is left of the whole. -/
theorem eq_append_of_dropStart? {pat cs rest : List Char} (h : dropStart? pat cs = some rest) :
    cs = pat ++ rest := by
  induction pat generalizing cs with
  | nil => simpa [dropStart?] using h
  | cons p ps ih =>
    cases cs with
    | nil => simp [dropStart?] at h
    | cons c cs =>
      by_cases hp : p = c
      · simp only [dropStart?, hp, if_true] at h
        simp [hp, ih h]
      · simp [dropStart?, hp] at h

/-- A list begins with whatever was put in front of it. -/
theorem dropStart?_append (pat rest : List Char) : dropStart? pat (pat ++ rest) = some rest := by
  induction pat with
  | nil => rfl
  | cons p ps ih => simp [dropStart?, ih]

/-! ## Replacing a text -/

/-- Every occurrence of `pat` is replaced, from left to right and without looking at what was put
in. An empty `pat` replaces nothing. -/
def replaceAll (pat new : List Char) (cs : List Char) : List Char :=
  match cs with
  | [] => []
  | c :: rest =>
    match _h : dropStart? pat (c :: rest) with
    | some after =>
      if _hp : pat = [] then c :: replaceAll pat new rest
      else new ++ replaceAll pat new after
    | none => c :: replaceAll pat new rest
termination_by cs.length
decreasing_by
  · simp
  · have e := congrArg List.length (eq_append_of_dropStart? _h)
    have : 0 < pat.length := List.length_pos_iff.2 _hp
    simp only [List.length_append] at e
    omega
  · simp

/-- Replacing in nothing gives nothing. -/
theorem replaceAll_nil (pat new : List Char) : replaceAll pat new [] = [] := by
  rw [replaceAll]

/-- An occurrence at the front is replaced. -/
theorem replaceAll_append {pat : List Char} (hp : pat ≠ []) (new rest : List Char) :
    replaceAll pat new (pat ++ rest) = new ++ replaceAll pat new rest := by
  cases pat with
  | nil => exact absurd rfl hp
  | cons p ps =>
    rw [List.cons_append, replaceAll]
    have h : dropStart? (p :: ps) (p :: (ps ++ rest)) = some rest := dropStart?_append (p :: ps) rest
    split
    · next after h' =>
      rw [h] at h'
      simp_all
    · next h' => simp [h] at h'

/-- A character at which no occurrence begins stays. -/
theorem replaceAll_cons_of_none {pat new rest : List Char} {c : Char}
    (h : dropStart? pat (c :: rest) = none) :
    replaceAll pat new (c :: rest) = c :: replaceAll pat new rest := by
  rw [replaceAll]
  split
  · next h' => simp [h] at h'
  · rfl

/-- A text with every occurrence of `pat` replaced by `new`. -/
def replace (s pat new : String) : String :=
  String.ofList (replaceAll pat.toList new.toList s.toList)

end Deskwork.Text
