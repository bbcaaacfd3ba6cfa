/-
# Lines

The newline as the only end of line, and the place of a character by line and column.
-/

namespace Deskwork.Text

/-! ## One form of the end of line -/

/-- Carriage returns become newlines, together with a newline that follows them. -/
def unifyNewlines : List Char → List Char
  | [] => []
  | '\r' :: '\n' :: rest => '\n' :: unifyNewlines rest
  | c :: rest => (if c = '\r' then '\n' else c) :: unifyNewlines rest

/-- A text without carriage returns is left alone. -/
theorem unifyNewlines_of_not_mem {cs : List Char} (h : '\r' ∉ cs) : unifyNewlines cs = cs := by
  fun_induction unifyNewlines cs with
  | case1 => rfl
  | case2 rest ih => simp at h
  | case3 c rest hc ih =>
    have hne : c ≠ '\r' := fun e => h (by simp [e])
    have hrest : '\r' ∉ rest := fun e => h (by simp [e])
    simp [hne, ih hrest]

/-! ## Places -/

/-- The line and the column, both counted from one, of the character after `before`. -/
def lineAndColumn (before : List Char) : Nat × Nat :=
  (before.count '\n' + 1, (before.reverse.takeWhile (· ≠ '\n')).length + 1)

end Deskwork.Text
