/-
# Weekdays

The seven days of the week, their names, and their numbers from Monday on.
-/
import Deskwork.Data.Convert

namespace Deskwork.Schedule

/-- A day of the week. -/
inductive Weekday where
  | monday
  | tuesday
  | wednesday
  | thursday
  | friday
  | saturday
  | sunday
  deriving DecidableEq, Repr

namespace Weekday

/-- All weekdays, in order. -/
def all : List Weekday :=
  [.monday, .tuesday, .wednesday, .thursday, .friday, .saturday, .sunday]

/-- The number of a weekday, from 0 for Monday. -/
def number : Weekday → Nat
  | .monday => 0
  | .tuesday => 1
  | .wednesday => 2
  | .thursday => 3
  | .friday => 4
  | .saturday => 5
  | .sunday => 6

/-- The name of a weekday. -/
def name : Weekday → String
  | .monday => "MONDAY"
  | .tuesday => "TUESDAY"
  | .wednesday => "WEDNESDAY"
  | .thursday => "THURSDAY"
  | .friday => "FRIDAY"
  | .saturday => "SATURDAY"
  | .sunday => "SUNDAY"

/-- The short name of a weekday. -/
def short : Weekday → String
  | .monday => "Mon"
  | .tuesday => "Tue"
  | .wednesday => "Wed"
  | .thursday => "Thu"
  | .friday => "Fri"
  | .saturday => "Sat"
  | .sunday => "Sun"

/-- The weekday with a name. -/
def ofName? (name : String) : Option Weekday :=
  all.find? fun d => d.name == name

/-- Every weekday is found by its name. -/
theorem ofName?_name (d : Weekday) : ofName? d.name = some d := by
  cases d <;> decide

/-- The weekdays by their numbers. -/
def choice : Choice Weekday :=
  ⟨"Weekday", all, fun d => .int d.number⟩

/-- The weekdays of a list in the order of the week. -/
def sorted (days : List Weekday) : List Weekday :=
  days.mergeSort fun a b => a.number ≤ b.number

end Weekday

end Deskwork.Schedule
