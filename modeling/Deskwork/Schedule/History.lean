/-
# The History

The latest records, the oldest first. When there are more than it has room for, the oldest one is
given up.
-/
import Deskwork.Schedule.Record

namespace Deskwork.Schedule

/-- A history. -/
structure History where
  capacity : Nat
  /-- The records, the oldest first. -/
  records : List Record
  /-- There is room for a record. -/
  hasRoom : 0 < capacity
  /-- No more records are kept than there is room for. -/
  fits : records.length ≤ capacity

namespace History

/-- The greatest capacity. -/
def greatest : Int := 9223372036854775807

/-- The capacity of a history when nothing else is said. -/
def standardCapacity : Int := 100

/-- A history without records. -/
def new (capacity : Int) : Except Fault History :=
  if h : capacity < 1 then .error .noCapacity
  else if greatest < capacity then .error .hugeCapacity
  else .ok ⟨capacity.toNat, [], by omega, by simp⟩

/-- The history with another record, for which the oldest one is given up when there is no room. -/
def append (h : History) (r : Record) : History :=
  let all := h.records ++ [r]
  { h with
    records := all.drop (all.length - h.capacity)
    fits := by simp only [List.length_drop]; omega }

/-- The history without records. -/
def clear (h : History) : History :=
  { h with records := [], fits := by simp }

/-- The records of a task, the latest first. -/
def latestFor (h : History) (task : String) : List Record :=
  h.records.reverse.filter fun r => r.taskId == task

/-- As long as there is room, a record is added at the end. -/
theorem records_append_of_lt {h : History} (r : Record) (hr : h.records.length < h.capacity) :
    (h.append r).records = h.records ++ [r] := by
  have hz : h.records.length + 1 - h.capacity = 0 := by omega
  simp [append, hz]

end History

end Deskwork.Schedule
