/-
# The Store

Tasks kept in a file as a list. A file is either read as a whole or refused.
-/
import Deskwork.Schedule.Task

namespace Deskwork.Schedule.Store

open Deskwork.Files

/-! ## Reading -/

/-- A fault of a field that makes a file of tasks unreadable; other faults are not expected. -/
def wrap (index : Nat) (f : Fault) : Fault :=
  if f.isKey || f.isType || f.isValue then .badTask index f else f

/-- The task at a place of a file. -/
def readTask (index : Nat) (v : Value) (m : Machine) : Except Fault Task × Machine :=
  match v with
  | .object fields =>
    let (r, m) := Task.ofFields fields m
    (r.mapError (wrap index), m)
  | _ => (.error (.taskNotObject index), m)

/-- The tasks in some values, the first of which stands at `index`. -/
def readTasks (index : Nat) : List Value → Machine → Except Fault (List Task) × Machine
  | [], m => (.ok [], m)
  | v :: rest, m =>
    match readTask index v m with
    | (.error f, m) => (.error f, m)
    | (.ok t, m) =>
      let (others, m) := readTasks (index + 1) rest m
      (others.map fun ts => t :: ts, m)

/-- The tasks in a file; a missing file has none. -/
def load (m : Machine) (p : Path) : Except Fault (List Task) × Machine :=
  match exists? m.files p with
  | .error f => (.error (.file f), m)
  | .ok false => (.ok [], m)
  | .ok true =>
    match readValue m.files p with
    | .error why => (.error (.unreadableTasks p why), m)
    | .ok (.list items) => readTasks 1 items m
    | .ok _ => (.error (.tasksNotList p), m)

/-! ## Writing -/

/-- Tasks as data. -/
def toValue (tasks : List Task) : Value :=
  .list (tasks.map Task.toValue)

/-- Tasks saved in a file. -/
def save (m : Machine) (p : Path) (tasks : List Task) : Except Fault Unit × Machine :=
  let (r, files) := saveValue m.files p (toValue tasks)
  (r.mapError .file, { m with files := files })

end Deskwork.Schedule.Store
