/-
# The Context of a Run

What the steps of one run share: variables, opened resources and started programs. Clearing a
context closes every resource that is still open.
-/
import Deskwork.Data.Table
import Deskwork.Desk

namespace Deskwork

/-! ## Handles -/

/-- The handle of an opened resource. -/
inductive Handle where
  | closing (label : String)
  /-- It closes and then fails. -/
  | failing (label : String)
  /-- It need not be closed. -/
  | inert
  /-- It is no handle at all. -/
  | absent
  deriving DecidableEq, Repr

/-- The source of entries about the context. -/
def contextSource : String := "Context"

/-- A handle closed; a failure is logged. -/
def Handle.close (key : String) (d : Desk) : Handle → Desk
  | .closing label => d.record (.closed label)
  | .failing label =>
    (d.record (.closed label)).warn contextSource
      ("Failed to release resource '" ++ key ++ "': handle already gone")
  | .inert | .absent => d

/-! ## Contexts -/

/-- A started program, by the number of its process. -/
structure Process where
  number : Int
  name : String
  deriving DecidableEq, Repr

/-- The context of a run. -/
structure Context where
  bindings : List (String × Scalar)
  /-- The opened resources, in the order in which they were opened. -/
  resources : List (String × Handle)
  /-- The started programs by the positions of the steps that started them. -/
  processes : List (Int × Process)
  /-- Someone else takes care of pauses. -/
  hooked : Bool
  deriving DecidableEq

namespace Context

/-- A context without contents. -/
def empty (hooked : Bool) : Context := ⟨[], [], [], hooked⟩

/-- The context with a variable set. -/
def setVariable (c : Context) (name : String) (value : Scalar) : Context :=
  { c with bindings := Table.put c.bindings name value }

/-- The value of a variable. -/
def value? (c : Context) (name : String) : Option Scalar :=
  Table.get? c.bindings name

/-- The handle of a resource; what is no handle is not given out. -/
def resource? (c : Context) (key : String) : Option Handle :=
  (Table.get? c.resources key).filter (· ≠ .absent)

/-- A resource released: its entry goes, and its handle is closed. The result tells whether there
was a handle. -/
def release (c : Context) (d : Desk) (key : String) : Bool × Context × Desk :=
  let after := { c with resources := Table.remove c.resources key }
  match c.resource? key with
  | some h => (true, after, h.close key d)
  | none => (false, after, d)

/-- A resource registered: the handle that stood under its key is released before. -/
def register (c : Context) (d : Desk) (key : String) (h : Handle) : Context × Desk :=
  let (_, c, d) := c.release d key
  ({ c with resources := c.resources ++ [(key, h)] }, d)

/-- The handles closed one after the other. -/
def closeAll (d : Desk) (resources : List (String × Handle)) : Desk :=
  resources.foldl (fun d r => r.2.close r.1 d) d

/-- The context without contents, all of its handles closed. -/
def clear (c : Context) (d : Desk) : Context × Desk :=
  (empty c.hooked, closeAll d c.resources)

/-- A started program kept under the position of its step. -/
def keepProcess (c : Context) (position : Int) (p : Process) : Context :=
  { c with processes := Table.put c.processes position p }

/-- A pause: nothing happens for an amount that is not positive. -/
def sleep (c : Context) (d : Desk) (seconds : Number.Amount) : Except Fault Unit × Desk :=
  if !seconds.isPositive then (.ok (), d)
  else if c.hooked then (.ok (), d.record (.paused seconds))
  else
    let (r, m) := d.machine.sleep seconds
    (r, { d with machine := m })

/-- The seconds of some milliseconds, of which there are at least none. -/
def secondsOfMillis (ms : Number.Amount) : Except Fault Number.Amount :=
  match ms with
  | .whole n => ((Number.ofInt? (max n 0)).mapError .conversion).map fun x => .real (x / 1000.0)
  | .real x => .ok (.real ((if x < 0.0 then 0.0 else x) / 1000.0))

/-- A pause of some milliseconds. -/
def sleepMillis (c : Context) (d : Desk) (ms : Number.Amount) : Except Fault Unit × Desk :=
  match secondsOfMillis ms with
  | .ok seconds => c.sleep d seconds
  | .error f => (.error f, d)

end Context

end Deskwork
