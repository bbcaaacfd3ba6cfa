/-
# Windows

Finding windows by their titles and by their processes.
-/
import Deskwork.Machine.Basic
import Deskwork.Text.Case
import Deskwork.Text.Substitute

namespace Deskwork

namespace Window

/-- The title of a window holds a text, whatever the case; a window without a title has the empty
one. -/
def titled (w : Window) (text : String) : Bool :=
  Text.holds (Text.lower (w.title.getD "")) (Text.lower text)

/-- A window is listed at a reading of the running clock. -/
def listedAt (w : Window) (reading : Float) : Bool :=
  w.since.toFloat <= reading

end Window

namespace Machine

/-- The first listed window whose title holds a text. -/
def windowTitled (m : Machine) (text : String) : Option Window :=
  m.windows.find? fun w => w.listedAt m.running && w.titled text

/-- The first window of a process, listed or not. -/
def windowOf (m : Machine) (process : Int) : Option Window :=
  m.windows.find? fun w => w.process == process

end Machine

end Deskwork
