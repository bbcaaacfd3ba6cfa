/-
# Actions

The kinds of actions that a script can hold, with what they have in common: a tag, a name, a
description, their data, references to other steps, template fields, a check and a body.
-/
import Deskwork.Step.Branch
import Deskwork.Step.FileSystem
import Deskwork.Step.Keyboard
import Deskwork.Step.Loop
import Deskwork.Step.Mouse
import Deskwork.Step.Variable
import Deskwork.Step.Waiting
import Deskwork.Step.Webhook
import Deskwork.Step.Windowing

namespace Deskwork

/-! ## Kinds -/

/-- What a script can do. -/
inductive Action where
  | mouseClick (m : MouseClick)
  | keyboard (k : Keyboard)
  | wait (w : Waiting)
  | window (w : Windowing)
  | copyFile (f : FileTransfer)
  | moveFile (f : FileTransfer)
  | delete (d : Deletion)
  | rename (r : Renaming)
  | makeFolder (f : FolderCreation)
  | fileExists (e : ExistenceCheck)
  | assign (a : Assignment)
  | branch (b : Branch)
  | loopStart (l : LoopStart)
  | loopEnd (l : LoopEnd)
  | webhook (w : Webhook)
  deriving DecidableEq

namespace Action

/-- The tag of an action. -/
def tag : Action → String
  | .mouseClick _ => "mouse_click"
  | .keyboard _ => "keyboard"
  | .wait _ => "wait"
  | .window _ => "window"
  | .copyFile _ => "file_copy"
  | .moveFile _ => "file_move"
  | .delete _ => "file_delete"
  | .rename _ => "file_rename"
  | .makeFolder _ => "folder_create"
  | .fileExists _ => "file_exists"
  | .assign _ => "variable_set"
  | .branch _ => "if"
  | .loopStart _ => LoopEnd.startTag
  | .loopEnd _ => "loop_end"
  | .webhook _ => "webhook"

/-- The name of an action. -/
def name : Action → String
  | .mouseClick _ => "Mouse click"
  | .keyboard k => k.name
  | .wait w => w.name
  | .window w => w.name
  | .copyFile f => f.name .copy
  | .moveFile f => f.name .move
  | .delete d => d.name
  | .rename r => r.name
  | .makeFolder _ => "Create folder"
  | .fileExists e => e.name
  | .assign _ => "Set variable"
  | .branch _ => "If"
  | .loopStart _ => "Loop start"
  | .loopEnd _ => "Loop end"
  | .webhook _ => "Webhook notification"

/-- The text that describes an action. -/
def describe : Action → Except Fault String
  | .mouseClick m => .ok m.describe
  | .keyboard k => k.describe
  | .wait w => .ok w.describe
  | .window w => w.describe
  | .copyFile f | .moveFile f => .ok f.describe
  | .delete d => .ok d.describe
  | .rename r => .ok r.describe
  | .makeFolder f => .ok f.describe
  | .fileExists e => .ok e.describe
  | .assign a => .ok a.describe
  | .branch b => .ok b.describe
  | .loopStart l => .ok l.describe
  | .loopEnd l => .ok l.describe
  | .webhook w => .ok w.describe

/-! ## Data -/

/-- How the actions of each tag are read from the fields of their data. -/
def readers : List (String × (List (String × Value) → Except Fault Action)) :=
  [("mouse_click", fun fs => .mouseClick <$> MouseClick.ofFields fs),
    ("keyboard", fun fs => .keyboard <$> Keyboard.ofFields fs),
    ("wait", fun fs => .wait <$> Waiting.ofFields fs),
    ("window", fun fs => .window <$> Windowing.ofFields fs),
    ("variable_set", fun fs => .assign <$> Assignment.ofFields fs),
    ("if", fun fs => .branch <$> Branch.ofFields fs),
    (LoopEnd.startTag, fun fs => .loopStart <$> LoopStart.ofFields fs),
    ("loop_end", fun fs => .loopEnd <$> LoopEnd.ofFields fs),
    ("file_copy", fun fs => .copyFile <$> FileTransfer.ofFields fs),
    ("file_move", fun fs => .moveFile <$> FileTransfer.ofFields fs),
    ("file_delete", fun fs => .delete <$> Deletion.ofFields fs),
    ("file_rename", fun fs => .rename <$> Renaming.ofFields fs),
    ("folder_create", fun fs => .makeFolder <$> FolderCreation.ofFields fs),
    ("file_exists", fun fs => .fileExists <$> ExistenceCheck.ofFields fs),
    ("webhook", fun fs => .webhook <$> Webhook.ofFields fs)]

/-- The fields of an action as data. -/
def fields : Action → List (String × Value)
  | .mouseClick m => m.fields
  | .keyboard k => k.fields
  | .wait w => w.fields
  | .window w => w.fields
  | .copyFile f | .moveFile f => f.fields
  | .delete d => d.fields
  | .rename r => r.fields
  | .makeFolder f => f.fields
  | .fileExists e => e.fields
  | .assign a => a.fields
  | .branch b => b.fields
  | .loopStart l => l.fields
  | .loopEnd l => l.fields
  | .webhook w => w.fields

/-! ## References and templates -/

/-- The positions of other steps to which an action refers. -/
def references : Action → List Int
  | .window w => w.references
  | .branch b => b.references
  | .loopEnd l => [l.start]
  | _ => []

/-- The names of the fields in which templates are expanded. -/
def templateFields : Action → List String
  | .keyboard _ => ["text"]
  | .wait _ => ["window_title"]
  | .window _ => ["executable_path", "arguments", "window_title"]
  | .copyFile _ | .moveFile _ => ["source_path", "destination_path"]
  | .delete _ | .fileExists _ => ["target_path"]
  | .rename _ => ["source_path", "new_name"]
  | .makeFolder _ => ["folder_path"]
  | .assign _ => ["value"]
  | .branch _ | .loopEnd _ => ["left_value", "right_value"]
  | .webhook _ => ["webhook_url", "message", "custom_payload"]
  | .mouseClick _ | .loopStart _ => []

/-- An action with a template field overwritten. -/
def write (name : String) (c : Template.Content) : Action → Action
  | .keyboard k => .keyboard (k.write name c)
  | .wait w => .wait (w.write name c)
  | .window w => .window (w.write name c)
  | .copyFile f => .copyFile (f.write name c)
  | .moveFile f => .moveFile (f.write name c)
  | .delete d => .delete (d.write name c)
  | .rename r => .rename (r.write name c)
  | .makeFolder f => .makeFolder (f.write name c)
  | .fileExists e => .fileExists (e.write name c)
  | .assign a => .assign (a.write name c)
  | .branch b => .branch (b.write name c)
  | .loopEnd l => .loopEnd (l.write name c)
  | .webhook w => .webhook (w.write name c)
  | .mouseClick m => .mouseClick m
  | .loopStart l => .loopStart l

/-! ## Checking and running -/

/-- The fields of an action are valid. -/
def check : Action → Except Fault Unit
  | .mouseClick m => m.check
  | .keyboard k => k.check
  | .wait w => w.check
  | .window w => w.check
  | .copyFile f | .moveFile f => f.check
  | .delete d => d.check
  | .rename r => r.check
  | .makeFolder f => f.check
  | .fileExists e => e.check
  | .assign a => a.check
  | .branch b => b.check
  | .loopStart _ => .ok ()
  | .loopEnd l => l.check
  | .webhook w => w.check

/-- The body of an action. -/
def run : Action → StepM Unit
  | .mouseClick m => m.run
  | .keyboard k => k.run
  | .wait w => w.run
  | .window w => w.run
  | .copyFile f => f.run .copy
  | .moveFile f => f.run .move
  | .delete d => d.run
  | .rename r => r.run
  | .makeFolder f => f.run
  | .fileExists e => e.run
  | .assign a => a.run
  | .branch b => b.run
  | .loopStart _ => LoopStart.run
  | .loopEnd l => l.run
  | .webhook w => w.run

end Action

end Deskwork
