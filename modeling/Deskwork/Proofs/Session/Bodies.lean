/-
# The Bodies of Steps

The bodies of branches and of the ends of loops are made of touches, and those of all other actions
are plain; the body of a probe is made of meddlings. There is one lemma for each kind, after the
recursion of its body.
-/
import Deskwork.Proofs.Session.Touches

namespace Deskwork

open Relation StepM

/-! ## Input -/

theorem MouseClick.plain_send (m : MouseClick) (input : Availability) :
    Plain (m.send input) := by
  have hclick : Plain (do
      StepM.happen (.pointed m.x m.y)
      StepM.sleep 0.05
      StepM.happen (.clicked m.click.button m.click.count)
      StepM.sleepMillis m.delay) :=
    plain_bind (plain_happen rfl) fun _ => plain_bind (plain_sleep _) fun _ =>
      plain_bind (plain_happen rfl) fun _ => plain_sleepMillis _
  unfold send
  exact plain_ite (plain_bind (plain_throw rfl) fun _ => hclick) hclick

theorem MouseClick.plain_sendBySubstitute (m : MouseClick) (substitute : Availability) :
    Plain (m.sendBySubstitute substitute) := by
  unfold sendBySubstitute
  cases substitute.substituteFault with
  | some why => exact plain_bind (plain_throw rfl) fun _ => plain_sleepMillis _
  | none => exact plain_bind (plain_happen rfl) fun _ => plain_sleepMillis _

theorem MouseClick.plain_run (m : MouseClick) : Plain m.run := by
  unfold run
  refine plain_bind (plain_info _) fun _ => plain_get (fun _ _ _ => rfl) fun s => plain_ite ?_ ?_
  · exact m.plain_sendBySubstitute _
  · refine plain_tryCatch (m.plain_send _) fun f => ?_
    exact plain_bind (plain_warn _) fun _ => m.plain_sendBySubstitute _

theorem Keyboard.plain_sendDown (driver : KeyDriver) (key : Key) : Plain (sendDown driver key) := by
  unfold sendDown
  split
  · exact plain_throw rfl
  · exact plain_happen rfl

theorem Keyboard.plain_sendUp (driver : KeyDriver) (key : Key) : Plain (sendUp driver key) := by
  unfold sendUp
  split
  · exact plain_throw rfl
  · exact plain_happen rfl

theorem Keyboard.plain_typeByKeys (k : Keyboard) (machine : Machine) :
    Plain (k.typeByKeys machine) := by
  unfold typeByKeys
  split
  · exact plain_throw rfl
  · exact plain_throw rfl
  · refine plain_bind (plain_forM (fun c => ?_) _) fun _ => plain_sleep _
    exact plain_bind (plain_sendDown _ _) fun _ => plain_bind (plain_sendUp _ _) fun _ =>
      plain_sleepMillis _

theorem Keyboard.plain_typeText (k : Keyboard) : Plain k.typeText := by
  unfold typeText
  refine plain_bind (plain_info _) fun _ => plain_get (fun _ _ _ => rfl) fun s => plain_ite ?_ ?_
  · have hpause : Spares Fault.isRouting k.typingPause := (spares_mapError (fun _ => rfl) _).map _
    cases hp : k.typingPause with
    | error f => exact plain_raise hpause hp
    | ok pause =>
      refine plain_ite ?_ ?_
      · exact plain_bind (plain_happen rfl) fun _ => plain_sleep _
      · exact plain_bind (plain_warn _) fun _ => k.plain_typeByKeys _
  · exact k.plain_typeByKeys _

theorem Keyboard.plain_strike (driver : KeyDriver) (delay : Int) (held : List Key) (main : Key) :
    Plain (strike driver delay held main) := by
  unfold strike
  refine plain_bind (plain_forM (fun key => ?_) held) fun _ => ?_
  · exact plain_bind (plain_sendDown _ _) fun _ => plain_sleep _
  refine plain_bind (plain_sendDown _ _) fun _ => plain_bind (plain_sleepMillis _) fun _ =>
    plain_bind (plain_sendUp _ _) fun _ => ?_
  refine plain_bind (plain_forM (fun key => ?_) held.reverse) fun _ => plain_sleep _
  exact plain_bind (plain_sendUp _ _) fun _ => plain_sleep _

/-- A name that is no key is a failure of the step. -/
theorem Keyboard.spares_resolve (driver : KeyDriver) (names : List String) (key : String) :
    Spares Fault.isRouting (resolve driver names key) := by
  have hname (name : String) : Spares Fault.isRouting (driver.keyOf name) := by
    unfold KeyDriver.keyOf
    dsimp only
    split
    · exact spares_ok _
    · split
      · exact spares_ok _
      · exact spares_error rfl
  have hnames : Spares Fault.isRouting (names.mapM driver.keyOf) := by
    induction names with
    | nil => exact spares_ok _
    | cons name names ih =>
      rw [List.mapM_cons]
      exact (hname name).bind fun _ => ih.bind fun _ => spares_ok _
  exact hnames.bind fun _ => (hname key).bind fun _ => spares_ok _

theorem Keyboard.plain_pressKeys (k : Keyboard) (names : List String) :
    Plain (k.pressKeys names) := by
  unfold pressKeys
  refine plain_bind (plain_info _) fun _ => plain_get (fun _ _ _ => rfl) fun s => ?_
  dsimp only
  split
  · split
    · exact plain_throw rfl
    · exact plain_happen rfl
  · exact plain_throw rfl
  · split
    · next f hf => exact plain_raise (spares_resolve _ _ _) hf
    · exact plain_strike _ _ _ _

theorem Keyboard.plain_run (k : Keyboard) : Plain k.run := by
  unfold run
  split
  · exact k.plain_typeText
  · exact k.plain_pressKeys []
  · have hheld : Spares Fault.isRouting k.held := by
      unfold held
      split
      · exact spares_ok _
      · exact spares_error rfl
    split
    · next f hf => exact plain_raise hheld hf
    · exact k.plain_pressKeys _

/-! ## Waiting and windows -/

theorem Waiting.plain_findWindow (title : String) : Plain (findWindow title) :=
  plain_get (fun _ _ _ => rfl) fun _ => plain_ite (plain_pure _) (plain_throw rfl)

theorem Waiting.plain_watch (title : String) (deadline : Float) (turns : Nat) :
    Plain (watch title deadline turns) := by
  induction turns with
  | zero => exact plain_throw rfl
  | succ turns ih =>
    unfold watch
    refine plain_get (fun _ _ _ => rfl) fun s => plain_ite ?_ (plain_throw rfl)
    refine plain_bind (plain_findWindow title) fun window => ?_
    cases window with
    | some w => exact plain_info _
    | none => exact plain_bind (plain_sleep _) fun _ => ih

theorem Waiting.plain_run (w : Waiting) : Plain w.run := by
  unfold run
  split
  · exact plain_bind (plain_info _) fun _ => plain_sleepMillis _
  · refine plain_bind (plain_info _) fun _ => ?_
    split
    · exact plain_throw rfl
    · exact plain_get (fun _ _ _ => rfl) fun s => plain_watch _ _ _

/-- The session after a program was started. -/
def Windowing.started (w : Windowing) (arguments : List String) (s : Session) : Session :=
  { s with desk := { s.desk with machine :=
    { s.desk.machine.record (.launched (w.program :: arguments)) with
      nextProcess := s.desk.machine.nextProcess + 1 } } }

/-- A program that can be started gets the number of the next process. -/
theorem Windowing.runIn_start (w : Windowing) (arguments : List String) (s : Session) :
    runIn s (w.start arguments) =
      if s.desk.machine.missingPrograms.contains w.program then
        (.error (.failed (.notStarted w.program (.refused .missing w.program none))), s)
      else (.ok ⟨s.desk.machine.nextProcess, w.path.stem⟩, w.started arguments s) := by
  unfold start
  show runIn s (if s.desk.machine.missingPrograms.contains w.program = true then _ else _) = _
  split
  · rfl
  · rfl

theorem Windowing.plain_start (w : Windowing) (arguments : List String) :
    Plain (w.start arguments) := by
  refine ⟨fun s => ?_, fun g kinds s => ?_, fun s => ?_,
    .of_image (fun s => ?_) fun s => ?_⟩
  · rw [w.runIn_start]
    split
    · exact .refl
    · exact (ReflTransGen.single (.happens s (.launched (w.program :: arguments)) rfl)).tail
        (.turns _ _ _ _ (s.desk.machine.nextProcess + 1) _)
  · rw [w.runIn_start, w.runIn_start, show (disguise g kinds s).desk = s.desk from rfl]
    split
    · rfl
    · rfl
  · rw [w.runIn_start]
    split
    · exact spares_error rfl
    · exact spares_ok _
  · rw [w.runIn_start, w.runIn_start, show s.hushed.desk.machine.missingPrograms =
      s.desk.machine.missingPrograms from rfl]
    split
    · rfl
    · rfl
  · rw [w.runIn_start, w.runIn_start, show s.hushed.desk.machine.missingPrograms =
      s.desk.machine.missingPrograms from rfl]
    split
    · exact s.hushed_hushed
    · simp [started, Session.hushed, Desk.hushed, Machine.record, Event.isTalk]

theorem Windowing.plain_launch (w : Windowing) : Plain w.launch := by
  unfold launch
  split
  · exact plain_throw rfl
  · refine plain_bind (w.plain_start _) fun p => plain_get (fun _ _ _ => rfl) fun s => ?_
    refine plain_bind ?_ fun _ => plain_bind (plain_info _) fun _ => plain_sleepMillis _
    exact plain_change (fun t => .keeps t s.position p) (fun _ _ _ => rfl) fun t =>
      t.hushed_context _

theorem Windowing.plain_findTarget (w : Windowing) : Plain w.findTarget := by
  unfold findTarget
  split
  · exact Waiting.plain_findWindow _
  · refine plain_bind plain_use fun _ => plain_get (fun _ _ _ => rfl) fun s => ?_
    split
    · exact plain_throw rfl
    · refine plain_get (fun _ _ _ => rfl) fun s => plain_ite ?_ (plain_throw rfl)
      exact plain_bind (plain_happen rfl) fun _ => plain_get (fun _ _ _ => rfl) fun _ => plain_pure _

theorem Windowing.plain_run (w : Windowing) : Plain w.run := by
  unfold run
  split
  · exact w.plain_launch
  · unfold handle
    refine plain_bind w.plain_findTarget fun window => ?_
    split
    · exact plain_throw rfl
    · exact plain_bind (plain_forM (fun _ => plain_happen rfl) _) fun _ => plain_sleep _

/-! ## Files -/

theorem FileTransfer.plain_resolve (f : FileTransfer) : Plain f.resolve := by
  unfold resolve
  dsimp only
  refine plain_bind (plain_askFiles _) fun found => ?_
  -- What is asked next is the same whether the source is there or not, and the errors are all plain.
  refine plain_ite (plain_bind (plain_throw rfl) fun _ => ?_) ?_
  all_goals
    refine plain_bind (plain_askFiles _) fun b => plain_bind (plain_askFiles _) fun same => ?_
    refine plain_ite (plain_bind (plain_throw rfl) fun _ => ?_) ?_
    all_goals
      refine plain_bind (plain_askFiles _) fun taken => ?_
      refine plain_ite (plain_bind (plain_throw rfl) fun _ => ?_) ?_
      all_goals
        refine plain_bind (plain_changeFiles _) fun r => ?_
        split
        · exact plain_pure _
        · exact plain_throw rfl

theorem FileTransfer.plain_run (f : FileTransfer) (v : TransferVerb) :
    Plain (f.run v) :=
  plain_bind f.plain_resolve fun _ => plain_bind (plain_tryFiles _ _) fun _ => plain_info _

theorem Deletion.plain_run (d : Deletion) : Plain d.run := by
  unfold run
  refine plain_bind (plain_tryAsk _ _) fun found => ?_
  have hrest : Plain (do
      StepM.tryFiles (.notDeleted d.path) d.remove
      StepM.info ("Deleted: " ++ d.path.toString)) :=
    plain_bind (plain_tryFiles _ _) fun _ => plain_info _
  exact plain_ite (plain_bind (plain_throw rfl) fun _ => hrest) hrest

theorem Renaming.plain_run (r : Renaming) : Plain r.run := by
  unfold run
  refine plain_bind (plain_askFiles _) fun found => ?_
  have hend (destination : Files.Path) : Plain (do
      StepM.tryFiles (.notRenamed r.path) fun t =>
        Files.outcome t (Files.replace t r.path destination)
      StepM.info ("Renamed: " ++ r.path.toString ++ " -> " ++ destination.toString)) :=
    plain_bind (plain_tryFiles _ _) fun _ => plain_info _
  have hrest : Plain (do
      let destination ← StepM.askFiles fun _ => r.destination
      if (← StepM.askFiles fun t => Files.exists? t destination) && !r.overwrite then
        throw (.failed (.destinationTaken destination))
      StepM.tryFiles (.notRenamed r.path) fun t =>
        Files.outcome t (Files.replace t r.path destination)
      StepM.info ("Renamed: " ++ r.path.toString ++ " -> " ++ destination.toString)) := by
    refine plain_bind (plain_askFiles _) fun d => plain_bind (plain_askFiles _) fun taken => ?_
    exact plain_ite (plain_bind (plain_throw rfl) fun _ => hend _) (hend _)
  exact plain_ite (plain_bind (plain_throw rfl) fun _ => hrest) hrest

theorem FolderCreation.plain_run (f : FolderCreation) : Plain f.run :=
  plain_bind (plain_tryFiles _ _) fun _ => plain_info _

theorem ExistenceCheck.plain_run (e : ExistenceCheck) : Plain e.run := by
  unfold run
  refine plain_bind (plain_askFiles _) fun answer => ?_
  have hend : Plain (
      if answer then StepM.info ("Exists: " ++ (Files.Path.ofString e.target).toString)
      else if e.required then throw (.failed (.absent (Files.Path.ofString e.target)))
      else StepM.info ("Does not exist: " ++ (Files.Path.ofString e.target).toString)) :=
    plain_ite (plain_info _) (plain_ite (plain_throw rfl) (plain_info _))
  exact plain_ite (plain_bind (plain_setVariable _ _) fun _ => hend) hend

/-! ## Control and messages -/

theorem Condition.plain_evaluate (c : Condition) (left right : String) :
    Plain (c.evaluate left right) := by
  unfold evaluate
  split
  · exact plain_pure _
  · exact plain_bind (plain_warn _) fun _ => plain_pure _

theorem Assignment.plain_run (a : Assignment) : Plain a.run := by
  unfold run
  refine plain_bind (plain_value? _) fun current => ?_
  split
  · exact plain_throw rfl
  · exact plain_bind (plain_setVariable _ _) fun _ => plain_info _

/-- What a branch does when its condition holds. -/
theorem Branch.within_transfer (b : Branch) : Within Touch b.transfer := by
  unfold transfer
  split
  · exact within_pure _
  all_goals exact within_request _ _

theorem Branch.blind_transfer (b : Branch) : Blind b.transfer := by
  unfold transfer
  split
  · exact fun _ _ => ignores_pure _
  all_goals exact blind_request _ _

theorem Branch.within_run (b : Branch) : Within Touch b.run := by
  unfold run
  refine within_bind (b.condition.plain_evaluate _ _).within fun result =>
    within_bind (plain_info _).within fun _ => ?_
  split
  · exact b.within_transfer
  · exact within_pure _

theorem Branch.blind_run (b : Branch) : Blind b.run := by
  intro n kinds
  unfold run
  refine ignores_bind ((b.condition.plain_evaluate _ _).blind n kinds) fun result =>
    ignores_bind ((plain_info _).blind n kinds) fun _ => ?_
  split
  · exact b.blind_transfer n kinds
  · exact ignores_pure _

theorem Branch.heedless_run (b : Branch) : Heedless b.run := by
  have htransfer : Heedless b.transfer := by
    unfold transfer
    split
    · exact heedless_pure _
    all_goals exact heedless_request _ _
  unfold run
  refine matches_bind (b.condition.plain_evaluate _ _).heedless fun result =>
    matches_bind (plain_info _).heedless fun _ => ?_
  split
  · exact htransfer
  · exact heedless_pure _

theorem LoopEnd.within_setIteration (n : Int) : Within Touch (setIteration n) :=
  within_change fun s => .marks s s.progress.lastError s.progress.control n

theorem LoopEnd.blind_setIteration (n : Int) : Blind (setIteration n) := fun _ _ _ => rfl

theorem LoopEnd.heedless_setIteration (n : Int) : Heedless (setIteration n) :=
  heedless_change fun s => s.hushed_progress _

theorem LoopEnd.plain_leaves (l : LoopEnd) (n : Int) : Plain (l.leaves n) := by
  unfold leaves
  split
  · exact Condition.plain_evaluate _ _ _
  · exact plain_pure _

/-- A repetition counted: the loop is left, or control is sent back. -/
def LoopEnd.count (l : LoopEnd) (n : Int) : StepM Unit := do
  setIteration n
  if ← l.leaves n then
    StepM.info ("Leaving loop after " ++ Number.intText n ++ " iteration(s)")
    setIteration 0
  else
    StepM.info ("Loop iteration " ++ Number.intText n ++ " done, continuing")
    StepM.request .loopBack l.start

theorem LoopEnd.within_count (l : LoopEnd) (n : Int) : Within Touch (l.count n) := by
  refine within_bind (within_setIteration _) fun _ =>
    within_bind (l.plain_leaves _).within fun b => ?_
  split
  · exact within_bind (plain_info _).within fun _ => within_setIteration 0
  · exact within_bind (plain_info _).within fun _ => within_request _ _

theorem LoopEnd.blind_count (l : LoopEnd) (n : Int) : Blind (l.count n) := by
  intro k kinds
  refine ignores_bind (blind_setIteration _ k kinds) fun _ =>
    ignores_bind ((l.plain_leaves _).blind k kinds) fun b => ?_
  split
  · exact ignores_bind ((plain_info _).blind k kinds) fun _ => blind_setIteration 0 k kinds
  · exact ignores_bind ((plain_info _).blind k kinds) fun _ => blind_request _ _ k kinds

theorem LoopEnd.heedless_count (l : LoopEnd) (n : Int) : Heedless (l.count n) := by
  refine matches_bind (heedless_setIteration _) fun _ =>
    matches_bind (l.plain_leaves _).heedless fun b => ?_
  split
  · exact matches_bind (plain_info _).heedless fun _ => heedless_setIteration 0
  · exact matches_bind (plain_info _).heedless fun _ => heedless_request _ _

theorem LoopEnd.within_run (l : LoopEnd) : Within Touch l.run := by
  refine within_bind (within_lookUp _ _) fun _ => within_bind within_get fun s => ?_
  dsimp only
  split
  · exact within_bind (within_throw _) fun _ => l.within_count _
  · exact l.within_count _

/-- The end of a loop looks at other steps only to find its start. -/
theorem LoopEnd.ignores_run {l : LoopEnd} {k : Nat}
    {kinds : Option (List String) → Option (List String)}
    (h : ∀ known, expectKind l.start (some startTag) (kinds known) =
      expectKind l.start (some startTag) known) :
    Ignores (beside k kinds) l.run := by
  refine ignores_bind (ignores_lookUp h) fun _ => ignores_get (fun _ => rfl) fun s => ?_
  dsimp only
  split
  · exact ignores_bind (ignores_throw _) fun _ => l.blind_count _ k kinds
  · exact l.blind_count _ k kinds

theorem LoopEnd.heedless_run (l : LoopEnd) : Heedless l.run := by
  refine matches_bind (heedless_lookUp _ _) fun _ => heedless_get (fun _ => rfl) fun s => ?_
  dsimp only
  split
  · exact matches_bind (heedless_throw _) fun _ => l.heedless_count _
  · exact l.heedless_count _

/-- The network has given an answer, and nothing else of the machine differs. -/
theorem nextReply_eq (m : Machine) : ∃ replies, m.nextReply.2 = { m with replies := replies } := by
  unfold Machine.nextReply
  rcases m.replies with _ | ⟨r, _ | ⟨r', rest⟩⟩
  · exact ⟨m.replies, rfl⟩
  · exact ⟨m.replies, rfl⟩
  · exact ⟨r' :: rest, rfl⟩

/-- Sending a message happens, and then the network has given an answer. -/
theorem touches_post (s : Session) (url body : String) (timeout : Number.Amount) :
    ReflTransGen Touch s { s with desk := { s.desk with
      machine := (s.desk.machine.post url body timeout).2 } } := by
  have hpost : (s.desk.machine.post url body timeout).2
      = ((s.desk.machine.record (.posting url timeout)).record
        (.requested "POST" messageType body)).nextReply.2 := by
    unfold Machine.post
    dsimp only
    split
    · next h => rw [h]
    · next h => rw [h]
  obtain ⟨replies, hreplies⟩ := nextReply_eq ((s.desk.machine.record (.posting url timeout)).record
    (.requested "POST" messageType body))
  rw [hpost, hreplies]
  exact .head (.happens s (.posting url timeout) rfl) (.head (.happens _
    (.requested "POST" messageType body) rfl) (.single (.turns _ _ _ _ _ replies)))

/-- A message is sent in the same way whatever the journal says, and it is noted. -/
theorem post_journal (m : Machine) (journal : List Event) (url body : String)
    (timeout : Number.Amount) :
    ({ m with journal := journal } : Machine).post url body timeout =
        ((m.post url body timeout).1, { (m.post url body timeout).2 with
          journal := .requested "POST" messageType body :: .posting url timeout :: journal }) ∧
      (m.post url body timeout).2.journal =
        .requested "POST" messageType body :: .posting url timeout :: m.journal := by
  unfold Machine.post Machine.nextReply
  dsimp only [Machine.record]
  rcases m.replies with _ | ⟨_ | _, _ | _⟩
  all_goals exact ⟨rfl, rfl⟩

/-- Sending a message does not heed the talk. -/
theorem hushed_post (d : Desk) (url body : String) (timeout : Number.Amount) :
    (d.hushed.machine.post url body timeout).1 = (d.machine.post url body timeout).1 ∧
      ({ d.hushed with machine := (d.hushed.machine.post url body timeout).2 } : Desk).hushed =
        ({ d with machine := (d.machine.post url body timeout).2 } : Desk).hushed := by
  obtain ⟨hsame, hjournal⟩ := post_journal d.machine d.hushed.machine.journal url body timeout
  have hmachine : d.hushed.machine.post url body timeout = _ := hsame
  rw [hmachine]
  refine ⟨rfl, ?_⟩
  unfold Desk.hushed
  dsimp only
  rw [hjournal]
  simp [Event.isTalk]

/-- What the network raises is no fault about where control goes. -/
theorem Webhook.isRouting_faultOf (u : Unanswered) : (faultOf u).isRouting = false := by
  unfold faultOf
  split
  · rfl
  · split
    · rfl
    · exact Fault.isRouting_ofForeign u.why

theorem Webhook.plain_run (w : Webhook) : Plain w.run := by
  have hseconds : Spares Fault.isRouting w.seconds := (spares_mapError (fun _ => rfl) _).map _
  unfold run
  refine plain_bind (plain_info _) fun _ => plain_bind (plain_debug _) fun _ => ?_
  split
  · next f hf => exact plain_raise hseconds hf
  · next seconds _ =>
    refine plain_replace (f := fun s => { s with desk := { s.desk with
        machine := (s.desk.machine.post w.url w.body (.real seconds)).2 } })
      (fun s => touches_post s w.url w.body (.real seconds)) (fun _ _ _ => rfl) (fun s => ?_)
      (fun g kinds s => ?_) fun s => ?_
    · exact congrArg (fun d => ({ s with desk := d } : Session)) (hushed_post s.desk _ _ _).2
    · have hposted : ((disguise g kinds s.hushed).desk.machine.post w.url w.body (.real seconds)).1 =
        (s.desk.machine.post w.url w.body (.real seconds)).1 := (hushed_post s.desk _ _ _).1
      unfold Machine.post at hposted
      rw [hposted]
    split
    · exact plain_throw (isRouting_faultOf _)
    · exact plain_ite (plain_info _) (plain_bind (plain_debug _) fun _ => plain_throw rfl)

/-! ## All of them -/

/-- The action is no branch and no end of a loop: it does not mark where control goes. -/
def Action.IsPlain : Action → Prop
  | .branch _ | .loopEnd _ => False
  | _ => True

/-- The bodies of all other actions are plain. -/
theorem Action.plain_run {a : Action} (h : a.IsPlain) : Plain a.run := by
  cases a with
  | mouseClick m => exact m.plain_run
  | keyboard k => exact k.plain_run
  | wait w => exact w.plain_run
  | window w => exact w.plain_run
  | copyFile f => exact f.plain_run .copy
  | moveFile f => exact f.plain_run .move
  | delete d => exact d.plain_run
  | rename r => exact r.plain_run
  | makeFolder f => exact f.plain_run
  | fileExists e => exact e.plain_run
  | assign a => exact a.plain_run
  | branch b => exact h.elim
  | loopStart l => exact plain_debug _
  | loopEnd l => exact h.elim
  | webhook w => exact w.plain_run

/-- An action is a branch, the end of a loop, or plain. -/
theorem Action.kind_cases (a : Action) :
    (∃ b, a = .branch b) ∨ (∃ l, a = .loopEnd l) ∨ a.IsPlain := by
  cases a with
  | branch b => exact .inl ⟨b, rfl⟩
  | loopEnd l => exact .inr (.inl ⟨l, rfl⟩)
  | _ => exact .inr (.inr trivial)

/-- The body of an action is made of touches. -/
theorem Action.within_run (a : Action) : Within Touch a.run := by
  obtain ⟨b, rfl⟩ | ⟨l, rfl⟩ | h := a.kind_cases
  · exact b.within_run
  · exact l.within_run
  · exact (plain_run h).within

/-- The body of an action does not look at the count of visits, and only the end of a loop looks at
another step: at the one where the loop should start. -/
theorem Action.ignores_run {a : Action} {k : Nat}
    {kinds : Option (List String) → Option (List String)}
    (h : ∀ l, a = .loopEnd l → ∀ known,
      expectKind l.start (some LoopEnd.startTag) (kinds known) =
        expectKind l.start (some LoopEnd.startTag) known) :
    Ignores (beside k kinds) a.run := by
  obtain ⟨b, rfl⟩ | ⟨l, rfl⟩ | hplain := a.kind_cases
  · exact b.blind_run k kinds
  · exact LoopEnd.ignores_run (h l rfl)
  · exact (plain_run hplain).blind k kinds

/-- The body of an action does not heed the talk. -/
theorem Action.heedless_run (a : Action) : Heedless a.run := by
  obtain ⟨b, rfl⟩ | ⟨l, rfl⟩ | h := a.kind_cases
  · exact b.heedless_run
  · exact l.heedless_run
  · exact (plain_run h).heedless

/-- A program that is made of touches is made of meddlings. -/
theorem StepM.Within.meddles {α : Type} {x : StepM α} (h : Within Touch x) : Within Meddling x :=
  h.mono Touch.le_meddling

theorem Deed.within_run (d : Deed) : Within Meddling d.run := by
  cases d with
  | reenter =>
    refine within_bind within_get fun s => ?_
    split
    · refine within_bind (within_change fun t => .touches (.logs t _ _ _)) fun _ => ?_
      exact within_change fun t => .reenters t _ _
    · exact within_change fun t => .reenters t _ _
  | lookUp position =>
    exact (within_bind (within_lookUp _ _) fun _ => (plain_happen rfl).within).meddles
  | request transfer target => exact (within_request _ _).meddles
  | setVariable name value => exact (plain_setVariable _ _).within.meddles
  | openResource key handle => exact fun s => .single (.registers s key handle)
  | disable position =>
    refine within_bind (within_lookUp _ _).meddles fun _ s => ?_
    exact .single (.disables s position)
  | fail why => exact within_throw why

/-- The body of a probe is made of meddlings. -/
theorem Probe.within_run (p : Probe) : Within Meddling p.run := by
  refine within_bind within_get fun s => within_bind ?_ fun _ => within_forM Deed.within_run _
  exact (plain_happen rfl).within.meddles

/-- The body of any work is made of meddlings. -/
theorem Work.within_run (w : Work) : Within Meddling w.run := by
  cases w with
  | action a => exact a.within_run.meddles
  | probe p => exact p.within_run
  | bare => exact within_throw _

end Deskwork
