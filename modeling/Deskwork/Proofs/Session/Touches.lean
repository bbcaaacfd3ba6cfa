/-
# What Steps Do to Their Sessions

The body of an action changes its session by a few kinds of touches only: entries of the log,
events, the state of the machine, variables and started programs, and the marks of its own progress
(`Action.within_run`). Most bodies do not even look at their progress or at the other steps
(`Plain`); only branches and the ends of loops mark it. Probes may also open resources and switch
steps off (`Probe.within_run`). Whatever the touches keep, whole attempts keep (`kept_guarded`).
-/
import Deskwork.Proofs.Desk
import Deskwork.Proofs.Results
import Deskwork.Proofs.Session.Programs

namespace Deskwork

open Relation

/-! ## Touches -/

/-- One thing that the body of an action does to its session. -/
inductive Touch : Session → Session → Prop where
  /-- An entry is logged. -/
  | logs (s : Session) (level : Level) (source message : String) :
      Touch s { s with desk := s.desk.logged level source message }
  /-- Something happens that does not belong to the run. -/
  | happens (s : Session) (event : Event) (unreserved : event.isReserved = false) :
      Touch s { s with desk := s.desk.record event }
  /-- The machine goes on: its files, its clocks, its processes and the answers of the network. -/
  | turns (s : Session) (files : Files.Tree) (wall : Time.Moment) (running : Float)
      (nextProcess : Int) (replies : List Reply) :
      Touch s { s with desk := { s.desk with machine := { s.desk.machine with
        files := files, wall := wall, running := running, nextProcess := nextProcess,
        replies := replies } } }
  /-- The context is used. -/
  | uses (s : Session) : Touch s { s with inUse := true }
  /-- A variable is set. -/
  | binds (s : Session) (name : String) (value : Scalar) :
      Touch s { s with context := s.context.setVariable name value, inUse := true }
  /-- A started program is kept. -/
  | keeps (s : Session) (position : Int) (p : Process) :
      Touch s { s with context := s.context.keepProcess position p, inUse := true }
  /-- The step marks its own progress. -/
  | marks (s : Session) (lastError : Option String) (control : Option Signal) (iteration : Int) :
      Touch s { s with progress := { s.progress with
        lastError := lastError, control := control, iteration := iteration } }

/-- One thing that the body of a probe does to its session. -/
inductive Meddling : Session → Session → Prop where
  /-- What an action may do. -/
  | touches {s t : Session} (h : Touch s t) : Meddling s t
  /-- A resource is registered. -/
  | registers (s : Session) (key : String) (handle : Handle) :
      Meddling s { s with
        desk := (s.context.register s.desk key handle).2
        context := (s.context.register s.desk key handle).1
        inUse := true }
  /-- A step is switched off. -/
  | disables (s : Session) (position : Int) :
      Meddling s { s with disabled := s.disabled ++ [position] }
  /-- An attempt to run the engine again has come to an end. -/
  | reenters (s : Session) (result running : Bool) :
      Meddling s { s with desk := s.desk.record (.reentered result running) }

theorem Touch.le_meddling : Touch ≤ Meddling := fun _ _ h => .touches h

/-! ### Touches without the talk -/

namespace Session

theorem hushed_logged (s : Session) (level : Level) (source message : String) :
    ({ s.hushed with desk := s.hushed.desk.logged level source message } : Session).hushed =
      ({ s with desk := s.desk.logged level source message } : Session).hushed := by
  simp [hushed]

theorem hushed_record (s : Session) (e : Event) :
    ({ s.hushed with desk := s.hushed.desk.record e } : Session).hushed =
      ({ s with desk := s.desk.record e } : Session).hushed := by
  simp [hushed]

theorem hushed_context (s : Session) (c : Context) :
    ({ s.hushed with context := c, inUse := true } : Session).hushed =
      ({ s with context := c, inUse := true } : Session).hushed := by
  simp [hushed]

theorem hushed_progress (s : Session) (p : Progress) :
    ({ s.hushed with progress := p } : Session).hushed =
      ({ s with progress := p } : Session).hushed := by
  simp [hushed]

theorem hushed_turns (s : Session) (files : Files.Tree) (wall : Time.Moment) (running : Float)
    (nextProcess : Int) (replies : List Reply) :
    ({ s.hushed with desk := { s.hushed.desk with machine := { s.hushed.desk.machine with
      files := files, wall := wall, running := running, nextProcess := nextProcess,
      replies := replies } } } : Session).hushed =
    ({ s with desk := { s.desk with machine := { s.desk.machine with
      files := files, wall := wall, running := running, nextProcess := nextProcess,
      replies := replies } } } : Session).hushed := by
  simp [hushed, Desk.hushed]

end Session

/-! ## Plain programs -/

namespace StepM

variable {α β : Type}

/-- The session with other progress of its step among other kinds of steps. -/
def disguise (g : Progress → Progress) (kinds : Option (List String)) (s : Session) : Session :=
  { s with progress := g s.progress, kinds := kinds }

/-- A program that minds its own business: it is made of touches, it neither looks at its progress
nor at the other steps, it raises no fault about where control goes, and it does not heed the talk
at the desk. -/
structure Plain (x : StepM α) : Prop where
  /-- It is made of touches. -/
  within : Within Touch x
  /-- It does not look at its progress and at the other steps. -/
  deaf : ∀ g kinds, Ignores (disguise g kinds) x
  /-- It raises no fault about where control goes. -/
  spares : ∀ s, Spares Fault.isRouting (runIn s x).1
  /-- It does not heed the talk. -/
  heedless : Heedless x

/-- What does not depend on the progress, the other steps and the talk does not depend on the talk
alone, and not on the others alone. -/
theorem of_disguise {γ : Type} {k : Session → γ}
    (hk : ∀ g kinds s, k (disguise g kinds s.hushed) = k s) :
    (∀ g kinds s, k (disguise g kinds s) = k s) ∧ ∀ s, k s.hushed = k s := by
  have hhushed (s : Session) : k s.hushed = k s := hk id s.kinds s
  exact ⟨fun g kinds s => (hhushed _).symm.trans (hk g kinds s), hhushed⟩

/-- A plain program leaves the progress of its step alone, and the other steps. -/
theorem Plain.kept {x : StepM α} (h : Plain x) (s : Session) :
    (runIn s x).2.progress = s.progress ∧ (runIn s x).2.kinds = s.kinds := by
  have hsame : disguise (fun _ => s.progress) s.kinds s = s := rfl
  have hrun := h.deaf (fun _ => s.progress) s.kinds s
  rw [hsame] at hrun
  rw [hrun]
  exact ⟨rfl, rfl⟩

/-- A plain program looks neither at the count of visits nor at the other steps. -/
theorem Plain.blind {x : StepM α} (h : Plain x) : Blind x := by
  intro k kinds s
  have hrun := h.deaf (fun p => { p with visits := p.visits + k }) (kinds s.kinds) s
  have hkinds := (h.kept s).2
  rw [show beside k kinds s =
    disguise (fun p => { p with visits := p.visits + k }) (kinds s.kinds) s from rfl, hrun]
  unfold disguise beside ahead
  rw [← hkinds]

theorem plain_pure (a : α) : Plain (pure a) :=
  ⟨within_pure a, fun _ _ => ignores_pure a, fun _ => spares_ok a, heedless_pure a⟩

theorem plain_throw {f : Fault} (h : f.isRouting = false) : Plain (throw f : StepM α) :=
  ⟨within_throw f, fun _ _ => ignores_throw f, fun _ => spares_error h, heedless_throw f⟩

/-- The error of a result that spares such faults may be raised. -/
theorem plain_raise {γ : Type} {r : Except Fault γ} {f : Fault} (hr : Spares Fault.isRouting r)
    (h : r = .error f) : Plain (throw f : StepM α) :=
  plain_throw (hr f h)

theorem plain_get {k : Session → StepM β}
    (hk : ∀ g kinds s, k (disguise g kinds s.hushed) = k s) (h : ∀ s, Plain (k s)) :
    Plain (get >>= k) := by
  obtain ⟨hdeaf, hheedless⟩ := of_disguise hk
  refine ⟨within_bind within_get fun s => (h s).within, fun g kinds => ?_, fun s => ?_,
    heedless_get hheedless fun s => (h s).heedless⟩
  · exact ignores_get (hdeaf g kinds) fun s => (h s).deaf g kinds
  · exact (h s).spares s

theorem plain_bind {x : StepM α} {k : α → StepM β} (hx : Plain x) (hk : ∀ a, Plain (k a)) :
    Plain (x >>= k) := by
  refine ⟨within_bind hx.within fun a => (hk a).within, fun g kinds => ?_, fun s => ?_,
    matches_bind hx.heedless fun a => (hk a).heedless⟩
  · exact ignores_bind (hx.deaf g kinds) fun a => (hk a).deaf g kinds
  · have h := hx.spares s
    rw [runIn_bind]
    generalize runIn s x = p at h ⊢
    obtain ⟨f | a, t⟩ := p
    · exact spares_error (h f rfl)
    · exact (hk a).spares t

theorem plain_tryCatch {x : StepM α} {k : Fault → StepM α} (hx : Plain x)
    (hk : ∀ f, Plain (k f)) : Plain (tryCatch x k) := by
  refine ⟨within_tryCatch hx.within fun f => (hk f).within, fun g kinds => ?_, fun s => ?_,
    matches_tryCatch hx.heedless fun f => (hk f).heedless⟩
  · exact ignores_tryCatch (hx.deaf g kinds) fun f => (hk f).deaf g kinds
  · rw [runIn_tryCatch]
    generalize runIn s x = p
    obtain ⟨f | a, t⟩ := p
    · exact (hk f).spares t
    · exact spares_ok a

theorem plain_ite {c : Prop} [Decidable c] {x y : StepM α} (hx : Plain x) (hy : Plain y) :
    Plain (if c then x else y) := by
  split
  · exact hx
  · exact hy

/-- Doing something for each of some items is plain when each time is. -/
theorem plain_forM {f : α → StepM PUnit} (hf : ∀ a, Plain (f a)) (l : List α) :
    Plain (l.forM f) := by
  induction l with
  | nil => exact plain_pure _
  | cons a l ih => exact plain_bind (hf a) fun _ => ih

/-! ## The parts of step bodies -/

/-- Replacing the session by one that touches lead to is plain when it leaves the progress and the
other steps alone. -/
theorem plain_replace {f : Session → Session} {k : Session → StepM β}
    (hf : ∀ s, ReflTransGen Touch s (f s))
    (hg : ∀ g kinds s, f (disguise g kinds s) = disguise g kinds (f s))
    (hh : ∀ s, (f s.hushed).hushed = (f s).hushed)
    (hkg : ∀ g kinds s, k (disguise g kinds s.hushed) = k s) (hk : ∀ s, Plain (k s)) :
    Plain (get >>= fun s => set (f s) >>= fun _ => k s) := by
  obtain ⟨hdeaf, hheedless⟩ := of_disguise hkg
  refine ⟨fun s => ?_, fun g kinds s => ?_, fun s => ?_,
    heedless_replace hh hheedless fun s => (hk s).heedless⟩
  · exact (hf s).trans ((hk s).within (f s))
  · show runIn (f (disguise g kinds s)) (k (disguise g kinds s)) = _
    rw [hg g kinds s, hdeaf g kinds s]
    exact (hk s).deaf g kinds (f s)
  · exact (hk s).spares (f s)

/-- A change of the session is plain when it is a touch that leaves the progress and the other steps
alone, and does not depend on the talk. -/
theorem plain_change {f : Session → Session} (hf : ∀ s, Touch s (f s))
    (hg : ∀ g kinds s, f (disguise g kinds s) = disguise g kinds (f s))
    (hh : ∀ s, (f s.hushed).hushed = (f s).hushed) : Plain (change f) := by
  refine ⟨fun s => .single (hf s), fun g kinds s => ?_, fun s => spares_ok (), heedless_change hh⟩
  show (Except.ok (), f (disguise g kinds s)) = _
  rw [hg g kinds s]
  rfl

theorem plain_debug (message : String) : Plain (debug message) :=
  plain_change (fun s => .logs s _ _ _) (fun _ _ _ => rfl) fun s => s.hushed_logged _ _ _

theorem plain_info (message : String) : Plain (info message) :=
  plain_change (fun s => .logs s _ _ _) (fun _ _ _ => rfl) fun s => s.hushed_logged _ _ _

theorem plain_warn (message : String) : Plain (warn message) :=
  plain_change (fun s => .logs s _ _ _) (fun _ _ _ => rfl) fun s => s.hushed_logged _ _ _

theorem plain_happen {e : Event} (h : e.isReserved = false) : Plain (happen e) :=
  plain_change (fun s => .happens s e h) (fun _ _ _ => rfl) fun s => s.hushed_record e

theorem plain_setVariable (name : String) (value : Scalar) : Plain (setVariable name value) :=
  plain_change (fun s => .binds s name value) (fun _ _ _ => rfl) fun s => s.hushed_context _

theorem plain_use : Plain (changeContext id) :=
  plain_change (fun s => .uses s) (fun _ _ _ => rfl) fun s => s.hushed_context _

theorem plain_value? (name : String) : Plain (value? name) :=
  plain_bind plain_use fun _ => plain_get (fun _ _ _ => rfl) fun _ => plain_pure _

theorem plain_files : Plain files := plain_get (fun _ _ _ => rfl) fun _ => plain_pure _

theorem plain_changeFiles (f : Files.Tree → Files.Outcome) : Plain (changeFiles f) :=
  plain_replace (fun s => .single (.turns s (f s.desk.machine.files).2 _ _ _ _))
    (fun _ _ _ => rfl) (fun s => s.hushed_turns _ _ _ _ _) (fun _ _ _ => rfl) fun _ => plain_pure _

theorem plain_askFiles (q : Files.Tree → Except Files.Fault α) : Plain (askFiles q) := by
  unfold askFiles
  refine plain_bind plain_files fun t => ?_
  split
  · exact plain_pure _
  · exact plain_throw rfl

/-- A fault of the files is raised as it is, or as a failure of the step. -/
theorem isRouting_of_files (failure : Files.Fault → Failure) (why : Files.Fault) :
    (if (Fault.file why).isSystem then Fault.failed (failure why) else .file why).isRouting =
      false := by
  split
  · rfl
  · rfl

theorem plain_tryFiles (failure : Files.Fault → Failure) (f : Files.Tree → Files.Outcome) :
    Plain (tryFiles failure f) := by
  unfold tryFiles
  refine plain_bind (plain_changeFiles f) fun r => ?_
  split
  · exact plain_pure _
  · exact plain_throw (isRouting_of_files failure _)

theorem plain_tryAsk (failure : Files.Fault → Failure)
    (q : Files.Tree → Except Files.Fault α) : Plain (tryAsk failure q) := by
  unfold tryAsk
  refine plain_bind plain_files fun t => ?_
  split
  · exact plain_pure _
  · exact plain_throw (isRouting_of_files failure _)

/-! ### Requests and look-ups -/

theorem within_change {T : Session → Session → Prop} {f : Session → Session}
    (hf : ∀ s, T s (f s)) : Within T (change f) :=
  fun s => .single (hf s)

/-- A request of control is a touch. -/
theorem within_request (transfer : Transfer) (target : Int) :
    Within Touch (request transfer target) :=
  within_change fun s =>
    .marks s s.progress.lastError (some ⟨transfer, target⟩) s.progress.iteration

theorem blind_request (transfer : Transfer) (target : Int) : Blind (request transfer target) :=
  fun _ _ _ => rfl

theorem heedless_request (transfer : Transfer) (target : Int) :
    Heedless (request transfer target) :=
  heedless_change fun s => s.hushed_progress _

/-- Looking another step up is a touch at most. -/
theorem within_lookUp (position : Int) (expected : Option String) :
    Within Touch (lookUp position expected) := by
  unfold lookUp
  refine within_bind plain_use.within fun _ => within_bind within_get fun s => ?_
  split
  · exact within_pure _
  · exact within_throw _

theorem heedless_lookUp (position : Int) (expected : Option String) :
    Heedless (lookUp position expected) := by
  unfold lookUp
  refine matches_bind plain_use.heedless fun _ => heedless_get (fun _ => rfl) fun s => ?_
  split
  · exact heedless_pure _
  · exact heedless_throw _

/-- Looking another step up ignores what does not change the answer. -/
theorem ignores_lookUp {k : Nat} {kinds : Option (List String) → Option (List String)}
    {position : Int} {expected : Option String}
    (h : ∀ known, expectKind position expected (kinds known) = expectKind position expected known) :
    Ignores (beside k kinds) (lookUp position expected) := by
  have hanswer (s : Session) : expectKind position expected (beside k kinds s).kinds =
      expectKind position expected s.kinds := h s.kinds
  unfold lookUp
  refine ignores_bind (plain_use.blind k kinds) fun _ => ignores_get (fun s => ?_) fun s => ?_
  · rw [hanswer s]
  split
  · exact ignores_pure _
  · exact ignores_throw _

/-! ### Pauses -/

/-- Moving the clocks changes nothing else of the machine. -/
theorem advance_eq {m m' : Machine} {x : Number.Amount} (h : m.advance x = .ok m') :
    ∃ wall running, m' = { m with wall := wall, running := running } := by
  unfold Machine.advance at h
  obtain ⟨micros, -, h⟩ := bind_eq_ok_iff.mp h
  obtain ⟨span, -, h⟩ := bind_eq_ok_iff.mp h
  obtain ⟨wall, -, h⟩ := bind_eq_ok_iff.mp h
  cases h
  exact ⟨wall, _, rfl⟩

/-- A pause happens, and then at most the clocks go on. -/
theorem touches_sleep (s : Session) (x : Number.Amount) :
    ReflTransGen Touch s { s with desk := (s.context.sleep s.desk x).2 } := by
  unfold Context.sleep
  split
  · exact .refl
  split
  · exact .single (.happens s _ rfl)
  refine .head (.happens s (.slept x) rfl) ?_
  dsimp only [Machine.sleep]
  split
  · exact .refl
  · split
    · next m' h =>
      obtain ⟨wall, running, rfl⟩ := advance_eq h
      exact .single (.turns _ _ wall running _ _)
    · exact .refl

/-- The amount of seconds that a clock can be moved by, if there is one. -/
theorem spares_advance (m : Machine) (x : Number.Amount) :
    Spares Fault.isRouting (m.advance x) := by
  have hmicros : Spares Fault.isRouting (Machine.microsOf x) := by
    unfold Machine.microsOf
    cases x with
    | whole n => exact spares_ok _
    | real x =>
      dsimp only
      split
      · exact spares_error rfl
      · exact spares_error rfl
      · exact spares_ok _
  unfold Machine.advance
  refine hmicros.bind fun micros => Spares.bind (spares_mapError (fun _ => rfl) _) fun span => ?_
  exact Spares.bind (spares_mapError (fun _ => rfl) _) fun wall => spares_ok _

theorem spares_sleep (c : Context) (d : Desk) (x : Number.Amount) :
    Spares Fault.isRouting (c.sleep d x).1 := by
  unfold Context.sleep
  split
  · exact spares_ok _
  split
  · exact spares_ok _
  dsimp only [Machine.sleep]
  split
  · exact spares_ok _
  · split
    · exact spares_ok _
    · next f h => exact spares_error (spares_advance _ _ f h)

theorem spares_sleepMillis (c : Context) (d : Desk) (ms : Number.Amount) :
    Spares Fault.isRouting (c.sleepMillis d ms).1 := by
  have hseconds : Spares Fault.isRouting (Context.secondsOfMillis ms) := by
    unfold Context.secondsOfMillis
    cases ms with
    | whole n => exact (spares_mapError (fun _ => rfl) _).map _
    | real x => exact spares_ok _
  unfold Context.sleepMillis
  split
  · exact spares_sleep c d _
  · next f h => exact spares_error (hseconds f h)

/-- The clocks are moved in the same way whatever the journal says. -/
theorem advance_journal (m : Machine) (journal : List Event) (x : Number.Amount) :
    ({ m with journal := journal } : Machine).advance x =
      (m.advance x).map fun m => { m with journal := journal } := by
  unfold Machine.advance
  cases Machine.microsOf x with
  | error f => rfl
  | ok micros =>
    dsimp only [bind, Except.bind]
    cases (Time.checkSpan micros).mapError Fault.time with
    | error f => rfl
    | ok span =>
      dsimp only
      cases (m.wall.shift span).mapError Fault.time with
      | error f => rfl
      | ok wall => rfl

/-- The machine sits a pause out in the same way whatever the journal says, and notes it. -/
theorem sleep_journal (m : Machine) (journal : List Event) (x : Number.Amount) :
    ({ m with journal := journal } : Machine).sleep x =
        ((m.sleep x).1, { (m.sleep x).2 with journal := .slept x :: journal }) ∧
      (m.sleep x).2.journal = .slept x :: m.journal := by
  unfold Machine.sleep
  dsimp only
  split
  · exact ⟨rfl, rfl⟩
  have hadvance := advance_journal (m.record (.slept x)) (.slept x :: journal) x
  have hsame : ({ m with journal := journal } : Machine).record (.slept x) =
      { m.record (.slept x) with journal := .slept x :: journal } := rfl
  rw [hsame, hadvance]
  cases h : (m.record (.slept x)).advance x with
  | error f => exact ⟨rfl, rfl⟩
  | ok m' =>
    obtain ⟨wall, running, rfl⟩ := advance_eq h
    exact ⟨rfl, rfl⟩

/-- A pause does not heed the talk. -/
theorem alike_sleep (c : Context) (x : Number.Amount) :
    Alike Desk.hushed (fun d => c.sleep d x) fun d => c.sleep d x := by
  have hsleep (d : Desk) : (c.sleep d.hushed x).1 = (c.sleep d x).1 ∧
      (c.sleep d.hushed x).2.hushed = (c.sleep d x).2.hushed := by
    unfold Context.sleep
    split
    · exact ⟨rfl, d.hushed_hushed⟩
    split
    · exact ⟨rfl, d.hushed_record _⟩
    obtain ⟨hsame, hjournal⟩ := sleep_journal d.machine d.hushed.machine.journal x
    have hmachine : d.hushed.machine.sleep x = _ := hsame
    rw [hmachine]
    refine ⟨rfl, ?_⟩
    unfold Desk.hushed
    dsimp only
    rw [hjournal]
    simp [Event.isTalk]
  exact .of_image (fun d => (hsleep d).1) fun d => (hsleep d).2

theorem alike_sleepMillis (c : Context) (ms : Number.Amount) :
    Alike Desk.hushed (fun d => c.sleepMillis d ms) fun d => c.sleepMillis d ms := by
  unfold Context.sleepMillis
  split
  · exact alike_sleep c _
  · exact .pure _

theorem plain_pauseWith {sleep : Context → Desk → Except Fault Unit × Desk}
    (h : ∀ s : Session, ReflTransGen Touch s { s with desk := (sleep s.context s.desk).2 })
    (hspares : ∀ c d, Spares Fault.isRouting (sleep c d).1)
    (halike : ∀ c, Alike Desk.hushed (sleep c) (sleep c)) : Plain (pauseWith sleep) := by
  have hsleep (c : Context) (d : Desk) := halike c d.hushed d d.hushed_hushed
  refine plain_replace (f := fun s => { s with desk := (sleep s.context s.desk).2, inUse := true })
    (fun s => (h s).tail (.uses _)) (fun _ _ _ => rfl)
    (fun s => congrArg (fun d => ({ s with desk := d, inUse := true } : Session))
      (hsleep s.context s.desk).2) (fun g kinds s => ?_) fun s => ?_
  · have hslept : (sleep (disguise g kinds s.hushed).context (disguise g kinds s.hushed).desk).1 =
      (sleep s.context s.desk).1 := (hsleep s.context s.desk).1
    rw [hslept]
  · split
    · exact plain_pure _
    · next f hf => exact plain_raise (hspares s.context s.desk) hf

theorem plain_sleep (seconds : Float) : Plain (sleep seconds) :=
  plain_pauseWith (fun s => touches_sleep s (.real seconds)) (fun c d => spares_sleep c d _)
    fun c => alike_sleep c _

theorem plain_sleepMillis (ms : Int) : Plain (sleepMillis ms) := by
  refine plain_pauseWith (fun s => ?_) (fun c d => spares_sleepMillis c d _)
    fun c => alike_sleepMillis c _
  unfold Context.sleepMillis
  split
  · exact touches_sleep s _
  · exact .refl

end StepM

end Deskwork
