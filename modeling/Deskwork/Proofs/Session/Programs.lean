/-
# Programs over a Session

How the programs that make up a step run: one equation for each way to build a program, and the two
wrappers that turn faults into failures. From them a program stays within a relation between
sessions as soon as its parts do (`within_bind` and its companions), it ignores a change of its
session as soon as its parts do (`ignores_bind` and its companions), and it does not heed the talk at
the desk as soon as its parts do not (`matches_bind` and its companions).
-/
import Deskwork.Engine
import Deskwork.Proofs.Alike
import Mathlib.Logic.Relation

namespace Deskwork

open Relation

/-- A fault about where control goes, other than one that something outside raised under its name.
-/
def Fault.isRouting : Fault → Bool
  | .control (.other _) => false
  | .control _ => true
  | _ => false

/-- What something outside raises is no such fault, whatever its name. -/
theorem Fault.isRouting_ofForeign (why : Foreign) : (ofForeign why).isRouting = false := by
  unfold ofForeign
  split <;> rfl

/-- The ways to carry out a step: to execute it, to check it before, and to take whatever else goes wrong for
a failure as well. -/
def Work.ways (w : Work) : List (StepM Bool) :=
  [StepM.execute w.run, StepM.attempt w, Engine.guarded w]

namespace StepM

variable {α β : Type} {T : Session → Session → Prop}

/-! ## Running a program -/

/-- A program goes on with what it has found, unless it failed. -/
theorem runIn_bind (s : Session) (x : StepM α) (k : α → StepM β) :
    runIn s (x >>= k) =
      match runIn s x with
      | (.ok a, t) => runIn t (k a)
      | (.error f, t) => (.error f, t) := by
  show Id.run ((ExceptT.run (x >>= k)).run s) = _
  simp only [ExceptT.run_bind, StateT.run_bind, runIn]
  rcases h : Id.run ((x.run).run s) with ⟨r, t⟩
  cases r with
  | ok a => simp_all [Id.run, bind]
  | error f =>
    simp_all [Id.run, bind]
    rfl

/-- A program that failed goes on with what catches its fault. -/
theorem runIn_tryCatch (s : Session) (x : StepM α) (k : Fault → StepM α) :
    runIn s (tryCatch x k) =
      match runIn s x with
      | (.ok a, t) => (.ok a, t)
      | (.error f, t) => runIn t (k f) := by
  show Id.run ((ExceptT.run (tryCatch x k)).run s) = _
  simp only [ExceptT.run_tryCatch, StateT.run_bind, runIn]
  rcases h : Id.run ((x.run).run s) with ⟨r, t⟩
  cases r with
  | ok a =>
    simp_all [Id.run, bind]
    rfl
  | error f => simp_all [Id.run, bind]

/-- Looking a step up uses the context, and finds its kind or a fault. -/
theorem runIn_lookUp (s : Session) (position : Int) (expected : Option String) :
    runIn s (lookUp position expected) =
      (expectKind position expected s.kinds, { s with inUse := true }) := by
  unfold lookUp
  rw [runIn_bind]
  show runIn { s with inUse := true } _ = _
  rw [runIn_bind]
  show runIn { s with inUse := true } _ = _
  cases expectKind position expected s.kinds with
  | ok kind => rfl
  | error f => rfl

/-- A pause uses the context, and finds and leaves what it does in the surroundings. -/
theorem runIn_pauseWith (s : Session) (sleep : Context → Desk → Except Fault Unit × Desk) :
    runIn s (pauseWith sleep) = ((sleep s.context s.desk).1,
      { s with desk := (sleep s.context s.desk).2, inUse := true }) := by
  unfold pauseWith
  rw [runIn_bind]
  show runIn s _ = _
  rw [runIn_bind]
  show runIn { s with desk := (sleep s.context s.desk).2, inUse := true } _ = _
  cases (sleep s.context s.desk).1 <;> rfl

/-! ## Checking and executing -/

/-- The session of a step whose body begins: no error and no request are left. -/
def begun (s : Session) : Session :=
  { s with progress := { s.progress with lastError := none, control := none } }

/-- The session of a step that has logged an error about itself. -/
def erred (s : Session) (message : String) : Session :=
  { s with
    desk := s.desk.error s.name message
    progress := { s.progress with lastError := some message } }

/-- An executed step fails with what its body reports about the step; other faults go on. -/
theorem runIn_execute (s : Session) (body : StepM Unit) :
    runIn s (execute body) =
      match runIn (begun s) body with
      | (.ok _, t) => (.ok true, t)
      | (.error f, t) =>
        if f.isAction && !f.isControl then (.ok false, erred t f.message) else (.error f, t) := by
  unfold execute
  rw [runIn_bind]
  show runIn (begun s) _ = _
  rw [runIn_bind, runIn_tryCatch]
  erw [runIn_bind]
  rcases runIn (begun s) body with ⟨r, t⟩
  cases r with
  | ok a => rfl
  | error f =>
    by_cases h : (f.isAction && !f.isControl) = true
    · simp only [h, if_true]
      rfl
    · simp only [h]
      rfl

/-- A step is executed when its check finds nothing. -/
theorem runIn_attempt (s : Session) (work : Work) :
    runIn s (attempt work) =
      match work.check s.progress.visits with
      | .ok _ => runIn s (execute work.run)
      | .error (.invalid why) => (.ok false, erred s why.message)
      | .error f => (.error f, s) := by
  unfold attempt validate
  rw [runIn_bind]
  show runIn s _ = _
  rw [runIn_bind]
  cases work.check s.progress.visits with
  | ok u => rfl
  | error f => cases f <;> rfl

/-- Of the faults that a step does not report about itself, only a loss of control goes on. -/
theorem runIn_guarded (s : Session) (work : Work) :
    runIn s (Engine.guarded work) =
      match runIn s (attempt work) with
      | (.ok ok, t) => (.ok ok, t)
      | (.error f, t) =>
        if f.isControl then (.error f, t)
        else (.ok false, erred t ("Unexpected error: " ++ f.message)) := by
  unfold Engine.guarded
  rw [runIn_bind, runIn_tryCatch]
  erw [runIn_bind]
  rcases runIn s (attempt work) with ⟨r, t⟩
  cases r with
  | ok a => rfl
  | error f =>
    by_cases h : f.isControl = true
    · simp only [h, if_true]
      rfl
    · simp only [h]
      rfl

/-- A step whose check finds nothing succeeds when its body does. -/
theorem guarded_of_run {s t : Session} {w : Work} (hcheck : w.check s.progress.visits = .ok ())
    (hrun : runIn (begun s) w.run = (.ok (), t)) :
    runIn s (Engine.guarded w) = (.ok true, t) := by
  rw [runIn_guarded, runIn_attempt, hcheck]
  dsimp only
  rw [runIn_execute, hrun]

/-- A step that is executed succeeds when its body comes to its end. -/
theorem execute_succeeds {s : Session} {body : StepM Unit}
    (hrun : (runIn (begun s) body).1 = .ok ()) : (runIn s (execute body)).1 = .ok true := by
  rw [runIn_execute]
  generalize runIn (begun s) body = o at hrun ⊢
  obtain ⟨r, t⟩ := o
  obtain rfl : r = .ok () := hrun
  rfl

/-- It fails when its body reports a fault about it. -/
theorem execute_fails {s : Session} {body : StepM Unit} {f : Fault}
    (hrun : (runIn (begun s) body).1 = .error f) (hf : (f.isAction && !f.isControl) = true) :
    (runIn s (execute body)).1 = .ok false := by
  rw [runIn_execute]
  generalize runIn (begun s) body = o at hrun ⊢
  obtain ⟨r, t⟩ := o
  obtain rfl : r = .error f := hrun
  dsimp only
  rw [if_pos hf]

/-- Whichever way a step is carried out, it comes to what it comes to when it is executed, unless its
check finds something. -/
theorem way_of_execute {s : Session} {w : Work} {b : Bool}
    (executed : (runIn s (execute w.run)).1 = .ok b) {way : StepM Bool} (h : way ∈ w.ways)
    (valid : way = execute w.run ∨ w.check s.progress.visits = .ok ()) :
    (runIn s way).1 = .ok b := by
  rcases valid with rfl | hcheck
  · exact executed
  have hattempt : runIn s (attempt w) = runIn s (execute w.run) := by rw [runIn_attempt, hcheck]
  simp only [Work.ways, List.mem_cons, List.not_mem_nil, or_false] at h
  rcases h with rfl | rfl | rfl
  · exact executed
  · rw [hattempt, executed]
  · rw [runIn_guarded, hattempt]
    generalize runIn s (execute w.run) = o at executed ⊢
    obtain ⟨r, t⟩ := o
    obtain rfl : r = .ok b := executed
    rfl

/-! ## Staying within a relation -/

/-- Whatever session a program starts from, it moves it by links of `T` only. -/
def Within (T : Session → Session → Prop) (body : StepM α) : Prop :=
  ∀ s, ReflTransGen T s (runIn s body).2

theorem within_pure (a : α) : Within T (pure a) := fun _ => .refl

theorem within_throw (f : Fault) : Within T (throw f : StepM α) := fun _ => .refl

theorem within_get : Within T (get : StepM Session) := fun _ => .refl

/-- A program stays within a relation when both of its parts do. -/
theorem within_bind {x : StepM α} {k : α → StepM β} (hx : Within T x)
    (hk : ∀ a, Within T (k a)) : Within T (x >>= k) := by
  intro s
  have h := hx s
  rw [runIn_bind]
  generalize runIn s x = p at h ⊢
  obtain ⟨r, t⟩ := p
  cases r with
  | ok a => exact h.trans (hk a t)
  | error f => exact h

/-- Catching a fault stays within a relation when both programs do. -/
theorem within_tryCatch {x : StepM α} {k : Fault → StepM α} (hx : Within T x)
    (hk : ∀ f, Within T (k f)) : Within T (tryCatch x k) := by
  intro s
  have h := hx s
  rw [runIn_tryCatch]
  generalize runIn s x = p at h ⊢
  obtain ⟨r, t⟩ := p
  cases r with
  | ok a => exact h
  | error f => exact h.trans (hk f t)

/-- Doing something for each of some items stays within a relation when each time does. -/
theorem within_forM {f : α → StepM PUnit} (hf : ∀ a, Within T (f a)) (l : List α) :
    Within T (l.forM f) := by
  induction l with
  | nil => exact within_pure _
  | cons a l ih => exact within_bind (hf a) fun _ => ih

/-- A wider relation holds a program as well. -/
theorem Within.mono {U : Session → Session → Prop} {body : StepM α} (h : Within T body)
    (hTU : T ≤ U) : Within U body :=
  fun s => ReflTransGen.mono hTU s _ (h s)

/-! ## What a program ignores -/

/-- A program ignores a change of its session: it does the same, and the change stays. -/
def Ignores (φ : Session → Session) (x : StepM α) : Prop :=
  ∀ s, runIn (φ s) x = ((runIn s x).1, φ (runIn s x).2)

variable {φ : Session → Session}

theorem ignores_pure (a : α) : Ignores φ (pure a) := fun _ => rfl

theorem ignores_throw (f : Fault) : Ignores φ (throw f : StepM α) := fun _ => rfl

/-- Looking at the session does not matter when what follows does not look at what is changed. -/
theorem ignores_get {k : Session → StepM β} (hk : ∀ s, k (φ s) = k s) (h : ∀ s, Ignores φ (k s)) :
    Ignores φ (get >>= k) := by
  intro s
  show runIn (φ s) (k (φ s)) = _
  rw [hk s]
  exact h s s

/-- A program ignores a change when both of its parts do. -/
theorem ignores_bind {x : StepM α} {k : α → StepM β} (hx : Ignores φ x)
    (hk : ∀ a, Ignores φ (k a)) : Ignores φ (x >>= k) := by
  intro s
  rw [runIn_bind, runIn_bind, hx s]
  rcases runIn s x with ⟨r, t⟩
  cases r with
  | ok a => exact hk a t
  | error f => rfl

/-- Catching a fault ignores a change when both programs do. -/
theorem ignores_tryCatch {x : StepM α} {k : Fault → StepM α} (hx : Ignores φ x)
    (hk : ∀ f, Ignores φ (k f)) : Ignores φ (tryCatch x k) := by
  intro s
  rw [runIn_tryCatch, runIn_tryCatch, hx s]
  rcases runIn s x with ⟨r, t⟩
  cases r with
  | ok a => rfl
  | error f => exact hk f t

/-- The session of a step that was visited `k` more times before. -/
def ahead (k : Nat) (s : Session) : Session :=
  { s with progress := { s.progress with visits := s.progress.visits + k } }

/-- The session of a step that was visited `k` more times before and stands among other kinds of
steps. -/
def beside (k : Nat) (kinds : Option (List String) → Option (List String)) (s : Session) :
    Session :=
  { ahead k s with kinds := kinds s.kinds }

/-- A program runs in the same way however often its step was visited before, and whatever the other
steps are. -/
def Blind (x : StepM α) : Prop := ∀ k kinds, Ignores (beside k kinds) x

/-! ## Programs that match -/

end StepM

/-- The session without the talk at its desk. -/
def Session.hushed (s : Session) : Session := { s with desk := s.desk.hushed }

@[simp] theorem Session.hushed_hushed (s : Session) : s.hushed.hushed = s.hushed := by
  unfold hushed
  simp

namespace StepM

/-- Two programs match when they do the same but for the talk at the desk. -/
def Matches (x y : StepM α) : Prop := Alike Session.hushed (fun s => runIn s x) fun s => runIn s y

/-- A program does not heed the talk at the desk. -/
def Heedless (x : StepM α) : Prop := Matches x x

theorem heedless_pure (a : α) : Heedless (pure a) := fun _ _ h => ⟨rfl, h⟩

theorem heedless_throw (f : Fault) : Heedless (throw f : StepM α) := fun _ _ h => ⟨rfl, h⟩

/-- Looking at the session is not to heed the talk when what follows does not depend on it. -/
theorem heedless_get {k : Session → StepM β} (hk : ∀ s, k s.hushed = k s)
    (h : ∀ s, Heedless (k s)) : Heedless (get >>= k) := by
  intro s t hst
  have hsame : k s = k t := by rw [← hk s, ← hk t, hst]
  show (runIn s (k s)).1 = (runIn t (k t)).1 ∧
    (runIn s (k s)).2.hushed = (runIn t (k t)).2.hushed
  rw [hsame]
  exact h t s t hst

/-- Replacing the session is not to heed the talk when what stands there instead does not depend on
it. -/
theorem heedless_replace {f : Session → Session} {k : Session → StepM β}
    (hf : ∀ s, (f s.hushed).hushed = (f s).hushed) (hk : ∀ s, k s.hushed = k s)
    (h : ∀ s, Heedless (k s)) : Heedless (get >>= fun s => set (f s) >>= fun _ => k s) := by
  intro s t hst
  have hsame : k s = k t := by rw [← hk s, ← hk t, hst]
  have hnext : (f s).hushed = (f t).hushed := by rw [← hf s, ← hf t, hst]
  show (runIn (f s) (k s)).1 = (runIn (f t) (k t)).1 ∧
    (runIn (f s) (k s)).2.hushed = (runIn (f t) (k t)).2.hushed
  rw [hsame]
  exact h t _ _ hnext

theorem heedless_change {f : Session → Session} (hf : ∀ s, (f s.hushed).hushed = (f s).hushed) :
    Heedless (change f) := by
  intro s t hst
  refine ⟨rfl, ?_⟩
  show (f s).hushed = (f t).hushed
  rw [← hf s, ← hf t, hst]

/-- Programs go on alike when both of their parts do. -/
theorem alike_bind {τ : Type} {φ : Session → τ} {x y : StepM α} {k l : α → StepM β}
    (hx : Alike φ (fun s => runIn s x) fun s => runIn s y)
    (hk : ∀ a, Alike φ (fun s => runIn s (k a)) fun s => runIn s (l a)) :
    Alike φ (fun s => runIn s (x >>= k)) fun s => runIn s (y >>= l) := by
  intro s t hst
  obtain ⟨hfound, hstate⟩ := hx s t hst
  dsimp only at hfound hstate ⊢
  rw [runIn_bind, runIn_bind]
  generalize runIn s x = p at hfound hstate ⊢
  generalize runIn t y = q at hfound hstate ⊢
  obtain ⟨r, s'⟩ := p
  obtain ⟨r', t'⟩ := q
  obtain rfl : r = r' := hfound
  cases r with
  | ok a => exact hk a s' t' hstate
  | error f => exact ⟨rfl, hstate⟩

/-- Programs match when both of their parts do. -/
theorem matches_bind {x y : StepM α} {k l : α → StepM β} (hx : Matches x y)
    (hk : ∀ a, Matches (k a) (l a)) : Matches (x >>= k) (y >>= l) :=
  alike_bind hx hk

theorem matches_tryCatch {x y : StepM α} {k l : Fault → StepM α} (hx : Matches x y)
    (hk : ∀ f, Matches (k f) (l f)) : Matches (tryCatch x k) (tryCatch y l) := by
  intro s t hst
  obtain ⟨hfound, hstate⟩ := hx s t hst
  dsimp only at hfound hstate ⊢
  rw [runIn_tryCatch, runIn_tryCatch]
  generalize runIn s x = p at hfound hstate ⊢
  generalize runIn t y = q at hfound hstate ⊢
  obtain ⟨r, s'⟩ := p
  obtain ⟨r', t'⟩ := q
  obtain rfl : r = r' := hfound
  cases r with
  | ok a => exact ⟨rfl, hstate⟩
  | error f => exact hk f s' t' hstate

/-! ## What a result spares -/

/-- A result is no fault of some sort. -/
def Spares (p : Fault → Bool) (r : Except Fault α) : Prop := ∀ f, r = .error f → p f = false

variable {p : Fault → Bool}

theorem spares_ok (a : α) : Spares p (.ok a) := fun _ h => nomatch h

theorem spares_error {f : Fault} (h : p f = false) : Spares p (.error f : Except Fault α) :=
  fun _ hf => Except.error.inj hf ▸ h

/-- What is done with a result spares what the result spares. -/
theorem Spares.map {r : Except Fault α} (h : Spares p r) (g : α → β) : Spares p (r.map g) := by
  cases r with
  | ok a => exact spares_ok _
  | error f => exact spares_error (h f rfl)

/-- A result that depends on another spares what both spare. -/
theorem Spares.bind {r : Except Fault α} (h : Spares p r) {k : α → Except Fault β}
    (hk : ∀ a, Spares p (k a)) : Spares p (r >>= k) := by
  cases r with
  | ok a => exact hk a
  | error f => exact spares_error (h f rfl)

/-- A fault of another kind spares what all that it becomes spare. -/
theorem spares_mapError {ε : Type} {g : ε → Fault} (hg : ∀ e, p (g e) = false)
    (r : Except ε α) : Spares p (r.mapError g) := by
  cases r with
  | ok a => exact spares_ok a
  | error e => exact spares_error (hg e)

end StepM

end Deskwork
