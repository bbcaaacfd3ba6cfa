/-
# What Is Closed

Every resource that can be closed is, from the moment when it is registered, either still open or
closed, and never both. So what was closed at a desk together with what is still open in a context
is a tally that only registering a resource adds to (`tally_register`): releasing a resource and
clearing the context leave it as it is. The tally also keeps the answers to attempts to run the
engine again. What the attempt of a step adds to it are the deeds of its probe (`tally_guarded`).
-/
import Deskwork.Proofs.Session.Calm
import Mathlib.Algebra.BigOperators.Group.List.Basic
import Mathlib.Algebra.Group.Prod
import Mathlib.Algebra.Order.Group.Multiset

namespace Deskwork

open Relation StepM

/-! ## Labels and answers -/

/-- The label under which a handle is closed, if it can be. -/
def Handle.labels : Handle → Multiset String
  | .closing label | .failing label => {label}
  | .inert | .absent => 0

/-- The label of a resource that was closed. -/
def Event.closing : Event → Multiset String
  | .closed label => {label}
  | _ => 0

/-- The answer to an attempt to run the engine again. -/
def Event.answer : Event → Multiset Bool
  | .reentered result _ | .rerun result => {result}
  | _ => 0

/-- The labels of the resources that are open and can be closed, as often as there are such
resources. -/
def Context.pending (c : Context) : Multiset String := (c.resources.map fun r => r.2.labels).sum

namespace Desk

/-- The labels of the resources that were closed, as often as they were. -/
def closings (d : Desk) : Multiset String := (d.machine.journal.map Event.closing).sum

/-- The answers that were given to attempts to run the engine again. -/
def answers (d : Desk) : Multiset Bool := (d.machine.journal.map Event.answer).sum

/-- What was closed at the desk or is still open in a context, and the answers to attempts to run the
engine again. -/
def tally (d : Desk) (c : Context) : Multiset String × Multiset Bool :=
  (d.closings + c.pending, d.answers)

/-- What only events that belong to runs add up to, those events alone add up to. -/
theorem sum_reserved {M : Type} [AddCommMonoid M] {f : Event → M}
    (hf : ∀ e : Event, e.isReserved = false → f e = 0) (d : Desk) :
    (d.reserved.map f).sum = (d.machine.journal.map f).sum := by
  unfold reserved
  induction d.machine.journal with
  | nil => rfl
  | cons e journal ih =>
    cases h : e.isReserved with
    | true => rw [List.filter_cons_of_pos h, List.map_cons, List.map_cons, List.sum_cons,
        List.sum_cons, ih]
    | false => rw [List.filter_cons_of_neg (by simp [h]), List.map_cons, List.sum_cons, hf e h,
        zero_add, ih]

/-- Where nothing happens that belongs to runs, the tally stays. -/
theorem Quiet.tally {d d' : Desk} (h : d.Quiet d') (c : Context) : d'.tally c = d.tally c := by
  have hclosing (e : Event) (he : e.isReserved = false) : e.closing = 0 := by
    cases e with
    | closed => cases he
    | _ => rfl
  have hanswer (e : Event) (he : e.isReserved = false) : e.answer = 0 := by
    cases e with
    | reentered => cases he
    | rerun => cases he
    | _ => rfl
  unfold Desk.tally closings answers
  rw [← sum_reserved hclosing, ← sum_reserved hclosing, ← sum_reserved hanswer,
    ← sum_reserved hanswer, h.reserved]

/-- An event adds its label or its answer to the tally. -/
theorem tally_record (d : Desk) (c : Context) (e : Event) :
    (d.record e).tally c = (e.closing, e.answer) + d.tally c := by
  simp [tally, closings, answers, record, Machine.record, add_assoc]

end Desk

/-! ## Releasing and registering -/

/-- Closing a handle adds its label. -/
theorem Handle.tally_close (h : Handle) (key : String) (d : Desk) (c : Context) :
    (h.close key d).tally c = (h.labels, 0) + d.tally c := by
  cases h with
  | closing label => exact d.tally_record c _
  | failing label =>
    have hwarn := (d.record (.closed label)).quiet_logged .warning contextSource
      ("Failed to release resource '" ++ key ++ "': handle already gone")
    exact (hwarn.tally c).trans (d.tally_record c _)
  | inert => exact (zero_add (d.tally c)).symm
  | absent => exact (zero_add (d.tally c)).symm

/-- What entries add up to is what the entry of a name adds, and what the others add up to. -/
theorem Table.sum_remove {κ α M : Type} [DecidableEq κ] [AddCommMonoid M] (f : α → M)
    (t : List (κ × α)) (k : κ) :
    (t.map fun e => f e.2).sum =
      ((Table.get? t k).map f).getD 0 + ((Table.remove t k).map fun e => f e.2).sum := by
  induction t with
  | nil => simp [Table.get?, Table.remove]
  | cons e rest ih =>
    obtain ⟨k', v⟩ := e
    by_cases hk : k' = k
    · simp [Table.get?, Table.remove, hk]
    · simp only [Table.get?, Table.remove, hk, if_false, List.map_cons, List.sum_cons]
      rw [ih, add_left_comm]

namespace Context

variable (c : Context) (d : Desk) (key : String)

/-- Releasing a resource leaves the tally as it is. -/
theorem tally_release : (c.release d key).2.2.tally (c.release d key).2.1 = d.tally c := by
  have hpending : c.pending = ((Table.get? c.resources key).map Handle.labels).getD 0 +
      ({ c with resources := Table.remove c.resources key } : Context).pending :=
    Table.sum_remove Handle.labels c.resources key
  unfold release resource?
  dsimp only
  cases hget : Table.get? c.resources key with
  | none =>
    rw [hget] at hpending
    unfold Desk.tally
    rw [hpending]
    simp
  | some h =>
    rw [hget] at hpending
    by_cases habsent : h = .absent
    · -- Nothing was registered under the key, so nothing is closed.
      subst habsent
      rw [Option.filter_some_neg (by simp)]
      unfold Desk.tally
      rw [hpending]
      simp [Handle.labels]
    · rw [Option.filter_some_pos (by simpa using habsent)]
      dsimp only
      rw [h.tally_close]
      unfold Desk.tally
      rw [hpending]
      simp [add_left_comm]

/-- Registering a resource adds its label. -/
theorem tally_register (h : Handle) :
    (c.register d key h).2.tally (c.register d key h).1 = (h.labels, 0) + d.tally c := by
  rw [← c.tally_release d key]
  unfold register Desk.tally pending
  simp [add_left_comm, add_comm]

/-- Closing handles one after the other adds their labels. -/
theorem tally_closeAll (resources : List (String × Handle)) :
    (closeAll d resources).tally c =
      ((resources.map fun r => r.2.labels).sum, 0) + d.tally c := by
  unfold closeAll
  induction resources generalizing d with
  | nil => exact (zero_add (d.tally c)).symm
  | cons r rest ih =>
    have hsum : (((r :: rest).map fun r => r.2.labels).sum, (0 : Multiset Bool)) =
        (r.2.labels, 0) + ((rest.map fun r => r.2.labels).sum, 0) := by
      rw [List.map_cons, List.sum_cons, Prod.mk_add_mk, add_zero]
    rw [List.foldl_cons, ih, r.2.tally_close, hsum, add_assoc, add_left_comm]

/-- Clearing the context leaves the tally as it is. -/
theorem tally_clear : (c.clear d).2.tally (c.clear d).1 = d.tally c := by
  show (closeAll d c.resources).tally (empty c.hooked) = d.tally c
  rw [tally_closeAll]
  unfold Desk.tally pending empty
  simp [add_comm]

end Context

/-! ## Sessions -/

/-- What was closed at the desk of a session or is still open in its context, and the answers to
attempts to run the engine again. -/
def Session.tally (s : Session) : Multiset String × Multiset Bool := s.desk.tally s.context

/-- A touch leaves the tally as it is. -/
theorem Touch.tally_eq {s t : Session} (h : Touch s t) : t.tally = s.tally := by
  cases h with
  | logs level source message => exact (s.desk.quiet_logged level source message).tally s.context
  | happens event unreserved => exact (s.desk.quiet_record unreserved).tally s.context
  | turns => rfl
  | uses => rfl
  | binds => rfl
  | keeps => rfl
  | marks => rfl

/-- A program that is made of touches leaves the tally as it is. -/
theorem StepM.Within.tally_eq {α : Type} {x : StepM α} (h : Within Touch x) (s : Session) :
    (runIn s x).2.tally = s.tally := by
  have hs := h s
  generalize (runIn s x).2 = t at hs
  induction hs with
  | refl => rfl
  | tail _ last ih => exact last.tally_eq.trans ih

/-! ## Deeds -/

namespace Deed

/-- What a deed adds to the tally while the engine is running. -/
def dealt : Deed → Multiset String × Multiset Bool
  | .reenter => (0, {false})
  | .openResource _ handle => (handle.labels, 0)
  | _ => 0

/-- A deed that is done while the engine is running adds its own to the tally. -/
theorem tally_run (d : Deed) {s : Session} (h : s.running = true) :
    (runIn s d.run).2.tally = d.dealt + s.tally := by
  cases d with
  | reenter =>
    have hwarn := s.desk.quiet_logged .warning engineSource
      "A script is already running on this engine"
    have hdesk := (s.desk.warn engineSource
      "A script is already running on this engine").tally_record s.context (.reentered false true)
    show (runIn s runAgain).2.tally = _
    rw [runIn_runAgain, h]
    exact hdesk.trans (congrArg _ (hwarn.tally s.context))
  | openResource key handle => exact s.context.tally_register s.desk key handle
  | lookUp position =>
    rw [show dealt (.lookUp position) = 0 from rfl, zero_add]
    exact StepM.Within.tally_eq
      (within_bind (within_lookUp _ _) fun _ => (plain_happen rfl).within) s
  | request transfer target =>
    rw [show dealt (.request transfer target) = 0 from rfl, zero_add]
    exact StepM.Within.tally_eq (within_request _ _) s
  | setVariable name value =>
    rw [show dealt (.setVariable name value) = 0 from rfl, zero_add]
    exact StepM.Within.tally_eq (plain_setVariable _ _).within s
  | fail why => exact (zero_add _).symm
  | disable position =>
    rw [show dealt (.disable position) = 0 from rfl, zero_add]
    unfold run
    rw [runIn_bind, runIn_lookUp]
    cases expectKind position none s.kinds with
    | ok kind => rfl
    | error f => rfl

/-- A deed can be done among steps of some kinds. -/
def works (kinds : Option (List String)) : Deed → Bool
  | .lookUp position | .disable position => (expectKind position none kinds).isOk
  | .fail _ => false
  | _ => true

/-- A deed fails exactly when it cannot be done. -/
theorem isOk_runIn (d : Deed) (s : Session) : (runIn s d.run).1.isOk = d.works s.kinds := by
  cases d with
  | reenter =>
    show (runIn s runAgain).1.isOk = true
    rw [runIn_runAgain]
    rfl
  | lookUp position =>
    show (runIn s (StepM.lookUp position none >>= fun kind => happen (.lookedUp kind))).1.isOk =
      (expectKind position none s.kinds).isOk
    rw [runIn_bind, runIn_lookUp]
    cases expectKind position none s.kinds <;> rfl
  | disable position =>
    show (runIn s (StepM.lookUp position none >>= fun _ => _)).1.isOk =
      (expectKind position none s.kinds).isOk
    rw [runIn_bind, runIn_lookUp]
    cases expectKind position none s.kinds <;> rfl
  | _ => rfl

/-- Deeds add to the tally up to the first that cannot be done. -/
theorem tally_forM (deeds : List Deed) {s : Session} (h : s.running = true) :
    (runIn s (deeds.forM run)).2.tally =
      ((deeds.takeWhile (works s.kinds)).map dealt).sum + s.tally := by
  induction deeds generalizing s with
  | nil => exact (zero_add s.tally).symm
  | cons d deeds ih =>
    have hd := d.tally_run h
    have hworks := d.isOk_runIn s
    obtain ⟨hrunning, hkinds⟩ := setting_of_meddlings (d.within_run s)
    have hforM : (d :: deeds).forM run = (d.run >>= fun _ => deeds.forM run) := rfl
    rw [hforM, runIn_bind]
    generalize runIn s d.run = p at hd hworks hrunning hkinds ⊢
    obtain ⟨f | u, t⟩ := p
    · -- A deed that fails adds nothing itself.
      have hfails : d.works s.kinds = false := hworks.symm
      have hnothing : d.dealt = 0 := by
        cases d with
        | reenter => cases hfails
        | openResource key handle => cases hfails
        | _ => rfl
      rw [List.takeWhile_cons_of_neg (by simp [hfails]), List.map_nil, List.sum_nil, ← hnothing]
      exact hd
    · have hdone : d.works s.kinds = true := hworks.symm
      dsimp only at hd hrunning hkinds ⊢
      rw [ih (hrunning.trans h), hd, hkinds, List.takeWhile_cons, hdone, if_pos rfl, List.map_cons,
        List.sum_cons, ← add_assoc, add_comm d.dealt]

end Deed

/-! ## Attempts -/

/-- The deeds of a probe at each visit; other steps have none. -/
def Work.routine : Work → Nat → List Deed
  | .probe p => p.routine
  | _ => fun _ => []

/-- The deeds that are done when work is attempted in a session: when it is valid, those of its
routine up to the first that cannot be done. -/
def Work.deedsIn (w : Work) (s : Session) : List Deed :=
  match w.check s.progress.visits with
  | .ok _ => (w.routine s.progress.visits).takeWhile (Deed.works s.kinds)
  | .error _ => []

/-- The body of a step adds the deeds that are done to the tally. -/
theorem Work.tally_run (w : Work) {s : Session} (h : s.running = true) :
    (runIn s w.run).2.tally =
      (((w.routine s.progress.visits).takeWhile (Deed.works s.kinds)).map Deed.dealt).sum +
        s.tally := by
  cases w with
  | action a => exact (StepM.Within.tally_eq a.within_run s).trans (zero_add s.tally).symm
  | bare => exact (zero_add s.tally).symm
  | probe p =>
    have hnoted := (s.desk.quiet_record (e := .visited p.label p.items s.position) rfl).tally
      s.context
    refine (Deed.tally_forM (p.routine s.progress.visits) (s := { s with
      desk := s.desk.record (.visited p.label p.items s.position) }) h).trans ?_
    exact congrArg _ hnoted

/-- The attempt of a step adds the deeds that are done to the tally. -/
theorem StepM.tally_guarded (w : Work) {s : Session} (h : s.running = true) :
    (runIn s (Engine.guarded w)).2.tally = ((w.deedsIn s).map Deed.dealt).sum + s.tally := by
  have herred (t : Session) (message : String) : (erred t message).tally = t.tally :=
    (t.desk.quiet_logged .error t.name message).tally t.context
  have hattempt : (runIn s (attempt w)).2.tally =
      ((w.deedsIn s).map Deed.dealt).sum + s.tally := by
    unfold Work.deedsIn
    rw [runIn_attempt]
    cases w.check s.progress.visits with
    | ok u =>
      have hrun := w.tally_run (s := begun s) h
      dsimp only
      rw [runIn_execute]
      generalize runIn (begun s) w.run = p at hrun ⊢
      obtain ⟨f | v, t⟩ := p
      · dsimp only
        split
        · exact (herred t _).trans hrun
        · exact hrun
      · exact hrun
    | error f =>
      dsimp only
      rw [List.map_nil, List.sum_nil, zero_add]
      cases f with
      | invalid why => exact herred s _
      | _ => rfl
  -- What goes wrong is logged, which adds nothing.
  rw [runIn_guarded]
  generalize runIn s (attempt w) = p at hattempt ⊢
  obtain ⟨f | ok, t⟩ := p
  · dsimp only
    split
    · exact hattempt
    · exact (herred t _).trans hattempt
  · exact hattempt

end Deskwork
