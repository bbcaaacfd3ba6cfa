/-
# What the Desk Keeps

Logging, listening, asking for custom variables and expanding templates all change the desk. None of
them changes what the account of a run is about: the notes of the observers, the answer to the
question who uses the machine, and the threshold of the log (`Steady`); neither do resources get
closed by them (`Quiet`). Entries of the log and attempts to run an engine that is running leave
nothing but talk behind, which can be left out (`hushed`).
-/
import Deskwork.Desk

namespace Deskwork

/-- The event is a note that an observer took of a run. -/
def Event.isNotice : Event → Bool
  | .executed .. | .completed .. => true
  | _ => false

/-- The event belongs to the run itself: a note that an observer took of it, the closing of a resource,
or an attempt to run the engine again. -/
def Event.isReserved : Event → Bool
  | .executed .. | .completed .. | .closed .. | .reentered .. | .rerun .. => true
  | _ => false

/-- The event is talk: an entry of the log, what listeners made of it, or an attempt to run the engine
again. -/
def Event.isTalk : Event → Bool
  | .logged .. | .heard .. | .printed .. | .reentered .. | .rerun .. => true
  | _ => false

theorem Event.isNotice_of_not_reserved {e : Event} (h : e.isReserved = false) :
    e.isNotice = false := by
  cases e with
  | executed => cases h
  | completed => cases h
  | _ => rfl

/-- Whether a log can be written to depends on its threshold only. -/
theorem StatusLog.ready_congr {l l' : StatusLog} (h : l'.threshold = l.threshold) :
    l'.ready = l.ready := by
  unfold StatusLog.ready
  rw [h]

namespace Desk

/-- The notes that observers took of runs, in order. -/
def notices (d : Desk) : List Event :=
  (d.machine.journal.filter Event.isNotice).reverse

/-- Nothing that the account of a run is about differs from one desk to the other. -/
structure Steady (d d' : Desk) : Prop where
  /-- No observer took a note. -/
  notices : d'.notices = d.notices
  /-- The same user, or the same reason not to know it. -/
  user : d'.machine.user = d.machine.user
  /-- The same entries are accepted. -/
  threshold : d'.log.threshold = d.log.threshold

theorem Steady.refl (d : Desk) : d.Steady d := ⟨rfl, rfl, rfl⟩

theorem Steady.trans {a b c : Desk} (h : a.Steady b) (h' : b.Steady c) : a.Steady c :=
  ⟨h'.notices.trans h.notices, h'.user.trans h.user, h'.threshold.trans h.threshold⟩

/-- The user is known at one desk as at the other. -/
theorem Steady.userName {d d' : Desk} (h : d.Steady d') : d'.userName = d.userName := by
  unfold Desk.userName
  rw [h.user]

/-- The log can be written to at one desk as at the other. -/
theorem Steady.ready {d d' : Desk} (h : d.Steady d') : d'.log.ready = d.log.ready :=
  StatusLog.ready_congr h.threshold

/-- From one desk to the other, observers took the given notes, and nothing else differs that the
account of a run is about. -/
structure Gains (d d' : Desk) (notes : List Event) : Prop where
  /-- The notes were taken. -/
  notices : d'.notices = d.notices ++ notes
  /-- The same user, or the same reason not to know it. -/
  user : d'.machine.user = d.machine.user
  /-- The same entries are accepted. -/
  threshold : d'.log.threshold = d.log.threshold

theorem Steady.gains {d d' : Desk} (h : d.Steady d') : d.Gains d' [] :=
  ⟨by rw [h.notices, List.append_nil], h.user, h.threshold⟩

theorem Gains.trans {a b c : Desk} {xs ys : List Event} (h : a.Gains b xs) (h' : b.Gains c ys) :
    a.Gains c (xs ++ ys) :=
  ⟨by rw [h'.notices, h.notices, List.append_assoc], h'.user.trans h.user,
    h'.threshold.trans h.threshold⟩

theorem Gains.steady {a b c : Desk} {xs : List Event} (h : a.Gains b xs) (h' : b.Steady c) :
    a.Gains c xs :=
  List.append_nil xs ▸ h.trans h'.gains

theorem Steady.gain {a b c : Desk} {xs : List Event} (h : a.Steady b) (h' : b.Gains c xs) :
    a.Gains c xs :=
  h.gains.trans h'

/-! ## Events -/

/-- A note of an observer comes last. -/
theorem gains_record (d : Desk) {e : Event} (h : e.isNotice = true) : d.Gains (d.record e) [e] :=
  ⟨by simp [notices, record, Machine.record, h], rfl, rfl⟩

/-- Any other event leaves the desk steady. -/
theorem steady_record (d : Desk) {e : Event} (h : e.isNotice = false) : d.Steady (d.record e) :=
  ⟨by simp [notices, record, Machine.record, h], rfl, rfl⟩

/-! ## Quiet -/

/-- The events that belong to runs, the latest first. -/
def reserved (d : Desk) : List Event := d.machine.journal.filter Event.isReserved

/-- Nothing that belongs to a run happened from one desk to the other: they are steady, and no
resource was closed and no attempt made to run an engine again. -/
structure Quiet (d d' : Desk) : Prop where
  /-- The same events belong to runs. -/
  reserved : d'.reserved = d.reserved
  /-- The same user, or the same reason not to know it. -/
  user : d'.machine.user = d.machine.user
  /-- The same entries are accepted. -/
  threshold : d'.log.threshold = d.log.threshold

theorem Quiet.refl (d : Desk) : d.Quiet d := ⟨rfl, rfl, rfl⟩

theorem Quiet.trans {a b c : Desk} (h : a.Quiet b) (h' : b.Quiet c) : a.Quiet c :=
  ⟨h'.reserved.trans h.reserved, h'.user.trans h.user, h'.threshold.trans h.threshold⟩

/-- The notes of observers belong to runs. -/
theorem notices_eq (d : Desk) : d.notices = (d.reserved.filter Event.isNotice).reverse := by
  have hnotice (e : Event) : (e.isNotice && e.isReserved) = e.isNotice := by
    cases h : e.isReserved with
    | true => exact Bool.and_true _
    | false => rw [Event.isNotice_of_not_reserved h, Bool.and_false]
  unfold notices reserved
  rw [List.filter_filter]
  simp only [hnotice]

theorem Quiet.steady {d d' : Desk} (h : d.Quiet d') : d.Steady d' :=
  ⟨by rw [notices_eq, notices_eq, h.reserved], h.user, h.threshold⟩

theorem quiet_record (d : Desk) {e : Event} (h : e.isReserved = false) : d.Quiet (d.record e) :=
  ⟨by simp [reserved, record, Machine.record, h], rfl, rfl⟩

/-! ## Talk -/

/-- The desk without its talk: no entries, no listeners, and no talk in the journal. -/
def hushed (d : Desk) : Desk :=
  { d with
    machine := { d.machine with journal := d.machine.journal.filter fun e => !e.isTalk }
    log := { d.log with entries := [], listeners := [] } }

@[simp] theorem hushed_hushed (d : Desk) : d.hushed.hushed = d.hushed := by
  unfold hushed
  simp

/-- Talk that happens is left out. -/
theorem hushed_record_of_talk (d : Desk) {e : Event} (h : e.isTalk = true) :
    (d.record e).hushed = d.hushed := by
  unfold hushed record Machine.record
  simp [h]

/-- What happens at a desk happens there without its talk as well. -/
@[simp] theorem hushed_record (d : Desk) (e : Event) :
    (d.hushed.record e).hushed = (d.record e).hushed := by
  unfold hushed record Machine.record
  cases h : e.isTalk with
  | true => simp [h]
  | false => simp [h]

/-- From one desk to the other there was only talk, and no attempt to run an engine. -/
structure Chats (d d' : Desk) : Prop where
  /-- Without the talk the desks are the same. -/
  hushed : d'.hushed = d.hushed
  /-- The same events belong to runs. -/
  reserved : d'.reserved = d.reserved

theorem Chats.refl (d : Desk) : d.Chats d := ⟨rfl, rfl⟩

theorem Chats.trans {a b c : Desk} (h : a.Chats b) (h' : b.Chats c) : a.Chats c :=
  ⟨h'.hushed.trans h.hushed, h'.reserved.trans h.reserved⟩

/-- Talk does not matter where the journal is looked through for something else. -/
theorem Chats.filter_journal {d d' : Desk} (h : d.Chats d') {p : Event → Bool}
    (hp : ∀ e, p e = true → e.isTalk = false) :
    d'.machine.journal.filter p = d.machine.journal.filter p := by
  have hsilent (d : Desk) : d.hushed.machine.journal.filter p = d.machine.journal.filter p := by
    unfold Desk.hushed
    dsimp only
    rw [List.filter_filter]
    refine List.filter_congr fun e _ => ?_
    cases he : p e with
    | false => rfl
    | true => rw [hp e he, Bool.not_false, Bool.and_true]
  rw [← hsilent d', h.hushed, hsilent d]

theorem Chats.quiet {d d' : Desk} (h : d.Chats d') : d.Quiet d' :=
  ⟨h.reserved, congrArg (·.machine.user) h.hushed, congrArg (·.log.threshold) h.hushed⟩

theorem chats_record (d : Desk) {e : Event} (h : e.isTalk = true) (h' : e.isReserved = false) :
    d.Chats (d.record e) :=
  ⟨d.hushed_record_of_talk h, (d.quiet_record h').reserved⟩

/-! ## Logging -/

theorem chats_keep (d : Desk) (e : LogEntry) : d.Chats (d.keep e) := by
  have h := d.chats_record (e := .logged e.level e.source e.message) rfl rfl
  exact ⟨h.hushed, h.reserved⟩

theorem chats_tell (e : LogEntry) (d : Desk) (l : Listener) : d.Chats (tell e d l) := by
  unfold tell
  cases l.manner
  case leave =>
    have h := d.chats_record (e := .heard l.name e.line) rfl rfl
    exact ⟨h.hushed, h.reserved⟩
  all_goals exact d.chats_record rfl rfl

/-- Telling listeners one after the other is only talk when telling each one is. -/
theorem chats_foldl {f : Desk → Listener → Desk} (hf : ∀ (d : Desk) l, d.Chats (f d l))
    (ls : List Listener) (d : Desk) : d.Chats (ls.foldl f d) := by
  induction ls generalizing d with
  | nil => exact .refl d
  | cons l ls ih => exact (hf d l).trans (ih (f d l))

theorem chats_logQuietly (d : Desk) (level : Level) (source message : String) :
    d.Chats (d.logQuietly level source message) := by
  unfold logQuietly
  split
  · exact (d.chats_keep _).trans (chats_foldl (chats_tell _) _ _)
  · exact .refl d

theorem chats_tellLoudly (e : LogEntry) (d : Desk) (l : Listener) :
    d.Chats (tellLoudly e d l) := by
  unfold tellLoudly
  dsimp only
  split
  · exact (chats_tell e d l).trans (chats_logQuietly _ _ _ _)
  · exact chats_tell e d l

/-- An entry of the log is only talk, whoever listens. -/
theorem chats_logged (d : Desk) (level : Level) (source message : String) :
    d.Chats (d.logged level source message) := by
  unfold logged
  split
  · exact (d.chats_keep _).trans (chats_foldl (chats_tellLoudly _) _ _)
  · exact .refl d

theorem quiet_logged (d : Desk) (level : Level) (source message : String) :
    d.Quiet (d.logged level source message) :=
  (d.chats_logged level source message).quiet

/-- An entry of the log leaves the desk steady. -/
theorem steady_logged (d : Desk) (level : Level) (source message : String) :
    d.Steady (d.logged level source message) :=
  (d.quiet_logged level source message).steady

/-- An entry of the log is left out. -/
@[simp] theorem hushed_logged (d : Desk) (level : Level) (source message : String) :
    (d.logged level source message).hushed = d.hushed :=
  (d.chats_logged level source message).hushed

/-! ## Templates -/

theorem quiet_consult (d : Desk) : d.Quiet d.consult.2 := by
  unfold consult
  cases d.expander.provider with
  | none => exact .refl d
  | given bindings => exact d.quiet_record rfl
  | failing why => exact d.quiet_record rfl
  | settings path => exact ⟨rfl, rfl, rfl⟩

theorem quiet_customVariables (d : Desk) : d.Quiet d.customVariables.2 := by
  unfold customVariables
  split
  · exact .refl d
  · have h := d.quiet_consult
    generalize d.consult = p at h ⊢
    obtain ⟨r, d'⟩ := p
    cases r with
    | ok bindings => exact ⟨h.reserved, h.user, h.threshold⟩
    | error f =>
      dsimp only
      split
      · have h' := h.trans (d'.quiet_logged .warning templateSource
          ("Failed to load custom variables: " ++ f.message))
        exact ⟨h'.reserved, h'.user, h'.threshold⟩
      · exact ⟨h.reserved, h.user, h.threshold⟩

/-- Nothing that belongs to a run happens while a text is expanded. -/
theorem quiet_expand (d : Desk) (bindings : List (String × Scalar)) (text : String) :
    d.Quiet (d.expand bindings text).2 := by
  unfold expand
  split
  · exact .refl d
  · split
    · exact .refl d
    · exact d.quiet_customVariables

/-- Expanding fails only when a text that may hold tokens meets a user that cannot be found out. -/
theorem expand_eq_error_iff (d : Desk) (bindings : List (String × Scalar)) (text : String)
    (f : Fault) :
    (d.expand bindings text).1 = .error f ↔
      Template.mayHoldTokens text = true ∧ d.userName = .error f := by
  unfold expand standardValues
  cases h : Template.mayHoldTokens text
  · simp
  · cases hu : d.userName with
    | error g => simp [Except.map]
    | ok name => simp [Except.map]

/-- A desk on which nothing has happened: no files, the beginning of the calendar, an empty log. -/
def blank : Desk :=
  ⟨Machine.new ⟨[], []⟩ ⟨0, none, Time.calendarMicros_pos⟩, .standard, .standard⟩

end Desk

end Deskwork
