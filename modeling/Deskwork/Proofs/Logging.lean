/-
# What a Log Keeps and Tells

A log keeps the latest of the entries that it has accepted since it was last cleared, up to its capacity,
and tells each accepted entry to those who listen at that moment. Whatever the listeners make of it, every
entry comes once to each of them, and in order unless one of them answers with an entry of its own
(`recorded`). Only a capacity of zero keeps everything, and the last zero entries are all of them.
-/
import Deskwork.Proofs.Desk
import Mathlib.Data.List.DropRight

namespace Deskwork

/-! ## The end of a list -/

/-- The end of a list is the end of its end, when something is added. -/
theorem rtake_append_rtake {α : Type} (xs ys : List α) (n : Nat) :
    (xs.rtake n ++ ys).rtake n = (xs ++ ys).rtake n := by
  unfold List.rtake
  rw [← List.drop_append_of_le_length (Nat.sub_le _ _), List.drop_drop]
  congr 1
  simp only [List.length_append, List.length_drop]
  omega

/-- An end that has room for everything is everything. -/
theorem rtake_of_length_le {α : Type} {xs : List α} {n : Nat} (h : xs.length ≤ n) :
    xs.rtake n = xs := by
  unfold List.rtake
  rw [Nat.sub_eq_zero_of_le h, List.drop_zero]

/-- The last items are the end of the list, but for the last zero of them, which are all. -/
theorem lastItems_eq {α : Type} (n : Nat) (xs : List α) :
    lastItems n xs = if n = 0 then xs else xs.rtake n := by
  by_cases none : n = 0
  · subst none
    rfl
  · rw [if_neg none, lastItems_of_pos (by omega)]
    rfl

namespace StatusLog

/-- What a log keeps of some entries are the last ones of them. -/
theorem foldl_keep (n : Nat) (es : List LogEntry) :
    es.foldl (keep n) [] = lastItems n es := by
  induction es using List.reverseRecOn with
  | nil => simp [lastItems_eq]
  | append_singleton es e ih =>
    rw [List.foldl_concat, ih]
    unfold keep
    dsimp only
    rw [lastItems_eq, lastItems_eq, lastItems_eq]
    by_cases none : n = 0
    · simp [none]
    · rw [if_neg none, if_neg none, if_neg none, rtake_append_rtake]
      split
      · rfl
      · -- everything fits
        have fits : (es.rtake n ++ [e]).length ≤ n := by omega
        rw [← rtake_append_rtake, rtake_of_length_le fits]

end StatusLog

/-! ## Those who listen -/

/-- A level is accepted from a threshold on; from an unknown one none is. -/
def Threshold.admits : Threshold → Level → Bool
  | .level least, l => least.rank ≤ l.rank
  | .unknown _, _ => false

theorem StatusLog.accepts_eq (log : StatusLog) (l : Level) :
    log.accepts l = log.threshold.admits l := by
  unfold StatusLog.accepts Threshold.admits
  cases log.threshold <;> rfl

/-- Where entries come to: the name of the listener, or the paper on which it prints. -/
def Listener.ear (l : Listener) : Option String :=
  if l.manner = .print then none else some l.name

/-- The line that an event brings to an ear. -/
def Event.lineFor (ear : Option String) : Event → Option String
  | .heard name line => if some name = ear then some line else none
  | .printed line => if none = ear then some line else none
  | _ => none

/-- The lines that came to an ear, in order. -/
def Desk.received (d : Desk) (ear : Option String) : List String :=
  (d.machine.journal.filterMap (Event.lineFor ear)).reverse

/-- Those who listen on when a listener has been told of an entry. -/
def Listener.stay (ls : List Listener) (l : Listener) : List Listener :=
  if l.manner = .leave then ls.eraseP fun l' => l'.name == l.name else ls

/-- A listener answers an entry with one of its own, and the answer is accepted. Answers are not answered. -/
def Listener.answers (l : Listener) (t : Threshold) (e : LogEntry) : Bool :=
  l.manner = .echo && e.source != Desk.echoSource && t.admits .debug

theorem Listener.not_answers {l : Listener} {t : Threshold} {e : LogEntry} (h : l.manner ≠ .echo) :
    ¬ l.answers t e = true := by
  simp [answers, h]

/-- An entry that was accepted, and those who listened when it was. -/
structure Acceptance where
  entry : LogEntry
  listeners : List Listener

/-- The lines that an acceptance brings to an ear: one for each time that the ear listens. -/
def Acceptance.linesFor (a : Acceptance) (ear : Option String) : List String :=
  List.replicate (a.listeners.countP fun l => l.ear = ear) a.entry.line

/-- Nobody who listened to an entry answers with an entry of its own. -/
def Acceptance.Unanswered (a : Acceptance) : Prop := ∀ l ∈ a.listeners, l.manner ≠ .echo

namespace LogEntry

/-- The answer to an entry. -/
def echo (e : LogEntry) : LogEntry :=
  ⟨e.moment, "echo " ++ e.message, .debug, Desk.echoSource⟩

/-- The answers to an entry that are accepted while some listeners are told of it one after the other,
and those who listen in the end. Everybody who listens is told of an answer before the next listener is
told of the entry. -/
def answers (t : Threshold) (e : LogEntry) :
    List Listener → List Listener → List Acceptance × List Listener
  | [], ls => ([], ls)
  | l :: told, ls =>
    let ls := l.stay ls
    if l.answers t e then
      let (as, ls') := answers t e told (ls.foldl Listener.stay ls)
      (⟨e.echo, ls⟩ :: as, ls')
    else answers t e told ls

section

variable {t : Threshold} {e : LogEntry} {l : Listener} {told ls : List Listener}

theorem answers_cons_of_answer (h : l.answers t e = true) :
    answers t e (l :: told) ls =
      (⟨e.echo, l.stay ls⟩ :: (answers t e told ((l.stay ls).foldl Listener.stay (l.stay ls))).1,
        (answers t e told ((l.stay ls).foldl Listener.stay (l.stay ls))).2) :=
  if_pos h

theorem answers_cons_of_silent (h : ¬ l.answers t e = true) :
    answers t e (l :: told) ls = answers t e told (l.stay ls) :=
  if_neg h

/-- Where nobody answers there are no answers. -/
theorem answers_of_unanswered (silent : ∀ l ∈ told, l.manner ≠ .echo) :
    (answers t e told ls).1 = [] := by
  induction told generalizing ls with
  | nil => rfl
  | cons l told ih =>
    rw [answers_cons_of_silent (Listener.not_answers (silent l List.mem_cons_self))]
    exact ih fun l' mem => silent l' (List.mem_cons_of_mem l mem)

end

/-- The acceptances to which an entry leads, and those who listen in the end. -/
def acceptances (t : Threshold) (e : LogEntry) (ls : List Listener) :
    List Acceptance × List Listener :=
  if t.admits e.level then
    let (as, ls') := answers t e ls ls
    (⟨e, ls⟩ :: as, ls')
  else ([], ls)

end LogEntry

/-! ## Telling the listeners -/

namespace Desk

/-- An event brings its line to an ear, if it brings one. -/
theorem received_record (d : Desk) (e : Event) (ear : Option String) :
    (d.record e).received ear = d.received ear ++ (e.lineFor ear).toList := by
  unfold received record Machine.record
  dsimp only
  cases line : e.lineFor ear with
  | none => simp [line]
  | some text => simp [line]

/-- From one desk to another, some entries were accepted in turn, and some people listen in the end. -/
structure Logs (d : Desk) (as : List Acceptance) (ls : List Listener) (d' : Desk) : Prop where
  /-- Those who listen in the end. -/
  listeners : d'.log.listeners = ls
  /-- The entries are kept. -/
  entries : d'.log.entries = (as.map (·.entry)).foldl (StatusLog.keep d.log.capacity) d.log.entries
  /-- The log has the same capacity. -/
  capacity : d'.log.capacity = d.log.capacity
  /-- The log has the same threshold. -/
  threshold : d'.log.threshold = d.log.threshold
  /-- No time has passed. -/
  wall : d'.machine.wall = d.machine.wall

theorem Logs.refl (d : Desk) : d.Logs [] d.log.listeners d := ⟨rfl, rfl, rfl, rfl, rfl⟩

theorem Logs.trans {a b c : Desk} {as as' : List Acceptance} {ls ls' : List Listener}
    (h : a.Logs as ls b) (h' : b.Logs as' ls' c) : a.Logs (as ++ as') ls' c := by
  refine ⟨h'.listeners, ?_, h'.capacity.trans h.capacity, h'.threshold.trans h.threshold,
    h'.wall.trans h.wall⟩
  rw [h'.entries, h.entries, h.capacity, List.map_append, List.foldl_append]

/-- A listener who is told of an entry stays or leaves. -/
theorem logs_tell (e : LogEntry) (d : Desk) (l : Listener) :
    d.Logs [] (l.stay d.log.listeners) (tell e d l) := by
  unfold tell Listener.stay
  cases l.manner with
  | leave => exact ⟨rfl, rfl, rfl, rfl, rfl⟩
  | _ => exact ⟨rfl, rfl, rfl, rfl, rfl⟩

/-- A listener who is told of an entry takes note of it. -/
theorem received_tell (e : LogEntry) (d : Desk) (l : Listener) (ear : Option String) :
    (tell e d l).received ear = d.received ear ++ if l.ear = ear then [e.line] else [] := by
  have noted : (tell e d l).received ear
      = (d.record (if l.manner = .print then .printed e.line else .heard l.name e.line)).received ear := by
    unfold tell
    cases l.manner with
    | _ => rfl
  rw [noted, received_record]
  unfold Listener.ear
  split
  · simp only [Event.lineFor]
    split <;> rfl
  · simp only [Event.lineFor]
    split <;> rfl

/-- Listeners are told of an entry one after the other. -/
theorem logs_foldl_tell (e : LogEntry) (told : List Listener) (d : Desk) :
    d.Logs [] (told.foldl Listener.stay d.log.listeners) (told.foldl (tell e) d) := by
  induction told generalizing d with
  | nil => exact .refl d
  | cons l told ih =>
    have first := logs_tell e d l
    have rest := ih (tell e d l)
    rw [first.listeners] at rest
    exact first.trans rest

theorem received_foldl_tell (e : LogEntry) (told : List Listener) (d : Desk) (ear : Option String) :
    (told.foldl (tell e) d).received ear = d.received ear ++ (Acceptance.mk e told).linesFor ear := by
  induction told generalizing d with
  | nil => exact (List.append_nil _).symm
  | cons l told ih =>
    rw [List.foldl_cons, ih, received_tell, List.append_assoc]
    congr 1
    unfold Acceptance.linesFor
    dsimp only
    by_cases here : l.ear = ear
    · rw [if_pos here, List.countP_cons_of_pos (by simpa using here), List.replicate_succ]
      rfl
    · rw [if_neg here, List.countP_cons_of_neg (by simpa using here)]
      rfl

/-- An entry that is kept was accepted. -/
theorem logs_keep (d : Desk) (e : LogEntry) (ls : List Listener) :
    d.Logs [⟨e, ls⟩] d.log.listeners (d.keep e) := ⟨rfl, rfl, rfl, rfl, rfl⟩

/-- It comes to nobody by that. -/
theorem received_keep (d : Desk) (e : LogEntry) (ear : Option String) :
    (d.keep e).received ear = d.received ear :=
  (d.received_record (.logged e.level e.source e.message) ear).trans (List.append_nil _)

/-! ## Answers -/

/-- An entry that nobody answers is accepted and told to everyone who listens. -/
theorem logs_logQuietly (d : Desk) (level : Level) (source message : String)
    (accepted : d.log.threshold.admits level = true) :
    d.Logs [⟨d.entry level source message, d.log.listeners⟩]
        (d.log.listeners.foldl Listener.stay d.log.listeners) (d.logQuietly level source message)
      ∧ ∀ ear, (d.logQuietly level source message).received ear = d.received ear
        ++ (Acceptance.mk (d.entry level source message) d.log.listeners).linesFor ear := by
  unfold logQuietly
  rw [if_pos (by rw [d.log.accepts_eq, accepted])]
  dsimp only
  generalize d.entry level source message = e
  constructor
  · exact (d.logs_keep e d.log.listeners).trans (logs_foldl_tell e d.log.listeners (d.keep e))
  · intro ear
    rw [received_foldl_tell, received_keep]

/-- A listener who does not answer is told, and that is all. -/
theorem tellLoudly_of_silent {e : LogEntry} {d : Desk} {l : Listener}
    (silent : ¬ l.answers d.log.threshold e = true) : tellLoudly e d l = tell e d l := by
  unfold tellLoudly
  dsimp only
  split
  case isTrue answers =>
    -- the answer is not accepted
    have refused : ¬ (tell e d l).log.accepts .debug = true := by
      rw [StatusLog.accepts_eq, (logs_tell e d l).threshold]
      intro admitted
      exact silent (Bool.and_eq_true_iff.mpr ⟨answers, admitted⟩)
    unfold logQuietly
    rw [if_neg refused]
  case isFalse => rfl

/-- A listener who answers is told, and the answer is logged. -/
theorem logs_tellLoudly {e : LogEntry} {d : Desk} {l : Listener} (now : d.machine.wall = e.moment)
    (answered : l.answers d.log.threshold e = true) :
    let ls := l.stay d.log.listeners
    d.Logs [⟨e.echo, ls⟩] (ls.foldl Listener.stay ls) (tellLoudly e d l)
      ∧ ∀ ear, (tellLoudly e d l).received ear
        = (tell e d l).received ear ++ (Acceptance.mk e.echo ls).linesFor ear := by
  obtain ⟨answers, admitted⟩ := Bool.and_eq_true_iff.mp answered
  have told := logs_tell e d l
  have logged := (tell e d l).logs_logQuietly .debug echoSource ("echo " ++ e.message)
    (by rw [told.threshold, admitted])
  have answer : (tell e d l).entry .debug echoSource ("echo " ++ e.message) = e.echo := by
    unfold entry LogEntry.echo
    rw [told.wall, now]
  rw [told.listeners, answer] at logged
  unfold tellLoudly
  dsimp only
  rw [if_pos answers]
  exact ⟨told.trans logged.1, logged.2⟩

/-- While some listeners are told of an entry, they answer it, and everyone who listens is told of that. -/
theorem logs_foldl_tellLoudly (e : LogEntry) (told : List Listener) (d : Desk)
    (now : d.machine.wall = e.moment) :
    let after := e.answers d.log.threshold told d.log.listeners
    d.Logs after.1 after.2 (told.foldl (tellLoudly e) d)
      ∧ ∀ ear, ((told.foldl (tellLoudly e) d).received ear).Perm
        (d.received ear ++ (Acceptance.mk e told).linesFor ear ++ after.1.flatMap (·.linesFor ear)) := by
  induction told generalizing d with
  | nil => exact ⟨.refl d, fun ear => by simp [Acceptance.linesFor, LogEntry.answers]⟩
  | cons l told ih =>
    have came (ear : Option String) : d.received ear ++ (Acceptance.mk e (l :: told)).linesFor ear
        = (tell e d l).received ear ++ (Acceptance.mk e told).linesFor ear := by
      have whole := received_foldl_tell e (l :: told) d ear
      rwa [List.foldl_cons, received_foldl_tell, eq_comm] at whole
    intro after
    by_cases answered : l.answers d.log.threshold e = true
    · obtain ⟨first, answer⟩ := logs_tellLoudly now answered
      have rest := ih (tellLoudly e d l) (first.wall.trans now)
      rw [first.threshold, first.listeners] at rest
      have parts : after = _ := LogEntry.answers_cons_of_answer answered
      rw [parts]
      refine ⟨first.trans rest.1, fun ear => (rest.2 ear).trans ?_⟩
      rw [answer, came]
      -- the lines of the answer come before the rest of those of the entry
      simp only [List.flatMap_cons, List.append_assoc]
      exact (List.perm_append_comm_assoc _ _ _).append_left _
    · have first := logs_tell e d l
      have rest := ih (tell e d l) (first.wall.trans now)
      rw [first.threshold, first.listeners] at rest
      have parts : after = _ := LogEntry.answers_cons_of_silent answered
      rw [parts, List.foldl_cons, tellLoudly_of_silent answered]
      refine ⟨first.trans rest.1, fun ear => ?_⟩
      rw [came]
      exact rest.2 ear

/-- From one desk to another, the lines of some acceptances came to everyone who listened. -/
structure Brings (d : Desk) (as : List Acceptance) (d' : Desk) : Prop where
  /-- Every line came once. -/
  once : ∀ ear, (d'.received ear).Perm (d.received ear ++ as.flatMap (·.linesFor ear))
  /-- The lines came in order, unless somebody answered. -/
  inOrder : (∀ a ∈ as, a.Unanswered) →
    ∀ ear, d'.received ear = d.received ear ++ as.flatMap (·.linesFor ear)

theorem Brings.of_eq {d d' : Desk} {as : List Acceptance}
    (h : ∀ ear, d'.received ear = d.received ear ++ as.flatMap (·.linesFor ear)) : d.Brings as d' :=
  ⟨fun ear => .of_eq (h ear), fun _ => h⟩

/-- Where nothing came, nothing was accepted. -/
theorem Brings.of_nothing {d d' : Desk} (h : ∀ ear, d'.received ear = d.received ear) :
    d.Brings [] d' :=
  .of_eq fun ear => by rw [h, List.flatMap_nil, List.append_nil]

theorem Brings.trans {a b c : Desk} {as as' : List Acceptance} (h : a.Brings as b)
    (h' : b.Brings as' c) : a.Brings (as ++ as') c := by
  constructor
  · intro ear
    rw [List.flatMap_append, ← List.append_assoc]
    exact (h'.once ear).trans ((h.once ear).append_right _)
  · intro unanswered ear
    rw [h'.inOrder fun x mem => unanswered x (List.mem_append_right _ mem),
      h.inOrder fun x mem => unanswered x (List.mem_append_left _ mem),
      List.flatMap_append, List.append_assoc]

/-- When nobody answers, an entry is logged quietly. -/
theorem logged_of_unanswered {d : Desk} (unanswered : ∀ l ∈ d.log.listeners, l.manner ≠ .echo)
    (level : Level) (source message : String) :
    d.logged level source message = d.logQuietly level source message := by
  have silent (d' : Desk) (e : LogEntry) (l : Listener) (mem : l ∈ d.log.listeners) :
      tellLoudly e d' l = tell e d' l := by
    exact tellLoudly_of_silent (Listener.not_answers (unanswered l mem))
  unfold logged logQuietly
  split
  · exact List.foldl_ext _ _ _ fun d' l mem => silent d' _ l mem
  · rfl

/-- An entry that is logged leads to its acceptances. -/
theorem logs_logged (d : Desk) (level : Level) (source message : String) :
    let after := (d.entry level source message).acceptances d.log.threshold d.log.listeners
    d.Logs after.1 after.2 (d.logged level source message)
      ∧ d.Brings after.1 (d.logged level source message) := by
  intro after
  by_cases admitted : d.log.threshold.admits level = true
  · have parts : after = (_ :: _, _) := if_pos admitted
    have told := logs_foldl_tellLoudly (d.entry level source message) d.log.listeners
      (d.keep (d.entry level source message)) rfl
    have logged : d.logged level source message = d.log.listeners.foldl
        (tellLoudly (d.entry level source message)) (d.keep (d.entry level source message)) :=
      if_pos (by rw [d.log.accepts_eq, admitted])
    rw [parts]
    refine ⟨?_, ?_, ?_⟩
    · rw [logged]
      exact (d.logs_keep _ d.log.listeners).trans told.1
    · intro ear
      rw [logged, List.flatMap_cons, ← List.append_assoc]
      have came := told.2 ear
      rwa [received_keep] at came
    · intro unanswered ear
      have silent := unanswered _ List.mem_cons_self
      rw [logged_of_unanswered silent, (d.logs_logQuietly level source message admitted).2,
        List.flatMap_cons, LogEntry.answers_of_unanswered silent, List.flatMap_nil, List.append_nil]
  · have parts : after = ([], d.log.listeners) := if_neg admitted
    have logged : d.logged level source message = d := if_neg (by rw [d.log.accepts_eq]; exact admitted)
    rw [parts, logged]
    exact ⟨.refl d, .of_nothing fun _ => rfl⟩

end Desk

/-! ## Histories -/

/-- A moment, and those who listen then. -/
structure Gathering where
  now : Time.Moment
  listeners : List Listener

/-- What is done with a log. -/
inductive LogCall where
  | log (level : Level) (source message : String)
  /-- The entries are removed, which is logged. -/
  | clear
  | listen (l : Listener)
  /-- The first listener of a name listens no longer. -/
  | unlisten (name : String)
  | elapse (now : Time.Moment)
  deriving DecidableEq

namespace LogCall

/-- A desk after a call. -/
def apply (d : Desk) : LogCall → Desk
  | .log level source message => d.logged level source message
  | .clear => d.clearLog
  | .listen l => { d with log := d.log.listen l }
  | .unlisten name => { d with log := d.log.unlisten name }
  | .elapse now => { d with machine := { d.machine with wall := now } }

/-- A desk after some calls. -/
def after (d : Desk) (history : List LogCall) : Desk := history.foldl apply d

/-- The acceptances to which a call leads, and the gathering in the end. -/
def effect (t : Threshold) (g : Gathering) : LogCall → List Acceptance × Gathering
  | .log level source message =>
    let (as, ls) := (LogEntry.mk g.now message level source).acceptances t g.listeners
    (as, { g with listeners := ls })
  | .clear =>
    let (as, ls) := (LogEntry.mk g.now "Log history cleared" .info "").acceptances t g.listeners
    (as, { g with listeners := ls })
  | .listen l => ([], { g with listeners := g.listeners ++ [l] })
  | .unlisten name => ([], { g with listeners := g.listeners.eraseP fun l => l.name == name })
  | .elapse now => ([], { g with now := now })

/-- All acceptances to which some calls lead, in order. -/
def acceptances (t : Threshold) (g : Gathering) : List LogCall → List Acceptance
  | [] => []
  | x :: later => (x.effect t g).1 ++ acceptances t (x.effect t g).2 later

/-- The entries that were accepted since the log was last cleared, in order. -/
def current (t : Threshold) (g : Gathering) : List LogCall → List LogEntry
  | [] => []
  | x :: later =>
    (if .clear ∈ later then [] else (x.effect t g).1.map (·.entry)) ++ current t (x.effect t g).2 later

end LogCall

/-- The gathering at a desk. -/
def Desk.gathering (d : Desk) : Gathering := ⟨d.machine.wall, d.log.listeners⟩

namespace LogCall

/-- A call leads from one desk to the next. -/
theorem effect_apply (x : LogCall) (d : Desk) :
    let after := x.effect d.log.threshold d.gathering
    (x.apply d).gathering = after.2
      ∧ (x.apply d).log.entries = (after.1.map (·.entry)).foldl (StatusLog.keep d.log.capacity)
          (if x = .clear then [] else d.log.entries)
      ∧ (x.apply d).log.capacity = d.log.capacity
      ∧ (x.apply d).log.threshold = d.log.threshold
      ∧ d.Brings after.1 (x.apply d) := by
  have logs (d : Desk) (level : Level) (source message : String) :
      let after := (d.entry level source message).acceptances d.log.threshold d.log.listeners
      (d.logged level source message).gathering = ⟨d.machine.wall, after.2⟩ := by
    obtain ⟨logged, -⟩ := d.logs_logged level source message
    unfold Desk.gathering
    rw [logged.wall, logged.listeners]
  cases x with
  | log level source message =>
    obtain ⟨logged, came⟩ := d.logs_logged level source message
    exact ⟨logs d level source message, logged.entries, logged.capacity, logged.threshold, came⟩
  | clear =>
    obtain ⟨logged, came⟩ := ({ d with log := { d.log with entries := [] } } : Desk).logs_logged
      .info "" "Log history cleared"
    exact ⟨logs _ .info "" "Log history cleared", logged.entries, logged.capacity, logged.threshold,
      came.once, came.inOrder⟩
  | listen l => exact ⟨rfl, rfl, rfl, rfl, .of_nothing fun _ => rfl⟩
  | unlisten name => exact ⟨rfl, rfl, rfl, rfl, .of_nothing fun _ => rfl⟩
  | elapse now => exact ⟨rfl, rfl, rfl, rfl, .of_nothing fun _ => rfl⟩

/-- What was accepted since the log was last cleared is kept after what was there before, if anything. -/
theorem entries_after (d : Desk) (history : List LogCall) :
    (after d history).log.entries = (current d.log.threshold d.gathering history).foldl
      (StatusLog.keep d.log.capacity) (if .clear ∈ history then [] else d.log.entries) := by
  induction history generalizing d with
  | nil => simp [after, current]
  | cons x later ih =>
    obtain ⟨gathering, entries, capacity, threshold, -⟩ := x.effect_apply d
    have rest := ih (x.apply d)
    rw [capacity, threshold, gathering] at rest
    show (after (x.apply d) later).log.entries = _
    rw [rest, current]
    by_cases again : LogCall.clear ∈ later
    · rw [if_pos again, if_pos again, if_pos (List.mem_cons_of_mem x again), List.nil_append]
    · have front : (LogCall.clear ∈ x :: later) ↔ x = .clear := by
        simp [again, eq_comm]
      rw [if_neg again, if_neg again, List.foldl_append, entries]
      simp only [front]

/-- Everyone who listens is told of what is accepted in some calls. -/
theorem brings_after (d : Desk) (history : List LogCall) :
    d.Brings (acceptances d.log.threshold d.gathering history) (after d history) := by
  induction history generalizing d with
  | nil => exact .of_nothing fun _ => rfl
  | cons x later ih =>
    obtain ⟨gathering, -, -, threshold, came⟩ := x.effect_apply d
    have rest := ih (x.apply d)
    rw [threshold, gathering] at rest
    exact came.trans rest

/-- What a new log has kept and told after some calls. -/
structure Recorded (d : Desk) (n : Nat) (t : Threshold) (history : List LogCall) (d' : Desk) : Prop where
  /-- It has the last entries of those that were accepted since it was last cleared; without any capacity
  it has all of them. -/
  kept : d'.log.entries = let current := current t ⟨d.machine.wall, []⟩ history
    if n = 0 then current else current.rtake n
  /-- The latest entries are the last ones that it has; the latest zero are all of them. -/
  recent : ∀ k : Nat, d'.log.recent k = if k = 0 then d'.log.entries else d'.log.entries.rtake k
  /-- Every accepted entry came once to everyone who listened when it was accepted. -/
  once : ∀ ear, (d'.received ear).Perm
    (d.received ear ++ (acceptances t ⟨d.machine.wall, []⟩ history).flatMap (·.linesFor ear))
  /-- They came in order, if nobody answered with entries of its own. -/
  inOrder : (∀ a ∈ acceptances t ⟨d.machine.wall, []⟩ history, a.Unanswered) → ∀ ear, d'.received ear
    = d.received ear ++ (acceptances t ⟨d.machine.wall, []⟩ history).flatMap (·.linesFor ear)

/-- A new log of any capacity and threshold keeps and tells what is accepted in any calls. -/
theorem recorded (d : Desk) (n : Nat) (t : Threshold) (history : List LogCall) :
    Recorded d n t history (after { d with log := .new n t } history) := by
  have came := brings_after { d with log := .new n t } history
  constructor
  · have all := entries_after { d with log := .new n t } history
    have fresh : (if LogCall.clear ∈ history then [] else (StatusLog.new n t).entries) = [] :=
      ite_self _
    rw [all, fresh]
    exact (StatusLog.foldl_keep n _).trans (lastItems_eq n _)
  · intro k
    exact lastItems_eq k _
  · exact came.once
  · exact came.inOrder

/-- Two people listen, of whom one always fails and the other one leaves in the end. The second entry is not
important enough. -/
def meeting : List LogCall :=
  [.listen ⟨"broken", .fail⟩, .listen ⟨"caller", .hear⟩, .log .info "" "first", .log .debug "" "aside",
    .log .warning "Clerk" "second", .unlisten "caller", .log .error "" "third"]

/-- A log with room for two entries has lost the first one, which the caller has heard. -/
theorem recorded_meeting :
    let d := after { Desk.blank with log := .new 2 (.level .info) } meeting
    Recorded .blank 2 (.level .info) meeting d ∧ d.log.entries.map (·.message) = ["second", "third"]
      ∧ d.received (some "caller") = ["[00:00:00] INFO: first", "[00:00:00] WARNING: Clerk: second"] := by
  intro d
  have recorded : Recorded .blank 2 (.level .info) meeting d := recorded .blank 2 (.level .info) meeting
  refine ⟨recorded, ?_, ?_⟩
  · rw [recorded.kept]
    decide
  · decide +kernel

end LogCall

end Deskwork
