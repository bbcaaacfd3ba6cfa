/-
# What Programs Send

Some events leave the machine: keys go down and up, buttons are clicked. What a program sends are the
events of such a sort that it adds to the journal, and `Sends` says how they depend on what the program
comes to. Talk and pauses send nothing, so what a step sends is what its body sends, whichever way the
step is carried out (`sent_of_mem_ways`).
-/
import Deskwork.Proofs.Session.Touches

namespace Deskwork

/-- A sort of events that holds neither talk nor pauses. -/
structure Outward (p : Event → Bool) : Prop where
  /-- None of them is talk. -/
  noTalk : ∀ e, p e = true → e.isTalk = false
  /-- None of them is a pause. -/
  noPause : ∀ a, p (.slept a) = false ∧ p (.paused a) = false

/-- A sort of events by which no listener is told of an entry, and no echo of one. -/
structure Unheard (p : Event → Bool) : Prop where
  /-- None of them comes to a listener. -/
  noHearing : ∀ name line, p (.heard name line) = false ∧ p (.printed line) = false
  /-- None of them is an echo. -/
  noEcho : ∀ message, p (.logged .debug Desk.echoSource message) = false

variable {p : Event → Bool}

namespace Desk

/-- The events of a sort that happened at the desk, in order. -/
def sent (p : Event → Bool) (d : Desk) : List Event := (d.machine.journal.filter p).reverse

/-- An event of the sort comes last. -/
theorem sent_record (d : Desk) {e : Event} (h : p e = true) :
    (d.record e).sent p = d.sent p ++ [e] := by
  simp [sent, record, Machine.record, h]

/-- Any other event is left out. -/
theorem sent_record_of_not (d : Desk) {e : Event} (h : p e = false) :
    (d.record e).sent p = d.sent p := by
  simp [sent, record, Machine.record, h]

/-- Talk sends nothing. -/
theorem Chats.sent {d d' : Desk} (h : d.Chats d') (outward : Outward p) :
    d'.sent p = d.sent p :=
  congrArg List.reverse (h.filter_journal outward.noTalk)

/-- Listeners who are told one after the other send nothing when none of them does. -/
theorem sent_foldl {f : Desk → Listener → Desk} (silent : ∀ d l, (f d l).sent p = d.sent p)
    (ls : List Listener) (d : Desk) : (ls.foldl f d).sent p = d.sent p := by
  induction ls generalizing d with
  | nil => rfl
  | cons l ls ih => exact (ih (f d l)).trans (silent d l)

theorem sent_tell (unheard : Unheard p) (e : LogEntry) (d : Desk) (l : Listener) :
    (tell e d l).sent p = d.sent p := by
  unfold tell
  cases l.manner
  case print => exact d.sent_record_of_not (unheard.noHearing l.name e.line).2
  all_goals exact d.sent_record_of_not (unheard.noHearing l.name e.line).1

theorem sent_tellLoudly (unheard : Unheard p) (e : LogEntry) (d : Desk) (l : Listener) :
    (tellLoudly e d l).sent p = d.sent p := by
  have echoed (d : Desk) (message : String) :
      (d.logQuietly .debug echoSource message).sent p = d.sent p := by
    unfold logQuietly
    split
    · exact (sent_foldl (sent_tell unheard _) _ _).trans (d.sent_record_of_not (unheard.noEcho message))
    · rfl
  unfold tellLoudly
  dsimp only
  split
  · exact (echoed _ _).trans (sent_tell unheard e d l)
  · exact sent_tell unheard e d l

/-- An entry of a sort is noted once, if the log accepts it. -/
theorem sent_logged (unheard : Unheard p) (d : Desk) {level : Level} {source message : String}
    (h : p (.logged level source message) = true) :
    (d.logged level source message).sent p =
      d.sent p ++ if d.log.accepts level then [.logged level source message] else [] := by
  unfold logged
  by_cases accepted : d.log.accepts level = true
  · rw [if_pos accepted, if_pos accepted]
    exact (sent_foldl (sent_tellLoudly unheard _) _ _).trans (d.sent_record h)
  · rw [if_neg accepted, if_neg accepted, List.append_nil]

/-- A pause that the machine sits out sends nothing. -/
theorem sent_machine_sleep (outward : Outward p) (d : Desk) (x : Number.Amount) :
    ({ d with machine := (d.machine.sleep x).2 } : Desk).sent p = d.sent p := by
  obtain ⟨-, noted⟩ := StepM.sleep_journal d.machine d.machine.journal x
  unfold Desk.sent
  dsimp only
  rw [noted, List.filter_cons_of_neg (by simp [(outward.noPause x).1])]

/-- A pause sends nothing. -/
theorem sent_sleep (outward : Outward p) (c : Context) (d : Desk) (x : Number.Amount) :
    (c.sleep d x).2.sent p = d.sent p := by
  unfold Context.sleep
  split
  · rfl
  split
  · exact d.sent_record_of_not (outward.noPause x).2
  · exact sent_machine_sleep outward d x

theorem sent_sleepMillis (outward : Outward p) (c : Context) (d : Desk) (ms : Number.Amount) :
    (c.sleepMillis d ms).2.sent p = d.sent p := by
  unfold Context.sleepMillis
  split
  · exact sent_sleep outward c d _
  · rfl

/-- Of the machine, an entry of the log changes the journal only. -/
theorem machine_logged (d : Desk) (level : Level) (source message : String) :
    (d.logged level source message).machine
      = { d.machine with journal := (d.logged level source message).machine.journal } :=
  congrArg (fun d' : Desk =>
      { d'.machine with journal := (d.logged level source message).machine.journal })
    (d.hushed_logged level source message)

end Desk

/-- The session of the first step of a run. -/
def Session.first (hooked : Bool) (d : Desk) : Session :=
  ⟨d, .empty hooked, false, none, true, 1, "step", .fresh, []⟩

/-- The session after an informational entry of its step. -/
def Session.told (s : Session) (message : String) : Session :=
  { s with desk := s.desk.info s.name message }

namespace Session

variable (s : Session) (message : String)

/-- Of the machine, an entry of the step changes the journal only. -/
theorem machine_told : (s.told message).desk.machine
    = { s.desk.machine with journal := (s.told message).desk.machine.journal } :=
  s.desk.machine_logged .info s.name message

theorem sent_told (outward : Outward p) : (s.told message).desk.sent p = s.desk.sent p :=
  (s.desk.chats_logged .info s.name message).sent outward

end Session

namespace StepM

variable {α β : Type} {x : StepM α}

/-- A program that looks at its session goes on with it. -/
theorem runIn_get (s : Session) (k : Session → StepM α) : runIn s (get >>= k) = runIn s (k s) := rfl

/-- A program that makes an entry and then looks at its session goes on in the session it has made. -/
theorem runIn_told (s : Session) (message : String) (k : Session → StepM α) :
    runIn s (info message >>= fun _ => get >>= k) = runIn (s.told message) (k (s.told message)) := by
  rw [runIn_bind]
  exact runIn_get (s.told message) k

/-! ## Programs that send -/

/-- Whatever session a program starts from, what it comes to and what it sends are as `P` says. -/
def Sends (p : Event → Bool) (P : Except Fault α → List Event → Prop) (x : StepM α) : Prop :=
  ∀ s, ∃ es, (runIn s x).2.desk.sent p = s.desk.sent p ++ es ∧ P (runIn s x).1 es

/-- A program sends nothing. -/
def Mute (p : Event → Bool) (x : StepM α) : Prop := Sends p (fun _ es => es = []) x

/-- A program that comes to its end has sent just these events, and one that fails has sent the first ones
of them. -/
def Delivers (p : Event → Bool) (sent : List Event) (x : StepM α) : Prop :=
  Sends p (fun r es => es <+: sent ∧ ∀ a, r = .ok a → es = sent) x

theorem Sends.mono {P Q : Except Fault α → List Event → Prop} (h : Sends p P x)
    (hPQ : ∀ r es, P r es → Q r es) : Sends p Q x := by
  intro s
  obtain ⟨es, sent, he⟩ := h s
  exact ⟨es, sent, hPQ _ _ he⟩

theorem Mute.delivers (h : Mute p x) : Delivers p [] x :=
  h.mono fun _ _ none => ⟨none ▸ List.prefix_rfl, fun _ _ => none⟩

theorem mute_pure (a : α) : Mute p (pure a) := fun _ => ⟨[], (List.append_nil _).symm, rfl⟩

theorem mute_throw (f : Fault) : Mute p (throw f : StepM α) :=
  fun _ => ⟨[], (List.append_nil _).symm, rfl⟩

/-- A program whose journal only grows by other events sends nothing. -/
theorem mute_of_sent (h : ∀ s, (runIn s x).2.desk.sent p = s.desk.sent p) : Mute p x :=
  fun s => ⟨[], (h s).trans (List.append_nil _).symm, rfl⟩

theorem Mute.sent (h : Mute p x) (s : Session) :
    (runIn s x).2.desk.sent p = s.desk.sent p := by
  obtain ⟨es, sent, rfl⟩ := h s
  exact sent.trans (List.append_nil _)

/-- What happens is sent when it is of the sort. -/
theorem sends_happen {e : Event} (h : p e = true) :
    Sends p (fun r es => r = .ok () ∧ es = [e]) (happen e) :=
  fun s => ⟨[e], s.desk.sent_record h, rfl, rfl⟩

theorem delivers_happen {e : Event} (h : p e = true) : Delivers p [e] (happen e) :=
  (sends_happen h).mono fun _ _ he => ⟨he.2 ▸ List.prefix_rfl, fun _ _ => he.2⟩

theorem delivers_throw (f : Fault) {es : List Event} : Delivers p es (throw f : StepM α) :=
  fun _ => ⟨[], (List.append_nil _).symm, List.nil_prefix, nofun⟩

theorem mute_happen {e : Event} (h : p e = false) : Mute p (happen e) :=
  mute_of_sent fun s => s.desk.sent_record_of_not h

theorem mute_warn (outward : Outward p) (message : String) : Mute p (warn message) :=
  mute_of_sent fun s => (s.desk.chats_logged .warning s.name message).sent outward

theorem mute_pauseWith {sleep : Context → Desk → Except Fault Unit × Desk}
    (h : ∀ c d, (sleep c d).2.sent p = d.sent p) : Mute p (pauseWith sleep) := by
  refine mute_of_sent fun s => ?_
  rw [runIn_pauseWith]
  exact h s.context s.desk

theorem mute_sleep (outward : Outward p) (seconds : Float) : Mute p (sleep seconds) :=
  mute_pauseWith fun c d => Desk.sent_sleep outward c d _

theorem mute_sleepMillis (outward : Outward p) (ms : Int) : Mute p (sleepMillis ms) :=
  mute_pauseWith fun c d => Desk.sent_sleepMillis outward c d _

/-! ## One program after the other -/

/-- What a program sends is followed by what the one after it sends, unless it failed. -/
theorem Sends.bind {P : Except Fault α → List Event → Prop} {Q : Except Fault β → List Event → Prop}
    {k : α → StepM β} (hx : Sends p P x) (stop : ∀ f es, P (.error f) es → Q (.error f) es)
    (go : ∀ a es, P (.ok a) es → Sends p (fun r es' => Q r (es ++ es')) (k a)) :
    Sends p Q (x >>= k) := by
  intro s
  obtain ⟨es, sent, he⟩ := hx s
  rw [runIn_bind]
  generalize runIn s x = o at sent he ⊢
  obtain ⟨r, t⟩ := o
  cases r with
  | error f => exact ⟨es, sent, stop f es he⟩
  | ok a =>
    obtain ⟨es', sent', he'⟩ := go a es he t
    exact ⟨es ++ es', by rw [sent', sent, List.append_assoc], he'⟩

/-- A program that sends nothing can stand before any other. -/
theorem Mute.before {Q : Except Fault β → List Event → Prop} {k : α → StepM β} (hx : Mute p x)
    (stop : ∀ f, Q (.error f) []) (hk : ∀ a, Sends p Q (k a)) : Sends p Q (x >>= k) := by
  refine hx.bind (fun f es he => ?_) fun a es he => ?_
  · subst he
    exact stop f
  · subst he
    exact hk a

/-- Two programs that come to their ends have sent what the first one sends and then what the second
one sends. -/
theorem Delivers.bind {es es' : List Event} {k : α → StepM β} (hx : Delivers p es x)
    (hk : ∀ a, Delivers p es' (k a)) : Delivers p (es ++ es') (x >>= k) := by
  refine Sends.bind hx (fun f sent he => ?_) fun a sent he => ?_
  · exact ⟨he.1.trans (List.prefix_append es es'), nofun⟩
  · obtain rfl := he.2 a rfl
    refine (hk a).mono fun r rest hrest => ⟨?_, fun b hb => congrArg (sent ++ ·) (hrest.2 b hb)⟩
    exact (List.prefix_append_right_inj sent).mpr hrest.1

/-- Doing something for each of some items sends an event for one item after the other. -/
theorem delivers_forM {f : α → StepM PUnit} {g : α → Event} (hf : ∀ a, Delivers p [g a] (f a))
    (l : List α) : Delivers p (l.map g) (l.forM f) := by
  induction l with
  | nil => exact (mute_pure _).delivers
  | cons a l ih => exact (hf a).bind fun _ => ih

/-- What each of some items sends is put together in a way that keeps `C`. -/
theorem sends_forM {C : List Event → Prop} {f : α → StepM PUnit} (nil : C [])
    (append : ∀ {es es'}, C es → C es' → C (es ++ es')) {l : List α}
    (hf : ∀ a ∈ l, Sends p (fun _ es => C es) (f a)) : Sends p (fun _ es => C es) (l.forM f) := by
  induction l with
  | nil => exact (mute_pure _).mono fun _ es he => he ▸ nil
  | cons a l ih =>
    obtain ⟨first, rest⟩ := List.forall_mem_cons.mp hf
    exact first.bind (fun _ _ he => he) fun _ _ he => (ih rest).mono fun _ _ he' => append he he'

/-! ## Steps -/

theorem sent_erred (outward : Outward p) (s : Session) (message : String) :
    (erred s message).desk.sent p = s.desk.sent p :=
  (s.desk.chats_logged .error s.name message).sent outward

/-- An executed step sends what its body sends. -/
theorem sent_execute (outward : Outward p) (s : Session) (body : StepM Unit) :
    (runIn s (execute body)).2.desk.sent p = (runIn (begun s) body).2.desk.sent p := by
  rw [runIn_execute]
  generalize runIn (begun s) body = o
  obtain ⟨r, t⟩ := o
  cases r with
  | ok _ => rfl
  | error f =>
    dsimp only
    split
    · exact sent_erred outward t f.message
    · rfl

/-- A step that is checked sends what its body sends, or nothing when something is wrong with it. -/
theorem sent_attempt (outward : Outward p) (s : Session) (w : Work) :
    (runIn s (attempt w)).2.desk.sent p = (runIn (begun s) w.run).2.desk.sent p ∨
      w.check s.progress.visits ≠ .ok () ∧
        (runIn s (attempt w)).2.desk.sent p = s.desk.sent p := by
  rw [runIn_attempt]
  cases h : w.check s.progress.visits with
  | ok _ => exact .inl (sent_execute outward s w.run)
  | error f =>
    refine .inr ⟨nofun, ?_⟩
    cases f with
    | invalid why => exact sent_erred outward s why.message
    | _ => rfl

theorem sent_guarded (outward : Outward p) (s : Session) (w : Work) :
    (runIn s (Engine.guarded w)).2.desk.sent p = (runIn s (attempt w)).2.desk.sent p := by
  rw [runIn_guarded]
  generalize runIn s (attempt w) = o
  obtain ⟨r, t⟩ := o
  cases r with
  | ok _ => rfl
  | error f =>
    dsimp only
    split
    · rfl
    · exact sent_erred outward t _

/-- Whichever way a step is carried out, it sends what its body sends, or nothing when its check finds
something. -/
theorem sent_of_mem_ways (outward : Outward p) {w : Work} {way : StepM Bool} (h : way ∈ w.ways)
    (s : Session) :
    (runIn s way).2.desk.sent p = (runIn (begun s) w.run).2.desk.sent p ∨
      w.check s.progress.visits ≠ .ok () ∧ (runIn s way).2.desk.sent p = s.desk.sent p := by
  simp only [Work.ways, List.mem_cons, List.not_mem_nil, or_false] at h
  rcases h with rfl | rfl | rfl
  · exact .inl (sent_execute outward s w.run)
  · exact sent_attempt outward s w
  · rw [sent_guarded outward s w]
    exact sent_attempt outward s w

end StepM

end Deskwork
