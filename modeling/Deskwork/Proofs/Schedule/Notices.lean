/-
# Notifications

When a worker tells about its run, a notification is sent at most once. It is sent when the task asks for
it (`Task.Tells`): its runs are told about, its policy fits the outcome, and the last delivered
notification is long enough ago (`Task.wantsNotice_eq`). What was sent shows in the letters of the desk
(`Scheduler.letters_toldBy`), and the task remembers the moment when it was delivered, and nothing
otherwise (`Scheduler.task?_toldBy`). Whatever else happens in a shared scheduler changes neither the
tasks on the cards nor the moments of their notifications (`SharedScheduler.task?_step`).
-/
import Deskwork.Proofs.Schedule.Bookkeeping

namespace Deskwork

/-! ## Letters -/

/-- The event is a notification that is handed over, or a message that is sent. -/
def Event.isLetter : Event → Bool
  | .notified .. | .posting .. => true
  | _ => false

namespace Desk

/-- The notifications that were handed over and the messages that were sent, in order. -/
def letters (d : Desk) : List Event := (d.machine.journal.filter Event.isLetter).reverse

/-- No letter is talk. -/
theorem Chats.letters {d d' : Desk} (h : d.Chats d') : d'.letters = d.letters := by
  refine congrArg List.reverse (h.filter_journal fun e he => ?_)
  cases e <;> first | rfl | cases he

theorem letters_logged (d : Desk) (level : Level) (source message : String) :
    (d.logged level source message).letters = d.letters :=
  (d.chats_logged level source message).letters

/-- A message that is sent is a letter. -/
theorem letters_post (d : Desk) (url body : String) (timeout : Number.Amount) :
    ({ d with machine := (d.machine.post url body timeout).2 } : Desk).letters =
      d.letters ++ [.posting url timeout] := by
  unfold letters
  dsimp only
  rw [(post_journal d.machine d.machine.journal url body timeout).2]
  exact List.reverse_cons

end Desk

namespace Schedule

open Deskwork.Time

/-! ## What is sent -/

/-- The message that a notifier sends about a run: none when it does not know where to, or how long the
run took. -/
def Notifier.mail (n : Notifier) (t : Task) (r : Record) : List Event :=
  match n.urlFor t, message t r with
  | some url, .ok _ => [.posting url n.timeout]
  | _, _ => []

theorem Notifier.letters_send (n : Notifier) (t : Task) (r : Record) (d : Desk) :
    (n.send t r d).2.letters = d.letters ++ n.mail t r := by
  have talk := n.chats_send t r d
  unfold mail
  cases known : n.urlFor t with
  | none =>
    simp only [known] at talk
    rw [talk.letters, List.append_nil]
  | some url =>
    cases written : message t r with
    | error f =>
      simp only [known, written] at talk
      rw [talk.letters, List.append_nil]
    | ok text =>
      simp only [known, written] at talk
      rw [talk.letters]
      exact d.letters_post url (body text) n.timeout

/-- A notification that was sent about the task on a card. -/
structure Notice where
  card : Card
  /-- The clock when it was decided to send it. -/
  moment : Moment
  /-- Whether it was delivered; sending it may have failed. -/
  answer : Except Fault Bool

/-- It was delivered. -/
def Notice.delivered (n : Notice) : Bool :=
  match n.answer with
  | .ok b => b
  | .error _ => false

/-- The moment at which a notification about the task on a card was sent, when it was delivered. -/
def Notice.arrival? (n : Notice) (c : Card) : Option Moment :=
  if n.card = c ∧ n.delivered = true then some n.moment else none

theorem Notice.arrival?_card (n : Notice) :
    n.arrival? n.card = if n.delivered = true then some n.moment else none := by
  unfold arrival?
  simp

namespace Task

variable {t : Task} {now : Moment} {success : Bool}

/-- A task that remembers when a notification about it was delivered, if one was. -/
def informed (t : Task) (arrival : Option Moment) : Task :=
  { t with lastNotified := arrival.or t.lastNotified }

/-- A task without its last and its next run. -/
def standing (t : Task) : Task := { t with lastRun := none, nextRun := none }

theorem standing_planned {t' : Task} (h : t.planned now = .ok t') : t'.standing = t.standing := by
  obtain ⟨next, -, rfl⟩ := planned_eq_ok_iff.mp h
  rfl

/-- A run of the task with the given success is told about at a moment. -/
structure Tells (t : Task) (success : Bool) (now : Moment) : Prop where
  /-- Its runs are told about. -/
  notifies : t.notifies = true
  /-- Those with this success are. -/
  asks : t.policy.asks success = true
  /-- The minutes since the last notification have passed. -/
  elapsed : ∀ last ∈ t.lastNotified, last.universal + t.notifyInterval * 60000000 ≤ now.universal

theorem tells_iff : t.Tells success now ↔ t.notifies = true ∧ t.policy.asks success = true ∧
    ∀ last ∈ t.lastNotified, last.universal + t.notifyInterval * 60000000 ≤ now.universal :=
  ⟨fun h => ⟨h.notifies, h.asks, h.elapsed⟩, fun h => ⟨h.1, h.2.1, h.2.2⟩⟩

instance (t : Task) (success : Bool) (now : Moment) : Decidable (t.Tells success now) :=
  decidable_of_iff _ tells_iff.symm

/-- The minutes since the last notification have passed, or not, when this can be told. -/
theorem isSilent_eq (h : ∀ last ∈ t.lastNotified, now.Comparable last ∧ IsSpan t.notifyInterval) :
    t.isSilent now = .ok (decide (¬ ∀ last ∈ t.lastNotified,
      last.universal + t.notifyInterval * 60000000 ≤ now.universal)) := by
  unfold isSilent
  cases hlast : t.lastNotified with
  | none => simp
  | some last =>
    obtain ⟨hcomparable, hspan⟩ := h last hlast
    obtain ⟨span, hminutes⟩ := exists_spanOfMinutes_iff.mpr hspan
    dsimp only
    rw [Moment.since_eq hcomparable, hminutes, eq_of_spanOfMinutes hminutes]
    have hpassed : (∀ l ∈ some last, l.universal + t.notifyInterval * 60000000 ≤ now.universal) ↔
        ¬ now.universal - last.universal < t.notifyInterval * 60000000 := by
      simp only [Option.mem_some_iff, forall_eq']
      omega
    simp only [hpassed, Decidable.not_not]
    rfl

/-- A run is told about, or not, when this can be told. -/
theorem wantsNotice_eq (h : t.Measurable now) :
    t.wantsNotice success now = .ok (decide (t.Tells success now)) := by
  unfold wantsNotice
  by_cases hnotifies : t.notifies = true
  · rw [if_pos hnotifies, isSilent_eq (h hnotifies)]
    by_cases helapsed : ∀ last ∈ t.lastNotified,
        last.universal + t.notifyInterval * 60000000 ≤ now.universal
    · have htells : decide (t.Tells success now) = t.policy.asks success := by
        rw [Bool.eq_iff_iff, decide_eq_true_iff]
        exact ⟨Tells.asks, fun hasks => ⟨hnotifies, hasks, helapsed⟩⟩
      rw [decide_eq_false (not_not_intro helapsed), htells]
      rfl
    · have htells : ¬ t.Tells success now := fun h => helapsed h.elapsed
      rw [decide_eq_true helapsed, decide_eq_false htells]
      rfl
  · have htells : ¬ t.Tells success now := fun h => hnotifies h.notifies
    rw [if_neg hnotifies, decide_eq_false htells]

end Task

namespace Scheduler

variable {s : Scheduler} {c d : Card} {t : Task} {r : Record} {k : Worker} {n : Notice}

/-- The notifications that were handed over and the messages that were sent, in order. -/
def letters (s : Scheduler) : List Event := s.desk.letters

/-- What goes out when a notification about a run is sent. -/
def mail (s : Scheduler) (t : Task) (r : Record) : List Event :=
  match s.messenger with
  | .planned _ => [.notified t.id r.success r.error]
  | .notifier n => n.mail t r

theorem letters_logEnd (s : Scheduler) (t : Task) (r : Record) (duration : String) :
    (s.logEnd t r duration).letters = s.letters := by
  unfold logEnd
  dsimp only
  split <;> exact Desk.letters_logged _ _ _ _

theorem letters_tellEnded (s : Scheduler) (t : Task) (r : Record) :
    (s.tellEnded t r).letters = s.letters := by
  unfold tellEnded
  dsimp only
  split
  · rfl
  · rfl
  · exact (Desk.letters_logged _ _ _ _).trans rfl

/-- A notification is sent once. -/
theorem letters_send (s : Scheduler) (t : Task) (r : Record) :
    (s.send t r).2.letters = s.letters ++ s.mail t r := by
  unfold send mail
  cases s.messenger with
  | planned replies =>
    have hnoted : (s.record (.notified t.id r.success r.error)).letters =
      s.letters ++ [.notified t.id r.success r.error] := List.reverse_cons
    unfold sendPlanned
    dsimp only
    split <;> exact hnoted
  | notifier n => exact n.letters_send t r s.desk

/-- Sending a notification sends one, whatever becomes of it. -/
theorem letters_deliver (s : Scheduler) (c : Card) (t : Task) (r : Record) :
    (s.deliver c t r).letters = s.letters ++ s.mail t r := by
  have hsent := s.letters_send t r
  unfold deliver
  dsimp only
  generalize s.send t r = sent at hsent ⊢
  obtain ⟨_ | _ | _, s'⟩ := sent
  · exact (Desk.letters_logged _ _ _ _).trans hsent
  · exact hsent
  · exact hsent

/-- The task on the card remembers when a notification was delivered. -/
theorem task?_deliver (s : Scheduler) (c : Card) (t : Task) (r : Record) (d : Card) :
    (s.deliver c t r).task? d =
      (s.task? d).map fun u => u.informed ((Notice.mk c s.now (s.send t r).1).arrival? d) := by
  have hkept : s.task? d = (s.task? d).map fun u => u.informed none := Option.map_id'.symm
  obtain ⟨desk, messenger, hsent⟩ := s.around_send t r
  unfold deliver Notice.arrival? Notice.delivered
  dsimp only
  generalize s.send t r = sent at hsent ⊢
  obtain ⟨_ | _ | _, s'⟩ := sent
  all_goals obtain rfl : s' = _ := hsent
  · rw [if_neg fun h => nomatch h.2]
    exact hkept
  · rw [if_neg fun h => nomatch h.2]
    exact hkept
  · refine (task?_modify _ c _ d).trans ?_
    by_cases hcard : c = d
    · rw [if_pos hcard, if_pos ⟨hcard, rfl⟩]
      rfl
    · rw [if_neg hcard, if_neg fun h => hcard h.1]
      exact hkept

/-! ## What a worker tells -/

/-- The task that a worker tells about: the one on the card on which its run was noted. -/
def subject (s : Scheduler) (live : Card) (t : Task) : Task := (s.task? live).getD t

/-- The scheduler after the end of a run went to the log and to the watcher. -/
def proclaim (s : Scheduler) (live : Card) (t : Task) (r : Record) (duration : String) : Scheduler :=
  (s.logEnd t r duration).tellEnded (s.subject live t) r

/-- The notification that is sent when the end of a run is announced. -/
def noticeOn (s : Scheduler) (live : Card) (t : Task) (r : Record) : Option Notice :=
  match r.duration with
  | .error _ => none
  | .ok duration =>
    match (s.subject live t).wantsNotice r.success s.now with
    | .ok true => some ⟨live, s.now, ((s.proclaim live t r duration).send (s.subject live t) r).1⟩
    | _ => none

/-- The notification that is sent when a worker tells about its run. -/
def noticeOf (s : Scheduler) (k : Worker) : Option Notice :=
  match k.stage with
  | .noted (.ok live) => s.noticeOn live k.task k.record
  | _ => none

/-- What goes out when a worker tells about its run. -/
def mailOf (s : Scheduler) (k : Worker) : List Event :=
  (s.noticeOf k).elim [] fun n => s.mail (s.subject n.card k.task) k.record

theorem around_proclaim (s : Scheduler) (live : Card) (t : Task) (r : Record) (duration : String) :
    s.Around (s.proclaim live t r duration) :=
  (s.around_logEnd t r duration).trans (around_tellEnded _ _ r)

theorem now_proclaim (s : Scheduler) (live : Card) (t : Task) (r : Record) (duration : String) :
    (s.proclaim live t r duration).now = s.now :=
  (now_tellEnded _ _ r).trans (s.now_logEnd t r duration)

/-- The messenger is the same when the end of a run went to the log and to the watcher. -/
theorem mail_proclaim (s : Scheduler) (live : Card) (t : Task) (r : Record) (duration : String) :
    (s.proclaim live t r duration).mail = s.mail := by
  have hmessenger : (s.proclaim live t r duration).messenger = s.messenger := by
    unfold proclaim tellEnded logEnd
    dsimp only
    split <;> split <;> rfl
  funext t' r'
  unfold mail
  rw [hmessenger]

/-- An announcement either sends the notification, or nothing. -/
theorem announce_eq (s : Scheduler) (live : Card) (t : Task) (r : Record) :
    (s.noticeOn live t r = none ∧ (s.announce live t r).2.letters = s.letters ∧
        (s.announce live t r).2.cards = s.cards) ∨
      ∃ duration, s.noticeOn live t r =
          some ⟨live, s.now, ((s.proclaim live t r duration).send (s.subject live t) r).1⟩ ∧
        (s.announce live t r).2 =
          (s.proclaim live t r duration).deliver live (s.subject live t) r := by
  unfold announce noticeOn
  cases r.duration with
  | error f => exact .inl ⟨rfl, rfl, rfl⟩
  | ok duration =>
    have hsubject : ((s.logEnd t r duration).task? live).getD t = s.subject live t := by
      obtain ⟨desk, messenger, hlogged⟩ := s.around_logEnd t r duration
      rw [hlogged]
      rfl
    have hletters : (s.proclaim live t r duration).letters = s.letters :=
      (letters_tellEnded _ _ r).trans (s.letters_logEnd t r duration)
    have hcards : (s.proclaim live t r duration).cards = s.cards := by
      obtain ⟨desk, messenger, hproclaimed⟩ := s.around_proclaim live t r duration
      rw [hproclaimed]
    dsimp only
    rw [hsubject]
    change (_ ∧ ((s.proclaim live t r duration).notify live (s.subject live t) r).2.letters = _ ∧
      ((s.proclaim live t r duration).notify live (s.subject live t) r).2.cards = _) ∨
      ∃ duration', _ ∧ ((s.proclaim live t r duration).notify live (s.subject live t) r).2 = _
    unfold notify
    rw [s.now_proclaim live t r duration]
    cases (s.subject live t).wantsNotice r.success s.now with
    | error f => exact .inl ⟨rfl, hletters, hcards⟩
    | ok wanted =>
      cases wanted with
      | false => exact .inl ⟨rfl, hletters, hcards⟩
      | true => exact .inr ⟨duration, rfl, rfl⟩

/-- A notification is sent about the task on the card on which the run was noted. -/
theorem stage_of_noticeOf (h : s.noticeOf k = some n) :
    k.stage = .noted (.ok n.card) ∧ n.moment = s.now := by
  obtain ⟨_, t, r, _ | _ | live⟩ := k
  · cases h
  · cases h
  · change s.noticeOn live t r = some n at h
    obtain ⟨hnone, -⟩ | ⟨duration, hnotice, -⟩ := s.announce_eq live t r
    · cases hnone.symm.trans h
    · cases hnotice.symm.trans h
      exact ⟨rfl, rfl⟩

/-- When a worker tells about its run, its notification goes out, and nothing else. -/
theorem letters_toldBy (s : Scheduler) (k : Worker) :
    (s.toldBy k).letters = s.letters ++ s.mailOf k := by
  obtain ⟨_, t, r, _ | _ | live⟩ := k
  · exact (List.append_nil _).symm
  · exact (List.append_nil _).symm
  · change (s.announce live t r).2.letters = s.letters ++
      (s.noticeOn live t r).elim [] fun n => s.mail (s.subject n.card t) r
    obtain ⟨hnone, hletters, -⟩ | ⟨duration, hnotice, hannounced⟩ := s.announce_eq live t r
    · rw [hnone, hletters]
      exact (List.append_nil _).symm
    · have hletters : (s.proclaim live t r duration).letters = s.letters :=
        (letters_tellEnded _ _ _).trans (s.letters_logEnd _ _ _)
      rw [hnotice, hannounced, letters_deliver, hletters, mail_proclaim]
      rfl

/-- The moment at which a notification about the task on a card was sent, when a worker told about its
run and it was delivered. -/
def arrivalOf (s : Scheduler) (c : Card) (k : Worker) : Option Moment :=
  (s.noticeOf k).bind fun n => n.arrival? c

/-- A notification is delivered about the task on the card on which the run was noted, by the clock. -/
theorem arrivalOf_eq_some {m : Moment} (h : s.arrivalOf c k = some m) :
    k.stage = .noted (.ok c) ∧ m = s.now ∧ ∃ n, s.noticeOf k = some n := by
  obtain ⟨n, hn, harrived⟩ := Option.bind_eq_some_iff.mp h
  obtain ⟨hstage, hmoment⟩ := stage_of_noticeOf hn
  unfold Notice.arrival? at harrived
  split at harrived
  next hdelivered =>
    obtain ⟨rfl, -⟩ := hdelivered
    exact ⟨hstage, (Option.some.inj harrived).symm.trans hmoment, n, hn⟩
  next => cases harrived

/-- When a worker tells about its run, the tasks on the cards stay as they are, except that a task
remembers when a notification about it was delivered. -/
theorem task?_toldBy (s : Scheduler) (k : Worker) (c : Card) :
    (s.toldBy k).task? c = (s.task? c).map fun t => t.informed (s.arrivalOf c k) := by
  have hkept : s.task? c = (s.task? c).map fun t => t.informed none := Option.map_id'.symm
  obtain ⟨_, t, r, _ | _ | live⟩ := k
  · exact hkept
  · exact hkept
  · change (s.announce live t r).2.task? c =
      (s.task? c).map fun u => u.informed ((s.noticeOn live t r).bind fun n => n.arrival? c)
    obtain ⟨hnone, -, hcards⟩ | ⟨duration, hnotice, hannounced⟩ := s.announce_eq live t r
    · rw [hnone]
      exact (congrArg (·[c]?) hcards).trans hkept
    · obtain ⟨desk, messenger, hproclaimed⟩ := s.around_proclaim live t r duration
      have htask : (s.proclaim live t r duration).task? c = s.task? c := by
        rw [hproclaimed]
        rfl
      rw [hnotice, hannounced, task?_deliver, htask, now_proclaim]
      rfl

/-! ## What nothing else changes -/

/-- From one scheduler to the other, the tasks on the cards differ in their runs at most. -/
def Stands (s s' : Scheduler) : Prop :=
  ∀ c t, s.task? c = some t → ∃ t', s'.task? c = some t' ∧ t'.standing = t.standing

theorem Stands.trans {s s' s'' : Scheduler} (h : s.Stands s') (h' : s'.Stands s'') :
    s.Stands s'' := by
  intro c t ht
  obtain ⟨t', ht', hsame⟩ := h c t ht
  obtain ⟨t'', ht'', hsame'⟩ := h' c t' ht'
  exact ⟨t'', ht'', hsame'.trans hsame⟩

theorem stands_of_prefix {s s' : Scheduler} (h : s.cards <+: s'.cards) : s.Stands s' := by
  intro c t ht
  obtain ⟨more, hmore⟩ := h
  have hbefore : c < s.cards.length := (List.getElem?_eq_some_iff.mp ht).1
  refine ⟨t, ?_, rfl⟩
  unfold task?
  rw [← hmore, List.getElem?_append_left hbefore]
  exact ht

theorem stands_of_cards {s s' : Scheduler} (h : s'.cards = s.cards) : s.Stands s' :=
  stands_of_prefix (h ▸ List.prefix_refl _)

theorem Around.stands {s s' : Scheduler} (h : s.Around s') : s.Stands s' := by
  obtain ⟨desk, messenger, rfl⟩ := h
  exact stands_of_cards rfl

theorem stands_modify {f : Task → Task} (h : ∀ t, s.task? c = some t → (f t).standing = t.standing) :
    s.Stands (s.modify c f) := by
  intro d t ht
  rw [task?_modify]
  by_cases hcard : c = d
  · subst hcard
    exact ⟨f t, by rw [if_pos rfl, ht, Option.map_some], h t ht⟩
  · exact ⟨t, by rw [if_neg hcard, ht], rfl⟩

theorem stands_plan (s : Scheduler) (c : Card) (now : Moment) : s.Stands (s.plan c now).2 := by
  obtain ⟨t, t', ht, hplanned, h⟩ | ⟨h, -⟩ := s.plan_cases c now
  · rw [h]
    refine stands_modify fun u hu => ?_
    cases ht.symm.trans hu
    exact Task.standing_planned hplanned
  · exact stands_of_cards (congrArg cards h)

theorem stands_settle (s : Scheduler) (c : Card) (r : Record) : s.Stands (s.settle c r).2 := by
  unfold settle
  dsimp only
  refine Stands.trans ?_ (stands_plan _ _ _)
  exact (stands_of_cards (s := s) rfl).trans (stands_modify fun t _ => rfl)

theorem stands_start (s : Scheduler) : s.Stands s.start.2 := by
  intro c t ht
  obtain ⟨t', ht', rfl | hplanned⟩ := task?_start ht
  · exact ⟨t', ht', rfl⟩
  · exact ⟨t', ht', Task.standing_planned hplanned⟩

theorem stands_add (s : Scheduler) (t : Task) : s.Stands (s.add t).2 := by
  obtain h | ⟨v, message, -, h⟩ := s.add_cases t
  · exact stands_of_cards (congrArg cards h)
  · rw [h]
    exact stands_of_prefix (List.prefix_append _ _)

theorem stands_update (s : Scheduler) (t : Task) : s.Stands (s.update t).2 := by
  obtain ⟨h, -⟩ | ⟨old, u, v, message, -, -, -, h⟩ := s.update_cases t
  · exact stands_of_cards (congrArg cards h)
  · rw [h]
    exact stands_of_prefix (List.prefix_append _ _)

theorem stands_load (s : Scheduler) (path : String) : s.Stands (s.load path).2 := by
  unfold load
  dsimp only
  split
  · exact stands_of_cards rfl
  · exact stands_of_prefix (List.prefix_append _ _)

theorem stands_stop (s : Scheduler) : s.Stands s.stop := by
  unfold stop join
  split
  · split <;> exact stands_of_cards rfl
  · exact stands_of_cards rfl

end Scheduler

namespace WorkerPool

variable {w : WorkerPool} {m : Move} {index : Nat} {k : Worker}

theorem stands_engage (w : WorkerPool) (c : Card) (t : Task) :
    w.scheduler.Stands (w.engage c t).scheduler :=
  (w.scheduler.around_openRun t).stands

theorem stands_noteAt (w : WorkerPool) (index : Nat) (result : Except Fault Verdict) :
    w.scheduler.Stands (w.noteAt index result).scheduler := by
  by_cases hrunning : ∃ k, w.workers[index]? = some k ∧ k.stage = .running
  · obtain ⟨k, hk, hrunning⟩ := hrunning
    obtain ⟨desk, -, hnoted⟩ := noteAt_eq_settle hk hrunning result
    have hdesk : w.scheduler.Stands (w.scheduler.onDesk desk) := Scheduler.stands_of_cards rfl
    rw [hnoted]
    exact hdesk.trans (Scheduler.stands_settle _ _ _)
  · rw [noteAt_of_not_running (fun k hk h => hrunning ⟨k, hk, h⟩) result]
    exact Scheduler.stands_of_cards rfl

/-- A move in which nobody leaves changes nothing of a task but its runs. -/
theorem stands_step (hm : ∀ index, m ≠ .leave index) : w.scheduler.Stands (w.step m).scheduler := by
  cases m with
  | add t => exact w.scheduler.stands_add t
  | update t => exact w.scheduler.stands_update t
  | remove id => exact Scheduler.stands_of_cards (w.scheduler.remove_spec id).1
  | load path => exact w.scheduler.stands_load path
  | clear => exact Scheduler.stands_of_cards rfl
  | start => exact w.scheduler.stands_start
  | stop => exact w.scheduler.stands_stop
  | tick now => exact Scheduler.stands_of_cards (w.scheduler.starts_tick now).cards
  | pass desk runner messenger => exact Scheduler.stands_of_cards rfl
  | begin index =>
    change w.scheduler.Stands (w.beginAt index).scheduler
    unfold beginAt
    split
    · exact Scheduler.stands_of_cards rfl
    · dsimp only
      split
      · exact Scheduler.stands_of_cards rfl
      · exact stands_engage (w.onScheduler fun s => s.unwait index) _ _
  | note index result => exact w.stands_noteAt index result
  | leave index => exact absurd rfl (hm index)

/-- A worker that leaves has told about its run before, and is released then. -/
theorem leaveAt_eq (hk : w.workers[index]? = some k) :
    (w.leaveAt index).scheduler.cards = (w.scheduler.toldBy k).cards ∧
      (w.leaveAt index).scheduler.letters = (w.scheduler.toldBy k).letters := by
  have hdepart (t : Task) (x : Except Fault Record × Scheduler) :
      (Scheduler.depart t x).cards = x.2.cards ∧ (Scheduler.depart t x).letters = x.2.letters := by
    obtain ⟨_ | _, s⟩ := x
    · exact ⟨rfl, Desk.letters_logged _ _ _ _⟩
    · exact ⟨rfl, rfl⟩
  unfold leaveAt
  rw [hk]
  obtain ⟨_, t, r, _ | _ | live⟩ := k
  · exact ⟨rfl, rfl⟩
  · exact hdepart t _
  · exact hdepart t _

theorem scheduler_partAt (hk : w.workers[index]? = some k) :
    (w.partAt index).scheduler = w.scheduler.toldBy k := by
  unfold partAt
  rw [hk]
  obtain ⟨_, _, _, _ | _⟩ := k <;> rfl

end WorkerPool

namespace SharedScheduler

variable {h : SharedScheduler} {a : Act} {c : Card} {t : Task} {k : Worker}

/-- The notification that is sent in an act. -/
def notice (h : SharedScheduler) (a : Act) : Option Notice := (h.leaver a).bind h.scheduler.noticeOf

/-- The moment at which a notification about the task on a card was sent in an act, when it was
delivered. -/
def arrival (h : SharedScheduler) (c : Card) (a : Act) : Option Moment :=
  (h.leaver a).bind (h.scheduler.arrivalOf c)

/-- Who leaves tells about its run, and nothing else happens to the tasks on the cards, and to the
letters. -/
theorem step_of_leaver (hk : h.leaver a = some k) :
    (h.step a).scheduler.cards = (h.scheduler.toldBy k).cards ∧
      (h.step a).scheduler.letters = (h.scheduler.toldBy k).letters := by
  cases a with
  | move m =>
    cases m with
    | leave index => exact WorkerPool.leaveAt_eq hk
    | _ => cases hk
  | leave index =>
    have hparted : (h.callerPool.partAt index).scheduler = h.scheduler.toldBy k :=
      WorkerPool.scheduler_partAt hk
    exact ⟨congrArg Scheduler.cards hparted, congrArg Scheduler.letters hparted⟩
  | _ => cases hk

theorem stands_of_leaver (hnobody : h.leaver a = none) :
    h.scheduler.Stands (h.step a).scheduler := by
  cases a with
  | move m =>
    cases m with
    | leave index =>
      have hstays : h.pool.leaveAt index = h.pool := by
        unfold WorkerPool.leaveAt
        rw [show h.pool.workers[index]? = none from hnobody]
      exact Scheduler.stands_of_cards (congrArg (·.scheduler.cards) hstays)
    | _ => exact WorkerPool.stands_step fun index hm => nomatch hm
  | forget => exact Scheduler.stands_of_cards rfl
  | bring u => exact Scheduler.stands_of_prefix (List.prefix_append _ _)
  | call d =>
    change h.scheduler.Stands (h.callOn d).scheduler
    unfold callOn
    split
    · exact Scheduler.stands_of_cards rfl
    next u hu => exact h.callerPool.stands_engage d u
  | note index result => exact h.callerPool.stands_noteAt index result
  | leave index =>
    have hstays : h.callerPool.partAt index = h.callerPool := by
      unfold WorkerPool.partAt
      rw [show h.callerPool.workers[index]? = none from hnobody]
    exact Scheduler.stands_of_cards (congrArg (·.scheduler.cards) hstays)

/-- In an act, nothing of the task on a card changes but its runs, except that it remembers when a
notification about it was delivered. -/
theorem task?_step (ht : h.scheduler.task? c = some t) (a : Act) :
    ∃ t', (h.step a).scheduler.task? c = some t' ∧
      t'.standing = (t.informed (h.arrival c a)).standing := by
  unfold arrival
  cases hleaver : h.leaver a with
  | none => exact stands_of_leaver hleaver c t ht
  | some k =>
    have htold := h.scheduler.task?_toldBy k c
    rw [ht, Option.map_some] at htold
    exact ⟨_, (congrArg (·[c]?) (step_of_leaver hleaver).1).trans htold, rfl⟩

end SharedScheduler

end Schedule

end Deskwork
