/-
# Throttled Notifications

The runs of a task that stands on a card begin and end in any order among other things that happen, as
long as the clock does not go back (`SharedScheduler.Onward`) and no other task is found under its
identifier (`SharedScheduler.Retains`). Between any two of its notifications that were delivered lie the
minutes that the task asks for, and a notification that was not delivered does not count. A run whose
next one could be planned is told about just when the task asks for it; a run whose next one could not be
planned is never told about (`SharedScheduler.after_throttled`).
-/
import Deskwork.Proofs.Results
import Deskwork.Proofs.Schedule.Notices
import Deskwork.Proofs.Schedule.Spacing

namespace Deskwork.Schedule

open Deskwork.Time

/-! ## Workers that come and go -/

/-- How a worker came to be there in one act, when some were there before. -/
inductive Worker.Arises (s : Scheduler) (ks : List Worker) (k : Worker) : Prop where
  /-- It was there before. -/
  | stayed (mem : k ∈ ks)
  /-- It has just begun to run the task on its card. -/
  | began (u : Task) (task : s.task? k.card = some u) (about : k.record.taskId = u.id)
    (start : k.record.start = s.now) (running : k.stage = .running)
  /-- Its run has just been noted. -/
  | ended (k' : Worker) (result : Except Fault Verdict) (mem : k' ∈ ks) (card : k.card = k'.card)
    (record : k.record = k'.record.concluded result s.now)
    (live : ∀ live, k.stage = .noted (.ok live) → live = s.liveCard k'.record.taskId k'.card)

namespace WorkerPool

variable {w : WorkerPool} {m : Move} {index : Nat} {k : Worker}

theorem arises_engage {c : Card} {t : Task} (ht : w.scheduler.task? c = some t)
    (hk : k ∈ (w.engage c t).workers) : k.Arises w.scheduler w.workers := by
  rcases List.mem_cons.mp hk with rfl | hold
  · exact .began t ht rfl rfl rfl
  · exact .stayed hold

/-- A run is noted on the live card, if on any. -/
theorem eq_of_settle {s : Scheduler} {c live : Card} {r : Record} (h : (s.settle c r).1 = .ok live) :
    live = s.liveCard r.taskId c := by
  unfold Scheduler.settle at h
  obtain ⟨u, -, hlive⟩ := map_eq_ok_iff.mp h
  exact hlive.symm

theorem arises_noteAt {result : Except Fault Verdict} (hk : k ∈ (w.noteAt index result).workers) :
    k.Arises w.scheduler w.workers := by
  by_cases hrunning : ∃ k, w.workers[index]? = some k ∧ k.stage = .running
  · obtain ⟨k', hk', hrunning⟩ := hrunning
    obtain ⟨desk, -, hnoted⟩ := noteAt_eq_settle hk' hrunning result
    rw [hnoted] at hk
    rcases List.mem_or_eq_of_mem_set hk with hold | rfl
    · exact .stayed hold
    · refine .ended k' result (List.mem_of_getElem? hk') rfl rfl fun live hlive => ?_
      injection hlive with hsettled
      have hnotedOn := eq_of_settle hsettled
      exact hnotedOn
  · rw [noteAt_of_not_running (fun k hk h => hrunning ⟨k, hk, h⟩) result] at hk
    exact .stayed hk

theorem arises_step (hk : k ∈ (w.step m).workers) : k.Arises w.scheduler w.workers := by
  cases m with
  | begin index =>
    change k ∈ (w.beginAt index).workers at hk
    unfold beginAt at hk
    split at hk
    · exact .stayed hk
    · dsimp only at hk
      split at hk
      · exact .stayed hk
      next c _ t ht =>
        rcases List.mem_cons.mp hk with rfl | hold
        · exact .began t ht rfl rfl rfl
        · exact .stayed hold
  | note index result => exact arises_noteAt hk
  | leave index => exact .stayed ((w.workers_leaveAt index).1 hk)
  | _ => exact .stayed hk

end WorkerPool

namespace SharedScheduler

variable {h : SharedScheduler} {a : Act} {k : Worker}

/-- The workers and the callers. -/
def executors (h : SharedScheduler) : List Worker := h.pool.workers ++ h.callers

theorem arises_step (hk : k ∈ (h.step a).executors) : k.Arises h.scheduler h.executors := by
  -- Workers and callers are told apart only by who counts them.
  have hworker (hk : k.Arises h.scheduler h.pool.workers) : k.Arises h.scheduler h.executors := by
    cases hk with
    | stayed mem => exact .stayed (List.mem_append_left _ mem)
    | began u task about start running => exact .began u task about start running
    | ended k' result mem card record live =>
      exact .ended k' result (List.mem_append_left _ mem) card record live
  have hcaller (hk : k.Arises h.scheduler h.callers) : k.Arises h.scheduler h.executors := by
    cases hk with
    | stayed mem => exact .stayed (List.mem_append_right _ mem)
    | began u task about start running => exact .began u task about start running
    | ended k' result mem card record live =>
      exact .ended k' result (List.mem_append_right _ mem) card record live
  have hcallers {p : WorkerPool} (hp : ∀ k ∈ p.workers, k.Arises h.scheduler h.callers)
      (hk : k ∈ (h.withCallers p).executors) : k.Arises h.scheduler h.executors := by
    rcases List.mem_append.mp hk with hk | hk
    · exact .stayed (List.mem_append_left _ hk)
    · exact hcaller (hp k hk)
  cases a with
  | move m =>
    rcases List.mem_append.mp hk with hk | hk
    · exact hworker (WorkerPool.arises_step hk)
    · exact .stayed (List.mem_append_right _ hk)
  | forget => exact .stayed hk
  | bring t => exact .stayed hk
  | call c =>
    change k ∈ (h.callOn c).executors at hk
    unfold callOn at hk
    split at hk
    · exact .stayed hk
    next t ht => exact hcallers (fun k hk => WorkerPool.arises_engage (w := h.callerPool) ht hk) hk
  | note index result => exact hcallers (fun k hk => WorkerPool.arises_noteAt (w := h.callerPool) hk) hk
  | leave index =>
    refine hcallers (fun k hk => .stayed ?_) hk
    rcases h.callerPool.partAt_cases index with hstays | ⟨_, -, -, hparted⟩
    · rwa [hstays] at hk
    · rw [hparted] at hk
      exact List.mem_of_mem_eraseIdx hk

end SharedScheduler

/-- A worker in a shared scheduler where the task under an identifier stands on a card and the clock does
not go back. -/
structure Worker.Regular (k : Worker) (c : Card) (id : String) (now : Moment) : Prop where
  /-- Its run began before. -/
  began : k.record.start.NotAfter now
  /-- When its run is over, it can be told how long it took. -/
  timed : k.stage = .running ∨ ∃ text, k.record.duration = .ok text
  /-- When it was started for the card, its record is about the task. -/
  about : k.card = c → k.record.taskId = id
  /-- Then its run is noted on this card, if on any. -/
  live : k.card = c → ∀ live, k.stage = .noted (.ok live) → live = c

theorem Worker.Regular.mono {k : Worker} {c : Card} {id : String} {now later : Moment}
    (h : k.Regular c id now) (hle : now.NotAfter later) : k.Regular c id later :=
  ⟨h.began.trans hle, h.timed, h.about, h.live⟩

theorem Worker.Arises.regular {s : Scheduler} {ks : List Worker} {k : Worker} {c : Card} {t : Task}
    (h : k.Arises s ks) (hks : ∀ k ∈ ks, k.Regular c t.id s.now) (ht : s.task? c = some t)
    (hlive : s.liveCard t.id c = c) : k.Regular c t.id s.now := by
  cases h with
  | stayed mem => exact hks k mem
  | began u task about start running =>
    refine ⟨start ▸ .refl _, .inl running, fun hcard => ?_, fun _ live hnoted => ?_⟩
    · cases (hcard ▸ task).symm.trans ht
      exact about
    · cases running.symm.trans hnoted
  | ended k' result mem card record live =>
    have hold := hks k' mem
    have hcomparable : s.now.Comparable k'.record.start :=
      (Moment.notAfter_iff.mp hold.began).1.symm
    refine ⟨record ▸ hold.began, .inr ?_, fun hcard => ?_, fun hcard live' hnoted => ?_⟩
    · rw [record]
      exact Record.exists_duration_iff.mpr hcomparable
    · rw [record]
      exact hold.about (card ▸ hcard)
    · have hcard' : k'.card = c := card ▸ hcard
      rw [live live' hnoted, hold.about hcard', hcard', hlive]

/-! ## What is sent about a run -/

namespace Scheduler

variable {s : Scheduler} {c : Card} {k : Worker} {v : Task}

/-- When it can be told how long a run took and how long the last notification is ago, a notification
about it is sent just when the task asks for it. -/
theorem noticeOf_cases (hv : s.task? c = some v) (hmeasurable : v.Measurable s.now)
    (hstage : k.stage = .noted (.ok c)) (htimed : ∃ text, k.record.duration = .ok text) :
    (v.Tells k.record.success s.now → ∃ answer, s.noticeOf k = some ⟨c, s.now, answer⟩) ∧
      (¬ v.Tells k.record.success s.now → s.noticeOf k = none) := by
  obtain ⟨text, htext⟩ := htimed
  have hsubject : s.subject c k.task = v := by
    unfold subject
    rw [hv, Option.getD_some]
  have hwants : v.wantsNotice k.record.success s.now = _ := Task.wantsNotice_eq hmeasurable
  unfold noticeOf
  rw [hstage]
  unfold noticeOn
  simp only [htext, hsubject, hwants]
  constructor
  · intro htells
    rw [decide_eq_true htells]
    exact ⟨_, rfl⟩
  · intro htells
    rw [decide_eq_false htells]

end Scheduler

namespace SharedScheduler

variable {h : SharedScheduler} {a : Act} {as bs : List Act} {c : Card} {k : Worker} {v t : Task} {m : Moment}

/-- A task on a card, as long as every worker and caller is regular: its last notification can be compared
with the clock. -/
structure Watched (h : SharedScheduler) (c : Card) (v : Task) : Prop where
  /-- It is on the card. -/
  task : h.scheduler.task? c = some v
  /-- Its last notification can be compared with the clock. -/
  notified : ∀ last ∈ v.lastNotified, h.now.Comparable last
  /-- Everyone is regular. -/
  executors : ∀ k ∈ h.executors, k.Regular c v.id h.now

theorem Watched.measurable (hw : h.Watched c v) (hspan : IsSpan v.notifyInterval) :
    v.Measurable h.now := fun _ last hlast => ⟨hw.notified last hlast, hspan⟩

theorem mem_executors_of_leaver (hk : h.leaver a = some k) : k ∈ h.executors := by
  cases a with
  | move m =>
    cases m with
    | leave index => exact List.mem_append_left _ (List.mem_of_getElem? hk)
    | _ => cases hk
  | leave index => exact List.mem_append_right _ (List.mem_of_getElem? hk)
  | _ => cases hk

/-- One notification is sent in an act: about a run of the task on a card, and nothing else. -/
structure SendsOne (h : SharedScheduler) (a : Act) (c : Card) (v : Task) (r : Record) : Prop where
  /-- It is decided by the clock. -/
  notice : ∃ answer, h.notice a = some ⟨c, h.now, answer⟩
  /-- It goes out once. -/
  letters : (h.step a).scheduler.letters = h.scheduler.letters ++ h.scheduler.mail v r

/-- No notification is sent in an act. -/
structure SendsNone (h : SharedScheduler) (a : Act) : Prop where
  /-- There is none. -/
  notice : h.notice a = none
  /-- Nothing goes out. -/
  letters : (h.step a).scheduler.letters = h.scheduler.letters

/-- When someone leaves who ran the task on a card, one notification is sent if the run was noted there
and the task asks for it, and none otherwise. -/
theorem Watched.sends (hw : h.Watched c v) (hspan : IsSpan v.notifyInterval)
    (hk : h.leaver a = some k) (hcard : k.card = c) :
    (k.stage = .noted (.ok c) ∧ v.Tells k.record.success h.now → h.SendsOne a c v k.record) ∧
      (¬ (k.stage = .noted (.ok c) ∧ v.Tells k.record.success h.now) → h.SendsNone a) := by
  have hregular := hw.executors k (mem_executors_of_leaver hk)
  have hnotice : h.notice a = h.scheduler.noticeOf k := by
    unfold notice
    rw [hk, Option.bind_some]
  have hletters : (h.step a).scheduler.letters = h.scheduler.letters ++ h.scheduler.mailOf k :=
    (step_of_leaver hk).2.trans (h.scheduler.letters_toldBy k)
  have htimed (hstage : k.stage = .noted (.ok c)) : ∃ text, k.record.duration = .ok text :=
    hregular.timed.resolve_left fun hrunning => nomatch hrunning.symm.trans hstage
  have hcases (hstage : k.stage = .noted (.ok c)) :=
    Scheduler.noticeOf_cases hw.task (hw.measurable hspan) hstage (htimed hstage)
  unfold Scheduler.mailOf at hletters
  constructor
  · rintro ⟨hstage, htells⟩
    obtain ⟨answer, hsent⟩ := (hcases hstage).1 htells
    refine ⟨⟨answer, hnotice.trans hsent⟩, ?_⟩
    rw [hletters, hsent, Option.elim_some]
    unfold Scheduler.subject
    rw [hw.task, Option.getD_some]
  · intro hnot
    have hnone : h.scheduler.noticeOf k = none := by
      cases hsent : h.scheduler.noticeOf k with
      | none => rfl
      | some n =>
        -- The run was noted on the card, so the task did not ask for it.
        obtain ⟨hstage, -⟩ := Scheduler.stage_of_noticeOf hsent
        have hhere : k.stage = .noted (.ok c) := by
          rw [hstage, hregular.live hcard n.card hstage]
        exact hsent.symm.trans ((hcases hhere).2 fun htells => hnot ⟨hhere, htells⟩)
    refine ⟨hnotice.trans hnone, ?_⟩
    rw [hletters, hnone]
    exact List.append_nil _

/-- A notification about the task on a card that is delivered is sent by the clock, and the minutes since
the last one have passed. -/
theorem Watched.elapsed (hw : h.Watched c v) (hspan : IsSpan v.notifyInterval)
    (harrival : h.arrival c a = some m) :
    m = h.now ∧ ∀ last ∈ v.lastNotified,
      last.universal + v.notifyInterval * 60000000 ≤ h.now.universal := by
  obtain ⟨k, hk, hmoment⟩ := Option.bind_eq_some_iff.mp harrival
  obtain ⟨hstage, rfl, n, hn⟩ := Scheduler.arrivalOf_eq_some hmoment
  have htimed := (hw.executors k (mem_executors_of_leaver hk)).timed.resolve_left
    fun hrunning => nomatch hrunning.symm.trans hstage
  have hcases := Scheduler.noticeOf_cases hw.task (hw.measurable hspan) hstage htimed
  have htells : v.Tells k.record.success h.now := by
    by_contra hsilent
    cases hn.symm.trans (hcases.2 hsilent)
  exact ⟨rfl, htells.elapsed⟩

/-! ## What is noted about a run -/

/-- A run that is noted in a worker pool, of the task on a card, is noted on this card when its next run can
be told, and on none otherwise. -/
def NotesOn (w : WorkerPool) (index : Nat) (result : Except Fault Verdict) (c : Card) (v : Task) : Prop :=
  ∀ k, w.workers[index]? = some k → k.stage = .running → k.card = c →
    ∃ k', (w.noteAt index result).workers[index]? = some k' ∧
      k'.record = k.record.concluded result w.now ∧
      (k'.stage = .noted (.ok c) ↔ (v.ranAt k.record.start).Foreseeable w.now)

/-- What is noted in an act about a run of the task on a card. -/
def Notes (h : SharedScheduler) (c : Card) (v : Task) : Act → Prop
  | .move (.note index result) => NotesOn h.pool index result c v
  | .note index result => NotesOn h.callerPool index result c v
  | _ => True

theorem notesOn {w : WorkerPool} (hv : w.scheduler.task? c = some v)
    (hlive : w.scheduler.liveCard v.id c = c)
    (hregular : ∀ k ∈ w.workers, k.Regular c v.id w.now) (index : Nat)
    (result : Except Fault Verdict) : NotesOn w index result c v := by
  intro k hk hrunning hcard
  obtain ⟨hlt, -⟩ := List.getElem?_eq_some_iff.mp hk
  have hid := (hregular k (List.mem_of_getElem? hk)).about hcard
  obtain ⟨desk, hchats, hnoted⟩ := WorkerPool.noteAt_eq_settle hk hrunning result
  have hnow : (w.scheduler.onDesk desk).now = w.now := congrArg (·.machine.wall) hchats.hushed
  have hcardLive : (w.scheduler.onDesk desk).liveCard (k.record.concluded result w.now).taskId
      k.card = c := by
    change w.scheduler.liveCard k.record.taskId k.card = c
    rw [hid, hcard, hlive]
  have hsettle := Scheduler.settle_eq (s := w.scheduler.onDesk desk) (c := k.card)
    (r := k.record.concluded result w.now) (t := v) (hcardLive.symm ▸ hv)
  rw [hcardLive, hnow] at hsettle
  rw [hnoted]
  refine ⟨_, List.getElem?_set_self hlt, rfl, ?_⟩
  rw [hsettle, ← Task.exists_nextRunAt_iff]
  change Stage.noted (((v.ranAt k.record.start).planned w.now).map fun _ => c) = _ ↔ _
  unfold Task.planned
  cases (v.ranAt k.record.start).nextRunAt w.now with
  | error f => exact ⟨fun h => (nomatch h), fun ⟨_, h⟩ => nomatch h⟩
  | ok next => exact ⟨fun _ => ⟨next, rfl⟩, fun _ => rfl⟩

theorem Watched.notes (hw : h.Watched c v) (hlive : h.scheduler.liveCard v.id c = c) (a : Act) :
    h.Notes c v a := by
  cases a with
  | move m =>
    cases m with
    | note index result =>
      exact notesOn hw.task hlive (fun k hk => hw.executors k (List.mem_append_left _ hk)) index result
    | _ => trivial
  | note index result =>
    exact notesOn (w := h.callerPool) hw.task hlive
      (fun k hk => hw.executors k (List.mem_append_right _ hk)) index result
  | _ => trivial

/-! ## One act -/

/-- What a task was taken on with has its identifier and its minutes. -/
theorem eq_of_charter {v' : Task} (hcharter : v'.charter = v.charter) :
    v'.id = v.id ∧ v'.notifyInterval = v.notifyInterval := by
  have hid : v'.charter.id = v.charter.id := congrArg Task.id hcharter
  have hminutes : v'.charter.notifyInterval = v.charter.notifyInterval :=
    congrArg Task.notifyInterval hcharter
  exact ⟨hid, hminutes⟩

/-- In an act, the task on a card is watched further; it remembers the notification that was delivered. -/
theorem Watched.step (hw : h.Watched c v) (hspan : IsSpan v.notifyInterval)
    (hnow : h.now.NotAfter (h.step a).now) (hlive : h.scheduler.liveCard v.id c = c) :
    ∃ v', (h.step a).Watched c v' ∧ v'.charter = v.charter ∧
      v'.lastNotified = (h.arrival c a).or v.lastNotified := by
  obtain ⟨v', hv', hstanding⟩ := task?_step hw.task a
  have hcharter : v'.charter = v.charter := by
    have hsame : v'.standing.charter = _ := congrArg Task.charter hstanding
    exact hsame
  have hnotified : v'.lastNotified = (h.arrival c a).or v.lastNotified := by
    have hsame : v'.standing.lastNotified = _ := congrArg Task.lastNotified hstanding
    exact hsame
  have hcomparable : (h.step a).now.Comparable h.now := (Moment.notAfter_iff.mp hnow).1.symm
  refine ⟨v', ⟨hv', fun last hlast => ?_, fun k hk => ?_⟩, hcharter, hnotified⟩
  · rw [hnotified] at hlast
    cases harrival : h.arrival c a with
    | none =>
      rw [harrival, Option.none_or] at hlast
      exact hcomparable.trans (hw.notified last hlast)
    | some m =>
      rw [harrival, Option.some_or] at hlast
      cases hlast
      rw [(hw.elapsed hspan harrival).1]
      exact hcomparable
  · rw [(eq_of_charter hcharter).1]
    exact ((arises_step hk).regular hw.executors hw.task hlive).mono hnow

/-! ## Many acts -/

/-- The clock does not go back. -/
def Onward : SharedScheduler → List Act → Prop
  | _, [] => True
  | h, a :: as => h.now.NotAfter (h.step a).now ∧ (h.step a).Onward as

/-- Under an identifier, no other task is found than the one on a card. -/
def Retains (c : Card) (id : String) : SharedScheduler → List Act → Prop
  | _, [] => True
  | h, a :: as => h.scheduler.liveCard id c = c ∧ (h.step a).Retains c id as

/-- The moments at which notifications about the task on a card were sent that were delivered, in
order. -/
def arrivals (c : Card) : SharedScheduler → List Act → List Moment
  | _, [] => []
  | h, a :: as => (h.arrival c a).toList ++ (h.step a).arrivals c as

theorem onward_append : h.Onward (as ++ bs) ↔ h.Onward as ∧ (h.after as).Onward bs := by
  induction as generalizing h with
  | nil => simp [Onward]
  | cons a as ih => rw [List.cons_append, after_cons, Onward, Onward, ih, and_assoc]

theorem retains_append {id : String} :
    h.Retains c id (as ++ bs) ↔ h.Retains c id as ∧ (h.after as).Retains c id bs := by
  induction as generalizing h with
  | nil => simp [Retains]
  | cons a as ih => rw [List.cons_append, after_cons, Retains, Retains, ih, and_assoc]

/-- After some acts, the task on a card remembers the last notification that was delivered. -/
theorem Watched.after (hw : h.Watched c v) (hspan : IsSpan v.notifyInterval) (honward : h.Onward as)
    (hretains : h.Retains c v.id as) :
    ∃ v', (h.after as).Watched c v' ∧ v'.charter = v.charter ∧
      v'.lastNotified = ((h.arrivals c as).getLast?).or v.lastNotified := by
  induction as generalizing h v with
  | nil => exact ⟨v, hw, rfl, rfl⟩
  | cons a as ih =>
    obtain ⟨v₁, hw₁, hcharter₁, hlast₁⟩ := hw.step hspan honward.1 hretains.1
    obtain ⟨hid, hminutes⟩ := eq_of_charter hcharter₁
    obtain ⟨v', hw', hcharter', hlast'⟩ := ih hw₁ (hminutes.symm ▸ hspan) honward.2
      (hid.symm ▸ hretains.2)
    refine ⟨v', hw', hcharter'.trans hcharter₁, ?_⟩
    rw [hlast', hlast₁, arrivals, List.getLast?_append, ← Option.or_assoc]
    congr 2
    cases h.arrival c a <;> rfl

/-- Two moments have at least some minutes between them. -/
def MinutesApart (n : Int) (first second : Moment) : Prop :=
  first.universal + n * 60000000 ≤ second.universal

/-- Notifications that are delivered come after the present moment, the minutes of the task after the
last one that was delivered, and these minutes after one another. -/
theorem Watched.apart (hw : h.Watched c v) (hspan : IsSpan v.notifyInterval) (honward : h.Onward as)
    (hretains : h.Retains c v.id as) :
    (∀ m ∈ h.arrivals c as, h.now.universal ≤ m.universal) ∧
      (∀ last ∈ v.lastNotified, ∀ m ∈ h.arrivals c as, MinutesApart v.notifyInterval last m) ∧
      (h.arrivals c as).Pairwise (MinutesApart v.notifyInterval) := by
  induction as generalizing h v with
  | nil => exact ⟨fun m hm => (nomatch hm), fun _ _ m hm => (nomatch hm), List.Pairwise.nil⟩
  | cons a as ih =>
    obtain ⟨v₁, hw₁, hcharter₁, hlast₁⟩ := hw.step hspan honward.1 hretains.1
    obtain ⟨hid, hminutes⟩ := eq_of_charter hcharter₁
    have hle := (Moment.notAfter_iff.mp honward.1).2
    obtain ⟨hlater, hspaced, hpairs⟩ := ih hw₁ (hminutes.symm ▸ hspan) honward.2
      (hid.symm ▸ hretains.2)
    rw [hminutes] at hspaced hpairs
    rw [arrivals]
    cases harrival : h.arrival c a with
    | none =>
      rw [harrival, Option.none_or] at hlast₁
      exact ⟨fun m hm => hle.trans (hlater m hm), hlast₁ ▸ hspaced, hpairs⟩
    | some m₁ =>
      obtain ⟨rfl, helapsed⟩ := hw.elapsed hspan harrival
      rw [harrival, Option.some_or] at hlast₁
      have hnext := hspaced h.now hlast₁
      refine ⟨?_, fun last hlast => ?_, List.pairwise_cons.mpr ⟨hnext, hpairs⟩⟩
      · exact List.forall_mem_cons.mpr ⟨le_rfl, fun m hm => hle.trans (hlater m hm)⟩
      · refine List.forall_mem_cons.mpr ⟨helapsed last hlast, fun m hm => ?_⟩
        exact (helapsed last hlast).trans (hle.trans (hlater m hm))

/-! ## The throttle -/

/-- How the notifications about the task on a card are throttled, whatever happens. -/
structure Throttled (h : SharedScheduler) (as : List Act) (c : Card) (t : Task) : Prop where
  /-- Any two notifications that were delivered have the minutes of the task between them. -/
  apart : (h.arrivals c as).Pairwise (MinutesApart t.notifyInterval)
  /-- The task remembers the last one that was delivered, and none that was not. -/
  window : ∀ front, front <+: as → ∃ v, (h.after front).scheduler.task? c = some v ∧
    v.charter = t.charter ∧ v.lastNotified = ((h.arrivals c front).getLast?).or t.lastNotified
  /-- When someone leaves who ran the task, one notification is sent if the run was noted on the card and
  the task asks for it, and none otherwise. -/
  sends : ∀ front a back k v, as = front ++ a :: back → (h.after front).leaver a = some k →
    k.card = c → (h.after front).scheduler.task? c = some v →
      (k.stage = .noted (.ok c) ∧ v.Tells k.record.success (h.after front).now →
          (h.after front).SendsOne a c v k.record) ∧
        (¬ (k.stage = .noted (.ok c) ∧ v.Tells k.record.success (h.after front).now) →
          (h.after front).SendsNone a)
  /-- A run of the task is noted on the card just when the next run can be told. -/
  notes : ∀ front a back v, as = front ++ a :: back → (h.after front).scheduler.task? c = some v →
    (h.after front).Notes c v a

/-- When nobody has begun yet, the clock does not go back, and no other task is found under the identifier
of the task on a card, the notifications about this task are throttled: whatever the runs come to, and
whatever becomes of the notifications. -/
theorem after_throttled (hworkers : h.pool.workers = []) (hcallers : h.callers = [])
    (ht : h.scheduler.task? c = some t) (hspan : IsSpan t.notifyInterval)
    (hlast : ∀ last ∈ t.lastNotified, h.now.Comparable last) (honward : h.Onward as)
    (hretains : h.Retains c t.id as) : h.Throttled as c t := by
  have hnobody : ∀ k ∈ h.executors, k.Regular c t.id h.now := by
    unfold executors
    rw [hworkers, hcallers]
    exact fun k hk => nomatch hk
  have hw : h.Watched c t := ⟨ht, hlast, hnobody⟩
  -- What holds of the task when it was taken on holds of it before each act.
  have hbefore {front back : List Act} {a : Act} {v : Task} (has : as = front ++ a :: back)
      (hv : (h.after front).scheduler.task? c = some v) :
      (h.after front).Watched c v ∧ IsSpan v.notifyInterval ∧
        (h.after front).scheduler.liveCard v.id c = c := by
    rw [has] at honward hretains
    obtain ⟨hfront, hback⟩ := retains_append.mp hretains
    obtain ⟨v', hw', hcharter, -⟩ := hw.after hspan (onward_append.mp honward).1 hfront
    cases hv.symm.trans hw'.task
    obtain ⟨hid, hminutes⟩ := eq_of_charter hcharter
    have hlive : (h.after front).scheduler.liveCard v.id c = c := hid.symm ▸ hback.1
    exact ⟨hw', hminutes.symm ▸ hspan, hlive⟩
  refine ⟨(hw.apart hspan honward hretains).2.2, ?_, ?_, ?_⟩
  · rintro front ⟨back, rfl⟩
    obtain ⟨v, hw', hcharter, hnotified⟩ := hw.after hspan (onward_append.mp honward).1
      (retains_append.mp hretains).1
    exact ⟨v, hw'.task, hcharter, hnotified⟩
  · intro front a back k v has hk hcard hv
    obtain ⟨hw', hspan', -⟩ := hbefore has hv
    exact hw'.sends hspan' hk hcard
  · intro front a back v has hv
    obtain ⟨hw', -, hlive⟩ := hbefore has hv
    exact hw'.notes hlive a

instance decidableOnward : (h : SharedScheduler) → (as : List Act) → Decidable (h.Onward as)
  | _, [] => .isTrue trivial
  | h, a :: as => @instDecidableAnd _ _ inferInstance (decidableOnward (h.step a) as)

instance decidableRetains (c : Card) (id : String) :
    (h : SharedScheduler) → (as : List Act) → Decidable (h.Retains c id as)
  | _, [] => .isTrue trivial
  | h, a :: as => @instDecidableAnd _ _ inferInstance (decidableRetains c id (h.step a) as)

/-- A task all of whose runs are told about, but not more often than every five minutes. -/
def talkative : Task := { WorkerPool.halfHourly "t1" "a" with notifies := true, policy := .always }

/-- A shared scheduler that has taken on this task. -/
def talkativeScheduler : SharedScheduler := (quiet WorkerPool.dawn).step (.move (.add talkative))

/-- A caller runs the task on a card. -/
def fullCall (result : Except Fault Verdict) : List Act := [.call 0, .note 0 result, .leave 0]

/-- The beginning of the calendar, and some minutes. -/
def pastDawn (minutes : Nat) (h : minutes < 60) : Moment :=
  ⟨minutes * 60000000, none, lt_of_lt_of_le (Nat.mul_lt_mul_of_pos_right h (by decide)) (by decide)⟩

/-- The clock goes on to a moment, and from then on the messenger answers in some way. -/
def passTo (later : Moment) (reply : Except Foreign Bool) : Act :=
  .move (.pass (WorkerPool.deskAt later) (.planned []) (.planned [reply]))

/-- Four runs: the second one is too early to be told about, and the notification about the third one is
not delivered. -/
def fourRuns : List Act :=
  fullCall (.ok (true, none)) ++
    passTo (pastDawn 3 (by decide)) (.ok true) :: fullCall (.ok (false, none)) ++
    passTo (pastDawn 5 (by decide)) (.ok false) :: fullCall (.ok (true, none)) ++
    passTo (pastDawn 6 (by decide)) (.ok true) :: fullCall (.ok (true, none))

/-- The notification that was not delivered does not keep the next one from being sent. -/
theorem after_throttled_fourRuns :
    talkativeScheduler.Throttled fourRuns 0 { talkative with nextRun := some WorkerPool.dawn } ∧
      talkativeScheduler.arrivals 0 fourRuns = [WorkerPool.dawn, pastDawn 6 (by decide)] :=
  ⟨after_throttled rfl rfl (by decide +kernel) (by decide) (by decide) (by decide +kernel)
    (by decide +kernel), by decide +kernel⟩

end SharedScheduler

end Deskwork.Schedule
