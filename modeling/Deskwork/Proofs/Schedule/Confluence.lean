/-
# Confluence

The workers that were started by one look at the tasks may be let run in any order, one after the other
(`WorkerPool.after_finishAt`) or with their beginnings and ends mixed. As long as the clock stands, what
a run comes to and what becomes of a notification depends on the task only (`Custom`), and there is room
for the records, the order does not matter: in the end, every task that was started is as it would be if
it had been the only one (`Custom.served`), its record is the one of its run, and nothing is in flight
(`WorkerPool.Served`). So any two orders agree on the tasks, on the history of every task up to what
tells records apart, and on what is in flight (`WorkerPool.after_agrees`).
-/
import Deskwork.Proofs.Schedule.Notices
import Deskwork.Proofs.Schedule.Spacing

namespace Deskwork.Schedule

open Deskwork.Time

/-! ## What depends on the task only -/

/-- A record without what tells it from other records. -/
def Record.anonymous (r : Record) : Record := { r with id := "" }

/-- What runs come to, and what becomes of notifications, when this depends on the task only. -/
structure Custom where
  verdict : Task → Except Fault Verdict
  /-- Whether a notification is delivered; sending it may fail. -/
  reply : Task → Except Fault Bool

namespace Custom

/-- The record of the run of a task that takes no time. -/
def entry (x : Custom) (now : Moment) (t : Task) : Record :=
  (Record.begin "" t now).concluded (x.verdict t) now

/-- A task after a run that takes no time, and after what is told about it. -/
def served (x : Custom) (now : Moment) (t : Task) : Task :=
  match (t.ranAt now).planned now,
    (t.renewed now now).wantsNotice (x.entry now t).success now, x.reply (t.renewed now now) with
  | .ok _, .ok true, .ok true => (t.renewed now now).notifiedAt now
  | _, _, _ => t.renewed now now

end Custom

namespace WorkerPool

variable {w w' : WorkerPool} {m : Move} {ms : List Move} {x : Custom} {index : Nat} {k : Worker}
  {c : Card} {t : Task} {filed : List Card}

/-- A move by which workers come and go while the clock stands, and in which runs and notifications come
out as they do by custom. -/
def Steady (x : Custom) (w : WorkerPool) (m : Move) : Prop :=
  (w.step m).now = w.now ∧
    match m with
    | .pass .. | .begin _ => True
    | .note index result => ∀ k ∈ w.workers[index]?, result = x.verdict k.task
    | .leave index => ∀ k ∈ w.workers[index]?, ∀ n ∈ w.scheduler.noticeOf k,
        n.answer = x.reply (w.scheduler.subject n.card k.task)
    | _ => False

/-- The cards of the workers among some whose runs are not over. -/
def openCards (ks : List Worker) : List Card :=
  (ks.filter fun k => k.stage.isRunning).map Worker.card

/-- The workers wait for listed cards, none has begun, and there is room for the records of all of
them. -/
structure Dispatched (w : WorkerPool) : Prop where
  /-- The listed tasks have different identifiers. -/
  distinct : w.scheduler.Distinct
  /-- The workers wait for listed cards, each for another one. -/
  waiting : w.scheduler.waiting.Sublist w.scheduler.listed
  /-- None has begun. -/
  workers : w.workers = []
  /-- There is room. -/
  room : w.scheduler.history.records.length + w.scheduler.waiting.length ≤
    w.scheduler.history.capacity

/-- How far a worker has come that was started by the look. -/
inductive Progress (x : Custom) (w w' : WorkerPool) (filed : List Card) (k : Worker) : Prop where
  /-- Its run is not over. -/
  | running (stage : k.stage = .running)
    (record : k.record.anonymous = Record.begin "" k.task w.now)
  /-- Its run was noted on its card. -/
  | noted (stage : k.stage = .noted (((k.task.ranAt w.now).planned w.now).map fun _ => k.card))
    (record : k.record.anonymous = x.entry w.now k.task) (card : k.card ∈ filed)
    (task : w'.scheduler.task? k.card = some (k.task.renewed w.now w.now))

/-- How far a worker pool has come after a look: the runs on some cards were noted, in this order. -/
structure Serving (x : Custom) (w w' : WorkerPool) (filed : List Card) : Prop where
  /-- The clock stands. -/
  now : w'.now = w.now
  /-- The tasks are those that were taken on. -/
  charters : w'.scheduler.charters = w.scheduler.charters
  /-- The same cards are listed. -/
  listed : w'.scheduler.listed = w.scheduler.listed
  /-- The history has the same room. -/
  capacity : w'.scheduler.history.capacity = w.scheduler.history.capacity
  /-- The records of the noted runs were added to the history. -/
  records : ∃ news, w'.scheduler.history.records = w.scheduler.history.records ++ news ∧
    news.map (some ∘ Record.anonymous) = filed.map fun c => (w.scheduler.task? c).map (x.entry w.now)
  /-- The run on a card was noted, or is not over, or has not begun. -/
  cards : (filed ++ (openCards w'.workers ++ w'.scheduler.waiting)).Perm w.scheduler.waiting
  /-- The workers have begun on different cards. -/
  apart : (w'.workers.map Worker.card).Nodup
  /-- As long as no run on a card was noted, the task is as it was. -/
  untouched : ∀ c, c ∉ filed → w'.scheduler.task? c = w.scheduler.task? c
  /-- The workers are about the tasks on their cards. -/
  workers : ∀ k ∈ w'.workers, w.scheduler.task? k.card = some k.task ∧ Progress x w w' filed k
  /-- When a worker has left, its task is served. -/
  served : ∀ c ∈ filed, (∀ k ∈ w'.workers, k.card ≠ c) →
    w'.scheduler.task? c = (w.scheduler.task? c).map (x.served w.now)

theorem Dispatched.serving (h : w.Dispatched) (x : Custom) : w.Serving x w [] where
  now := rfl
  charters := rfl
  listed := rfl
  capacity := rfl
  records := ⟨[], (List.append_nil _).symm, rfl⟩
  cards := by
    rw [h.workers]
    exact .refl _
  apart := by
    rw [h.workers]
    exact List.nodup_nil
  untouched _ _ := rfl
  workers k hk := nomatch (h.workers ▸ hk)
  served c hc := nomatch hc

theorem Dispatched.nodup_waiting (h : w.Dispatched) : w.scheduler.waiting.Nodup :=
  h.distinct.nodup_listed.sublist h.waiting

theorem Dispatched.exists_task (h : w.Dispatched) (hc : c ∈ w.scheduler.waiting) :
    ∃ t, w.scheduler.task? c = some t :=
  ⟨_, List.getElem?_eq_getElem (h.distinct.lt_length (h.waiting.subset hc))⟩

theorem Progress.mono {w'' : WorkerPool} {more : List Card} (h : Progress x w w' filed k)
    (htask : k.card ∈ filed → w''.scheduler.task? k.card = w'.scheduler.task? k.card)
    (hmore : filed ⊆ more) : Progress x w w'' more k := by
  cases h with
  | running stage record => exact .running stage record
  | noted stage record card task => exact .noted stage record (hmore card) ((htask card).trans task)

theorem card_mem_openCards {ks : List Worker} (hk : k ∈ ks) (hrunning : k.stage = .running) :
    k.card ∈ openCards ks := by
  refine List.mem_map_of_mem (List.mem_filter.mpr ⟨hk, ?_⟩)
  rw [hrunning]
  rfl

/-! ## Workers of which one changes -/

section

variable {ks : List Worker} {k' : Worker}

theorem map_card_set (hk : ks[index]? = some k) (hcard : k'.card = k.card) :
    (ks.set index k').map Worker.card = ks.map Worker.card := by
  refine List.ext_getElem? fun i => ?_
  rw [List.getElem?_map, List.getElem?_map, List.getElem?_set]
  split
  next heq =>
    subst heq
    rw [hk, if_pos (List.getElem?_eq_some_iff.mp hk).1, Option.map_some, Option.map_some, hcard]
  next => rfl

theorem forall_card_ne_of_set (hk : ks[index]? = some k) (hcard : k'.card = k.card)
    (hnobody : ∀ j ∈ ks.set index k', j.card ≠ c) : ∀ j ∈ ks, j.card ≠ c := by
  intro j hj heq
  have hmem : c ∈ (ks.set index k').map Worker.card := by
    rw [map_card_set hk hcard]
    exact heq ▸ List.mem_map_of_mem hj
  obtain ⟨j', hj', heq'⟩ := List.mem_map.mp hmem
  exact hnobody j' hj' heq'

/-- A worker that leaves was the only one on its card. -/
theorem mem_eraseIdx_iff (hk : ks[index]? = some k) (hapart : (ks.map Worker.card).Nodup) :
    k' ∈ ks.eraseIdx index ↔ k' ∈ ks ∧ k'.card ≠ k.card := by
  obtain ⟨hlt, hindex⟩ := List.getElem?_eq_some_iff.mp hk
  have hperm := List.getElem_cons_eraseIdx_perm hlt
  rw [hindex] at hperm
  have hcards := (hperm.map Worker.card).nodup_iff.mpr hapart
  rw [List.map_cons, List.nodup_cons] at hcards
  rw [← hperm.mem_iff, List.mem_cons]
  constructor
  · exact fun hmem => ⟨.inr hmem, fun hcard => hcards.1 (hcard ▸ List.mem_map_of_mem hmem)⟩
  · rintro ⟨rfl | hmem, hcard⟩
    · exact absurd rfl hcard
    · exact hmem

end

namespace Serving

/-- The cards whose runs were noted, are not over, or have not begun are different. -/
theorem nodup (h : Serving x w w' filed) (hd : w.Dispatched) :
    (filed ++ (openCards w'.workers ++ w'.scheduler.waiting)).Nodup :=
  h.cards.nodup_iff.mpr hd.nodup_waiting

/-- The run of a worker that runs was not noted yet. -/
theorem not_mem_of_running (h : Serving x w w' filed) (hd : w.Dispatched) (hk : k ∈ w'.workers)
    (hrunning : k.stage = .running) : k.card ∉ filed := by
  intro hfiled
  have hopen := List.mem_append_left w'.scheduler.waiting (card_mem_openCards hk hrunning)
  exact List.disjoint_of_nodup_append (h.nodup hd) hfiled hopen

/-- On a card for which a worker waits, no run was noted, and no other worker has begun. -/
theorem not_mem_of_waiting (h : Serving x w w' filed) (hd : w.Dispatched)
    (hc : c ∈ w'.scheduler.waiting) : c ∉ filed ∧ c ∉ w'.workers.map Worker.card := by
  have hfree : c ∉ filed := fun hfiled =>
    List.disjoint_of_nodup_append (h.nodup hd) hfiled (List.mem_append_right _ hc)
  refine ⟨hfree, fun hmem => ?_⟩
  obtain ⟨k, hk, rfl⟩ := List.mem_map.mp hmem
  cases (h.workers k hk).2 with
  | running stage record =>
    have hapart := (List.nodup_append.mp (h.nodup hd)).2.1
    exact List.disjoint_of_nodup_append hapart (card_mem_openCards hk stage) hc
  | noted stage record card task => exact hfree card

/-- What happens around the workers changes nothing while the clock stands. -/
theorem surroundings (h : Serving x w w' filed) {desk : Desk} {runner : Runner}
    {messenger : Messenger} (hnow : desk.machine.wall = w.now) :
    Serving x w ⟨{ w'.scheduler with desk := desk, runner := runner, messenger := messenger },
      w'.workers⟩ filed :=
  ⟨hnow, h.charters, h.listed, h.capacity, h.records, h.cards, h.apart, h.untouched,
    fun k hk => ⟨(h.workers k hk).1, (h.workers k hk).2.mono (fun _ => rfl) fun _ hc => hc⟩, h.served⟩

/-! ## What the moves do -/

/-- A worker that begins runs the task that was on its card when it was started. -/
theorem begin (h : Serving x w w' filed) (hd : w.Dispatched)
    (hnow : (w'.step (.begin index)).now = w'.now) :
    Serving x w (w'.step (.begin index)) filed := by
  cases hc : w'.scheduler.waiting[index]? with
  | none =>
    have hstays : w'.step (.begin index) = w' := by
      change w'.beginAt index = w'
      unfold beginAt
      rw [hc]
    rw [hstays]
    exact h
  | some c =>
    have hwaits := List.mem_of_getElem? hc
    obtain ⟨hfree, hnew⟩ := h.not_mem_of_waiting hd hwaits
    obtain ⟨t, htask⟩ := hd.exists_task (h.cards.subset (List.mem_append_right _
      (List.mem_append_right _ hwaits)))
    have hunwait : (w'.scheduler.unwait index).task? c = some t := (h.untouched c hfree).trans htask
    obtain ⟨desk, messenger, hopened⟩ := (w'.scheduler.unwait index).around_openRun t
    have hbegun : w'.step (.begin index) =
        ⟨{ w'.scheduler.unwait index with desk := desk, messenger := messenger },
          ⟨c, t, ((w'.scheduler.unwait index).openRun t).1, .running⟩ :: w'.workers⟩ := by
      rw [← hopened]
      change w'.beginAt index = _
      unfold beginAt
      rw [hc]
      dsimp only [onScheduler]
      rw [hunwait]
      rfl
    have hrecord : (((w'.scheduler.unwait index).openRun t).1).anonymous =
        Record.begin "" t w.now := by
      rw [← h.now]
      rfl
    rw [hbegun] at hnow ⊢
    refine { h with
      now := hnow.trans h.now
      apart := List.nodup_cons.mpr ⟨hnew, h.apart⟩
      cards := ?cards
      workers := ?workers
      served := fun d hd' hnobody => h.served d hd' fun k hk => hnobody k (List.mem_cons_of_mem _ hk) }
    case cards =>
      have hrest := List.getElem_cons_eraseIdx_perm (List.getElem?_eq_some_iff.mp hc).1
      rw [(List.getElem?_eq_some_iff.mp hc).2] at hrest
      have hmoved : ((c :: openCards w'.workers) ++ w'.scheduler.waiting.eraseIdx index).Perm
          (openCards w'.workers ++ w'.scheduler.waiting) :=
        List.perm_middle.symm.trans (hrest.append_left _)
      exact (hmoved.append_left filed).trans h.cards
    case workers =>
      intro k hk
      rcases List.mem_cons.mp hk with rfl | hold
      · exact ⟨htask, .running rfl hrecord⟩
      · exact ⟨(h.workers k hold).1, (h.workers k hold).2.mono (fun _ => rfl) fun _ hc => hc⟩

/-- A run that is over is noted on its card. -/
theorem note_eq (h : Serving x w w' filed) (hd : w.Dispatched) (ht : w'.Tidy)
    (hk : w'.workers[index]? = some k) (hrunning : k.stage = .running) :
    ∃ desk k', desk.machine.wall = w.now ∧ k'.card = k.card ∧ k'.task = k.task ∧
      k'.record.anonymous = x.entry w.now k.task ∧
      k'.stage = .noted (((k.task.ranAt w.now).planned w.now).map fun _ => k.card) ∧
      w'.step (.note index (x.verdict k.task)) =
        ⟨(w'.scheduler.onDesk desk).filed k.card k'.record, w'.workers.set index k'⟩ := by
  have hmem := List.mem_of_getElem? hk
  obtain ⟨htask, hprogress⟩ := h.workers k hmem
  have hrecord : k.record.anonymous = Record.begin "" k.task w.now := by
    cases hprogress with
    | running stage record => exact record
    | noted stage => cases hrunning.symm.trans stage
  have hstart : k.record.start = w.now := congrArg Record.start hrecord
  have hentry : (k.record.concluded (x.verdict k.task) w.now).anonymous = x.entry w.now k.task :=
    congrArg (fun r : Record => r.concluded (x.verdict k.task) w.now) hrecord
  -- The card of the worker is listed, so its run is noted there.
  have hlisted : k.card ∈ w'.scheduler.listed := by
    rw [h.listed]
    exact hd.waiting.subset (h.cards.subset (List.mem_append_right _
      (List.mem_append_left _ (card_mem_openCards hmem hrunning))))
  have hlive : w'.scheduler.liveCard k.task.id k.card = k.card := by
    unfold Scheduler.liveCard
    rw [ht.distinct.find?_eq_some_iff.mpr ⟨hlisted, (ht.fits k hmem).card⟩, Option.getD_some]
  obtain ⟨desk, v, hchats, hv, hnoted⟩ := noteAt_eq ht hk hrunning (x.verdict k.task)
  rw [hlive, h.untouched _ (h.not_mem_of_running hd hmem hrunning), htask] at hv
  cases hv
  rw [hlive, h.now, hstart] at hnoted
  have hwall : desk.machine.wall = w'.now := congrArg (·.machine.wall) hchats.hushed
  exact ⟨desk, ⟨k.card, k.task, k.record.concluded (x.verdict k.task) w.now,
    .noted (((k.task.ranAt w.now).planned w.now).map fun _ => k.card)⟩, hwall.trans h.now, rfl, rfl,
    hentry, rfl, hnoted⟩

/-- There is room for the record of a run that is not over. -/
theorem room (h : Serving x w w' filed) (hd : w.Dispatched) (hk : k ∈ w'.workers)
    (hrunning : k.stage = .running) :
    w'.scheduler.history.records.length < w'.scheduler.history.capacity := by
  obtain ⟨news, hnews, hentries⟩ := h.records
  have hlength := congrArg List.length hentries
  have hcards := h.cards.length_eq
  have hsome := List.length_pos_of_mem (card_mem_openCards hk hrunning)
  have hroom := hd.room
  rw [hnews, h.capacity]
  simp only [List.length_map, List.length_append] at hlength hcards ⊢
  omega

/-- A run that is over is noted on its card, and its record is kept. -/
theorem note (h : Serving x w w' filed) (hd : w.Dispatched) (ht : w'.Tidy)
    (hk : w'.workers[index]? = some k) (hrunning : k.stage = .running) :
    Serving x w (w'.step (.note index (x.verdict k.task))) (filed ++ [k.card]) := by
  have hmem := List.mem_of_getElem? hk
  have htask := (h.workers k hmem).1
  have hfree := h.not_mem_of_running hd hmem hrunning
  obtain ⟨desk, k', hwall, hcard, htask', hrecord, hstage, hnoted⟩ := h.note_eq hd ht hk hrunning
  have hstart : k'.record.start = w.now := congrArg Record.start hrecord
  have hopen : (openCards w'.workers).Perm (k.card :: openCards (w'.workers.set index k')) :=
    (ongoing_set hk hrunning (congrArg Stage.isRunning hstage)).map Worker.card
  have hfiled (d : Card) : ((w'.scheduler.onDesk desk).filed k.card k'.record).task? d =
      if k.card = d then (w'.scheduler.task? d).map fun t => t.renewed w.now w.now
      else w'.scheduler.task? d := by
    have hnow : (w'.scheduler.onDesk desk).now = w.now := hwall
    have hmodified := (w'.scheduler.onDesk desk).task?_filed k.card k'.record d
    rw [hnow, hstart] at hmodified
    exact hmodified
  rw [hnoted]
  refine { now := hwall, charters := ?charters, listed := h.listed, capacity := h.capacity
           records := ?records, cards := ?cards, apart := ?apart, untouched := ?untouched
           workers := ?workers, served := ?served }
  case charters =>
    exact ((w'.scheduler.onDesk desk).revises_filed k.card k'.record).charters.trans h.charters
  case records =>
    obtain ⟨news, hnews, hentries⟩ := h.records
    refine ⟨news ++ [k'.record],
      (History.records_append_of_lt _ (h.room hd hmem hrunning)).trans ?_, ?_⟩
    · rw [hnews, List.append_assoc]
    · rw [List.map_append, List.map_append, hentries, List.map_singleton, List.map_singleton, htask,
        Function.comp_apply, hrecord, Option.map_some]
  case cards =>
    have hshift := (hopen.append_right w'.scheduler.waiting).append_left filed
    rw [List.append_assoc]
    exact hshift.symm.trans h.cards
  case apart =>
    change ((w'.workers.set index k').map Worker.card).Nodup
    rw [map_card_set hk hcard]
    exact h.apart
  case untouched =>
    intro d hd'
    rw [List.mem_append, List.mem_singleton, not_or] at hd'
    exact ((hfiled d).trans (if_neg (Ne.symm hd'.2))).trans (h.untouched d hd'.1)
  case workers =>
    intro k₁ hk₁
    rcases List.mem_or_eq_of_mem_set hk₁ with hold | rfl
    · obtain ⟨htask₁, hprogress₁⟩ := h.workers k₁ hold
      refine ⟨htask₁, hprogress₁.mono (fun hfiled₁ => ?_) fun d hd' => List.mem_append_left _ hd'⟩
      -- No run on the card of the worker was noted before.
      have hother : k.card ≠ k₁.card := fun heq => hfree (heq ▸ hfiled₁)
      exact (hfiled k₁.card).trans (if_neg hother)
    · rw [hcard, htask']
      refine ⟨htask, .noted ?_ ?_ ?_ ?_⟩
      · rw [hcard, htask']
        exact hstage
      · rw [htask']
        exact hrecord
      · rw [hcard]
        exact List.mem_append_right _ (List.mem_singleton_self _)
      · rw [hcard, htask']
        refine (hfiled k.card).trans ((if_pos rfl).trans ?_)
        rw [h.untouched _ hfree, htask, Option.map_some]
  case served =>
    intro d hd' hnobody
    have hother : d ≠ k.card := fun heq =>
      hnobody k' (List.mem_set (List.getElem?_eq_some_iff.mp hk).1 k') (hcard.trans heq.symm)
    have hbefore : d ∈ filed :=
      (List.mem_append.mp hd').resolve_right fun hd' => hother (List.mem_singleton.mp hd')
    exact ((hfiled d).trans (if_neg hother.symm)).trans
      (h.served d hbefore (forall_card_ne_of_set hk hcard hnobody))

/-- A worker whose run was noted on its card, if on any, tells about the task on this card only. -/
theorem task?_toldBy_of_ne {s : Scheduler} {result : Except Fault Task} (hc : c ≠ k.card)
    (hstage : k.stage = .noted (result.map fun _ => k.card)) :
    (s.toldBy k).task? c = s.task? c := by
  have hsilent : s.arrivalOf c k = none := by
    refine Option.eq_none_iff_forall_ne_some.mpr fun m hm => hc ?_
    obtain ⟨hhere, -⟩ := Scheduler.arrivalOf_eq_some hm
    have hcards := hstage.symm.trans hhere
    cases result with
    | error f => cases hcards
    | ok t' =>
      cases hcards
      rfl
  rw [s.task?_toldBy k c, hsilent]
  exact Option.map_id'

/-- When a worker leaves whose run was noted, its task is served. -/
theorem informed_eq (hrecord : k.record.anonymous = x.entry w'.now t)
    (hstage : k.stage = .noted (((t.ranAt w'.now).planned w'.now).map fun _ => c))
    (hv : w'.scheduler.task? c = some (t.renewed w'.now w'.now))
    (hreply : ∀ n ∈ w'.scheduler.noticeOf k,
      n.answer = x.reply (w'.scheduler.subject n.card k.task)) :
    (t.renewed w'.now w'.now).informed (w'.scheduler.arrivalOf c k) = x.served w'.now t := by
  have hduration : ∃ text, k.record.duration = .ok text := by
    have hsame : k.record.anonymous.duration = (x.entry w'.now t).duration :=
      congrArg Record.duration hrecord
    change ∃ text, k.record.anonymous.duration = .ok text
    rw [hsame]
    exact Record.exists_duration_iff.mpr rfl
  have hsuccess : k.record.success = (x.entry w'.now t).success := by
    have hsame : k.record.anonymous.success = _ := congrArg Record.success hrecord
    exact hsame
  have hsubject : w'.scheduler.subject c k.task = t.renewed w'.now w'.now := by
    unfold Scheduler.subject
    rw [hv, Option.getD_some]
  have hnow : w'.scheduler.now = w'.now := rfl
  obtain ⟨text, htext⟩ := hduration
  unfold Scheduler.arrivalOf Custom.served
  unfold Scheduler.noticeOf at hreply ⊢
  rw [hstage] at hreply ⊢
  cases hplanned : (t.ranAt w'.now).planned w'.now with
  | error f => rfl
  | ok t' =>
    rw [hplanned] at hreply
    dsimp only [Except.map] at hreply ⊢
    unfold Scheduler.noticeOn at hreply ⊢
    rw [htext] at hreply ⊢
    dsimp only at hreply ⊢
    rw [hsubject, hsuccess, hnow] at hreply ⊢
    cases hwants : (t.renewed w'.now w'.now).wantsNotice (x.entry w'.now t).success w'.now with
    | error f => rfl
    | ok wanted =>
      cases wanted with
      | false => rfl
      | true =>
        rw [hwants] at hreply
        have hanswer := hreply _ rfl
        dsimp only at hanswer
        rw [hsubject] at hanswer
        dsimp only
        rw [Option.bind_some, hanswer, Notice.arrival?_card ⟨c, w'.now, _⟩]
        obtain _ | _ | _ := x.reply (t.renewed w'.now w'.now) <;> rfl

/-- A worker that leaves tells about its run, and then its task is served. -/
theorem leave (h : Serving x w w' filed)
    (hnow : (w'.step (.leave index)).now = w'.now)
    (hreply : ∀ k ∈ w'.workers[index]?, ∀ n ∈ w'.scheduler.noticeOf k,
      n.answer = x.reply (w'.scheduler.subject n.card k.task)) :
    Serving x w (w'.step (.leave index)) filed := by
  rcases w'.leaveAt_cases index with hstays | ⟨k, desk, ids, hk, hstage, hleft⟩
  · rw [show w'.step (.leave index) = w'.leaveAt index from rfl, hstays]
    exact h
  · obtain ⟨htask, hprogress⟩ := h.workers k (List.mem_of_getElem? hk)
    cases hprogress with
    | running stage => exact absurd stage hstage
    | noted stage record card task =>
      have htold := w'.scheduler.undisturbed_toldBy k
      have hhistory := w'.scheduler.history_toldBy k
      have hnoted : k.stage.isRunning = false := by
        rw [stage]
        rfl
      have hmem {k' : Worker} : k' ∈ w'.workers.eraseIdx index ↔ k' ∈ w'.workers ∧ k'.card ≠ k.card :=
        mem_eraseIdx_iff hk h.apart
      have hothers (d : Card) (hd : d ≠ k.card) :
          (w'.scheduler.toldBy k).task? d = w'.scheduler.task? d :=
        task?_toldBy_of_ne hd stage
      have hserved : (w'.scheduler.toldBy k).task? k.card = some (x.served w.now k.task) := by
        have hnow' := h.now
        rw [← hnow'] at record stage task ⊢
        rw [w'.scheduler.task?_toldBy k k.card, task, Option.map_some,
          informed_eq record stage task (hreply k hk)]
      change (w'.leaveAt index).now = w'.now at hnow
      change Serving x w (w'.leaveAt index) filed
      rw [hleft] at hnow ⊢
      refine { now := hnow.trans h.now, charters := htold.revises.charters.trans h.charters
               listed := htold.listed.trans h.listed
               capacity := (congrArg History.capacity hhistory).trans h.capacity
               records := ?records, cards := ?cards
               apart := h.apart.sublist ((List.eraseIdx_sublist _ index).map _)
               untouched := ?untouched, workers := ?workers, served := ?served }
      case records =>
        obtain ⟨news, hnews, hentries⟩ := h.records
        exact ⟨news, (congrArg History.records hhistory).trans hnews, hentries⟩
      case cards =>
        have hopen := (ongoing_eraseIdx hk hnoted).map Worker.card
        have hwaiting : (w'.scheduler.toldBy k).waiting = w'.scheduler.waiting := htold.waiting
        change (filed ++ (openCards (w'.workers.eraseIdx index) ++
          (w'.scheduler.toldBy k).waiting)).Perm _
        rw [hwaiting]
        exact ((hopen.append_right _).append_left filed).trans h.cards
      case untouched =>
        intro d hd
        exact (hothers d fun heq => hd (heq ▸ card)).trans (h.untouched d hd)
      case workers =>
        intro k' hk'
        obtain ⟨hold, hother⟩ := hmem.mp hk'
        obtain ⟨htask', hprogress'⟩ := h.workers k' hold
        exact ⟨htask', hprogress'.mono (fun _ => hothers k'.card hother) fun _ hd => hd⟩
      case served =>
        intro d hd hnobody
        by_cases hcard : d = k.card
        · rw [hcard, htask]
          exact hserved
        · refine (hothers d hcard).trans (h.served d hd fun k' hk' heq => ?_)
          exact hnobody k' (hmem.mpr ⟨hk', heq ▸ hcard⟩) heq

/-- Every steady move brings the service on. -/
theorem step (h : Serving x w w' filed) (hd : w.Dispatched) (ht : w'.Tidy) (hm : w'.Steady x m) :
    ∃ more, Serving x w (w'.step m) more := by
  obtain ⟨hnow, hm⟩ := hm
  cases m with
  | pass desk runner messenger =>
    have hwall : desk.machine.wall = w'.now := hnow
    exact ⟨filed, h.surroundings (hwall.trans h.now)⟩
  | begin index => exact ⟨filed, h.begin hd hnow⟩
  | note index result =>
    by_cases hrunning : ∃ k, w'.workers[index]? = some k ∧ k.stage = .running
    · obtain ⟨k, hk, hrunning⟩ := hrunning
      rw [hm k hk]
      exact ⟨_, h.note hd ht hk hrunning⟩
    · refine ⟨filed, ?_⟩
      change Serving x w (w'.noteAt index result) filed
      rw [noteAt_of_not_running (fun k hk h => hrunning ⟨k, hk, h⟩) result]
      exact h
  | leave index => exact ⟨filed, h.leave hnow hm⟩
  | _ => exact hm.elim

end Serving

/-! ## Many moves -/

/-- Some moves are all steady. -/
def Steadily (x : Custom) : WorkerPool → List Move → Prop
  | _, [] => True
  | w, m :: ms => w.Steady x m ∧ (w.step m).Steadily x ms

theorem Steady.separates (h : w.Steady x m) : w.Separates m := by
  cases m with
  | add | load => exact h.2.elim
  | _ => trivial

theorem Serving.after (h : Serving x w w' filed) (hd : w.Dispatched) (ht : w'.Tidy)
    (hms : w'.Steadily x ms) : ∃ more, Serving x w (w'.after ms) more := by
  induction ms generalizing w' filed with
  | nil => exact ⟨filed, h⟩
  | cons m ms ih =>
    obtain ⟨more, hstep⟩ := h.step hd ht hms.1
    exact ih hstep (ht.step hms.1.separates) hms.2

theorem Accounted.after (h : w.Accounted) (hms : w.Steadily x ms) : (w.after ms).Accounted := by
  induction ms generalizing w with
  | nil => exact h
  | cons m ms ih =>
    refine ih (h.step fun now hm => ?_) hms.2
    subst hm
    exact hms.1.2.elim

/-- By some moves, all workers come to their ends. -/
structure Completes (x : Custom) (w : WorkerPool) (ms : List Move) : Prop where
  /-- The moves are steady. -/
  steady : w.Steadily x ms
  /-- No worker waits any longer. -/
  waiting : (w.after ms).scheduler.waiting = []
  /-- None is at work any longer. -/
  workers : (w.after ms).workers = []

/-- What all workers that were started by a look leave behind. -/
structure Served (x : Custom) (w w' : WorkerPool) : Prop where
  /-- The same cards are listed. -/
  listed : w'.scheduler.listed = w.scheduler.listed
  /-- The tasks that were started are served, and the others are as they were. -/
  tasks : ∀ c, w'.scheduler.task? c =
    if c ∈ w.scheduler.waiting then (w.scheduler.task? c).map (x.served w.now)
    else w.scheduler.task? c
  /-- The record of each task that was started comes first among the records of the task. -/
  history : ∀ id, (w'.scheduler.history.latestFor id).map Record.anonymous =
    ((w.scheduler.waiting.filterMap w.scheduler.task?).filter fun t => t.id == id).map (x.entry w.now) ++
      (w.scheduler.history.latestFor id).map Record.anonymous
  /-- Nothing is in flight. -/
  inFlight : w'.scheduler.inFlight = []

/-- Of some things with different keys, those with one key are the same in every order. -/
theorem filter_eq_of_perm {α : Type} {f : α → String} {as bs : List α} (h : as.Perm bs)
    (hkeys : (as.map f).Nodup) (key : String) :
    as.filter (fun a => f a == key) = bs.filter fun a => f a == key := by
  have hperm := h.filter fun a => f a == key
  have hapart : ((as.filter fun a => f a == key).map f).Nodup :=
    hkeys.sublist (List.filter_sublist.map f)
  have hkey : ∀ a ∈ as.filter (fun a => f a == key), f a = key :=
    fun a ha => beq_iff_eq.mp (List.mem_filter.mp ha).2
  generalize as.filter (fun a => f a == key) = found at hperm hapart hkey
  match found with
  | [] => exact hperm.nil_eq
  | [a] => exact hperm.singleton_eq
  | a :: b :: rest =>
    have hsame : f a = f b := (hkey a (by simp)).trans (hkey b (by simp)).symm
    simp [hsame] at hapart

/-- The records of the noted runs come first, and those of one task are the same in every order. -/
theorem Serving.latestFor (h : Serving x w w' filed) (hd : w.Dispatched)
    (hfiled : filed.Perm w.scheduler.waiting) (id : String) :
    (w'.scheduler.history.latestFor id).map Record.anonymous =
      ((w.scheduler.waiting.filterMap w.scheduler.task?).filter fun t => t.id == id).map
          (x.entry w.now) ++
        (w.scheduler.history.latestFor id).map Record.anonymous := by
  obtain ⟨news, hnews, hentries⟩ := h.records
  have hanonymous (rs : List Record) : (rs.filter fun r => r.taskId == id).map Record.anonymous =
      (rs.map Record.anonymous).filter fun r => r.taskId == id := by
    rw [List.filter_map]
    rfl
  have hnewest : news.map Record.anonymous =
      (filed.filterMap w.scheduler.task?).map (x.entry w.now) := by
    have hsome := congrArg (List.filterMap fun r => r) hentries
    rw [List.filterMap_map, List.filterMap_map] at hsome
    rw [List.map_filterMap, ← List.filterMap_eq_map]
    exact hsome
  have hids : ((filed.filterMap w.scheduler.task?).reverse.map Task.id).Nodup := by
    have hlisted : (w.scheduler.waiting.filterMap w.scheduler.idOf?).Nodup :=
      hd.distinct.ids.sublist (hd.waiting.filterMap _)
    rw [List.map_reverse, List.nodup_reverse, List.map_filterMap]
    exact (hfiled.filterMap _).nodup_iff.mpr hlisted
  have hperm : (filed.filterMap w.scheduler.task?).reverse.Perm
      (w.scheduler.waiting.filterMap w.scheduler.task?) :=
    (List.reverse_perm _).trans (hfiled.filterMap _)
  have hfound : (news.reverse.filter fun r => r.taskId == id).map Record.anonymous =
      ((w.scheduler.waiting.filterMap w.scheduler.task?).filter fun t => t.id == id).map
        (x.entry w.now) := by
    rw [hanonymous, List.map_reverse, hnewest, ← List.map_reverse, List.filter_map,
      ← filter_eq_of_perm hperm hids id]
    rfl
  unfold History.latestFor
  rw [hnews, List.reverse_append, List.filter_append, List.map_append, hfound]

/-- When all workers have come to their ends, their tasks are served. -/
theorem Dispatched.served (hd : w.Dispatched) (ht : w.Tidy) (haccounted : w.Accounted)
    (h : w.Completes x ms) : Served x w (w.after ms) := by
  obtain ⟨filed, hserving⟩ := (hd.serving x).after hd ht h.steady
  have hfiled : filed.Perm w.scheduler.waiting := by
    have hcards := hserving.cards
    rw [h.waiting, h.workers] at hcards
    simpa [openCards] using hcards
  refine ⟨hserving.listed, fun c => ?_, hserving.latestFor hd hfiled, ?_⟩
  · by_cases hc : c ∈ w.scheduler.waiting
    · rw [if_pos hc]
      refine hserving.served c (hfiled.mem_iff.mpr hc) fun k hk => ?_
      rw [h.workers] at hk
      cases hk
    · rw [if_neg hc]
      exact hserving.untouched c fun hmem => hc (hfiled.mem_iff.mp hmem)
  · have hbusy : (w.after ms).busy = [] := by
      unfold busy
      rw [h.waiting, h.workers]
      rfl
    have hflying := (haccounted.after h.steady).inFlight
    rw [hbusy] at hflying
    exact hflying.eq_nil

/-- Two worker pools agree: on the tasks, on the history of every task up to what tells records apart, and
on that nothing is in flight. -/
structure Agree (w w' : WorkerPool) : Prop where
  /-- The tasks are the same, in the same order. -/
  tasks : w.scheduler.tasks = w'.scheduler.tasks
  /-- The records of every task are the same, in the same order. -/
  history : ∀ id, (w.scheduler.history.latestFor id).map Record.anonymous =
    (w'.scheduler.history.latestFor id).map Record.anonymous
  /-- Nothing is in flight. -/
  inFlight : w.scheduler.inFlight = [] ∧ w'.scheduler.inFlight = []

/-- A look at the tasks of an idle worker pool starts workers for listed cards. -/
theorem Idle.dispatched (hidle : w.Idle) (hdistinct : w.scheduler.Distinct) {now : Moment}
    (hroom : w.scheduler.history.records.length + (w.scheduler.ready now).length ≤
      w.scheduler.history.capacity) : (w.step (.tick now)).Dispatched := by
  have hstarts := w.scheduler.starts_tick now
  have hwaiting : (w.step (.tick now)).scheduler.waiting = w.scheduler.ready now := by
    have happended := hstarts.waiting
    rwa [hidle.waiting, List.nil_append] at happended
  have hhistory : (w.step (.tick now)).scheduler.history = w.scheduler.history :=
    w.scheduler.history_tick now
  refine ⟨(hidle.tidy hdistinct).distinct_step (m := .tick now) trivial, ?_, hidle.workers, ?_⟩
  · rw [hwaiting, show (w.step (.tick now)).scheduler.listed = _ from hstarts.listed]
    exact (w.scheduler.ready_sublist now).1
  · rw [hwaiting, hhistory]
    exact hroom

/-- All workers that a look at the tasks starts may come to their ends in any order: when the clock
stands, what comes out depends on the task only and there is room for the records, two orders agree. -/
theorem after_agrees {ns : List Move} {now : Moment} (hidle : w.Idle)
    (hdistinct : w.scheduler.Distinct)
    (hroom : w.scheduler.history.records.length + (w.scheduler.ready now).length ≤
      w.scheduler.history.capacity)
    (hms : (w.step (.tick now)).Completes x ms) (hns : (w.step (.tick now)).Completes x ns) :
    ((w.step (.tick now)).after ms).Agree ((w.step (.tick now)).after ns) := by
  have hd := hidle.dispatched hdistinct hroom
  have ht := (hidle.tidy hdistinct).step (m := .tick now) trivial
  have haccounted : (w.step (.tick now)).Accounted :=
    hidle.accounted.step fun now' _ => nodup_startedIds hdistinct.ids now'
  have hserved := hd.served ht haccounted hms
  have hserved' := hd.served ht haccounted hns
  refine ⟨?_, fun id => (hserved.history id).trans (hserved'.history id).symm, hserved.inFlight,
    hserved'.inFlight⟩
  unfold Scheduler.tasks
  rw [hserved.listed, hserved'.listed]
  exact List.filterMap_congr fun c _ => (hserved.tasks c).trans (hserved'.tasks c).symm

/-! ## Two orders -/

instance (x : Custom) (w : WorkerPool) (m : Move) : Decidable (w.Steady x m) :=
  @instDecidableAnd _ _ inferInstance
    (match m with
    | .pass .. | .begin _ => .isTrue trivial
    | .note index result =>
      inferInstanceAs (Decidable (∀ k ∈ w.workers[index]?, result = x.verdict k.task))
    | .leave index =>
      inferInstanceAs (Decidable (∀ k ∈ w.workers[index]?, ∀ n ∈ w.scheduler.noticeOf k,
        n.answer = x.reply (w.scheduler.subject n.card k.task)))
    | .add _ | .update _ | .remove _ | .load _ | .clear | .start | .stop | .tick _ =>
      .isFalse fun h => h)

instance decidableSteadily (x : Custom) :
    (w : WorkerPool) → (ms : List Move) → Decidable (w.Steadily x ms)
  | _, [] => .isTrue trivial
  | w, m :: ms => @instDecidableAnd _ _ inferInstance (decidableSteadily x (w.step m) ms)

/-- The run of one task succeeds, and those of the others fail; only notifications about this task are
delivered. -/
def onlyFirst : Custom where
  verdict t := .ok (t.id == "t1", none)
  reply t := .ok (t.id == "t1")

/-- Two tasks whose runs are told about. -/
def pair : WorkerPool :=
  (vacant dawn).after
    [.add { halfHourly "t1" "a" with notifies := true, policy := .always },
      .add { halfHourly "t2" "b" with notifies := true, policy := .always }]

/-- From now on, the messenger answers in some way. -/
def answer (delivered : Bool) : Move := .pass (deskAt dawn) (.planned []) (.planned [.ok delivered])

/-- The workers come and go in the order in which they wait. -/
def inTurn : List Move :=
  [.begin 0, .note 0 (.ok (true, none)), answer true, .leave 0,
    .begin 0, .note 0 (.ok (false, none)), answer false, .leave 0]

/-- The worker that waits behind the other one begins first and leaves first, while the other one is at
work. -/
def overtaking : List Move :=
  [.begin 1, .begin 0, .note 0 (.ok (true, none)), .note 1 (.ok (false, none)), answer false, .leave 1,
    answer true, .leave 0]

/-- Both orders lead to the same tasks, one of which was notified about. -/
theorem after_agrees_inTurn_overtaking :
    ((pair.step (.tick dawn)).after inTurn).Agree ((pair.step (.tick dawn)).after overtaking) ∧
      ((pair.step (.tick dawn)).after inTurn).scheduler.tasks.map (fun t => (t.id, t.lastNotified)) =
        [("t1", some dawn), ("t2", none)] := by
  have hturn : (pair.step (.tick dawn)).Completes onlyFirst inTurn :=
    ⟨by decide +kernel, by decide +kernel, by rfl⟩
  have hovertaking : (pair.step (.tick dawn)).Completes onlyFirst overtaking :=
    ⟨by decide +kernel, by decide +kernel, by rfl⟩
  have hagree := after_agrees (w := pair) ⟨by decide +kernel, by decide +kernel, by rfl⟩
    (by decide +kernel) (by decide +kernel) hturn hovertaking
  exact ⟨hagree, by decide +kernel⟩

end WorkerPool

end Deskwork.Schedule
