/-
# The Listed Tasks

As long as the listed tasks have different identifiers (`Scheduler.Distinct`), an identifier stands
for one listed task. An operation of the scheduler changes the task that is listed under an
identifier in few ways: a run that is noted renews it (`get?_filed`), a notification that is delivered
is noted on it (`get?_announce`), and an update puts another task in its place (`get?_update`).
-/
import Deskwork.Proofs.Desk
import Deskwork.Proofs.Schedule.Overlap
import Mathlib.Data.List.Pairwise

namespace Deskwork.Schedule

open Deskwork.Time

/-- An entry of the log takes no time. -/
theorem wall_logged (d : Desk) (level : Level) (source message : String) :
    (d.logged level source message).machine.wall = d.machine.wall :=
  congrArg (·.machine.wall) (d.hushed_logged level source message)

namespace Task

/-- A task whose latest run began at a moment. -/
def ranAt (t : Task) (start : Moment) : Task := { t with lastRun := some start }

/-- A task about which a notification was delivered at a moment. -/
def notifiedAt (t : Task) (now : Moment) : Task := { t with lastNotified := some now }

/-- A task planned anew, unless its next run cannot be told. -/
def replanned (t : Task) (now : Moment) : Task := (t.planned now).toOption.getD t

/-- A task whose run began at a moment and is over. -/
def renewed (t : Task) (start now : Moment) : Task := (t.ranAt start).replanned now

variable {t t' : Task} {now start : Moment}

theorem id_planned (h : t.planned now = .ok t') : t'.id = t.id := by
  have hid : t'.charter.id = t.charter.id := congrArg Task.id (charter_planned h)
  exact hid

theorem replanned_of_ok (h : t.planned now = .ok t') : t.replanned now = t' := by
  unfold replanned
  rw [h]
  rfl

theorem replanned_of_error {f : Fault} (h : t.planned now = .error f) : t.replanned now = t := by
  unfold replanned
  rw [h]
  rfl

/-- A task that is planned anew differs in its next run. -/
theorem replanned_eq (t : Task) (now : Moment) :
    t.replanned now = { t with nextRun := (t.replanned now).nextRun } := by
  cases h : t.planned now with
  | error f => rw [replanned_of_error h]
  | ok t' =>
    rw [replanned_of_ok h]
    obtain ⟨next, -, rfl⟩ := planned_eq_ok_iff.mp h
    rfl

end Task

namespace Scheduler

variable {s s' s'' : Scheduler} {c d : Card} {t u : Task} {id : String}

/-! ## Cards -/

theorem task?_modify (s : Scheduler) (c : Card) (f : Task → Task) (d : Card) :
    (s.modify c f).task? d = if c = d then (s.task? d).map f else s.task? d := by
  unfold modify task?
  rw [List.getElem?_modify]
  by_cases h : c = d
  · simp [h]
  · simp [h]

/-- On a card, only the task that stands there is changed. -/
theorem modify_congr {f g : Task → Task} (h : ∀ t, s.task? c = some t → f t = g t) :
    s.modify c f = s.modify c g := by
  have hcards : s.cards.modify c f = s.cards.modify c g := by
    refine List.ext_getElem? fun i => ?_
    rw [List.getElem?_modify, List.getElem?_modify]
    by_cases hi : c = i
    · subst hi
      cases ht : s.cards[c]? with
      | none => rfl
      | some t => simp [h t ht]
    · simp [hi]
  unfold modify
  rw [hcards]

theorem modify_modify (s : Scheduler) (c : Card) (f g : Task → Task) :
    (s.modify c f).modify c g = s.modify c (g ∘ f) := by
  unfold modify
  dsimp only
  rw [List.modify_modify_eq]

/-- When nothing but notifications changes, the task on a card differs in its notification at most. -/
theorem exists_of_agendas (h : s'.agendas = s.agendas) (ht : s.task? c = some t) :
    ∃ t', s'.task? c = some t' ∧ t'.agenda = t.agenda := by
  have hagenda : s.agendas[c]? = some t.agenda := by
    unfold agendas
    rw [List.getElem?_map]
    exact congrArg (Option.map Task.agenda) ht
  rw [← h] at hagenda
  unfold agendas at hagenda
  rw [List.getElem?_map] at hagenda
  exact Option.map_eq_some_iff.mp hagenda

theorem idOf?_of_task? (h : s.task? c = some t) : s.idOf? c = some t.id := by
  unfold idOf?
  rw [h]
  rfl

/-- There is a task on a card with an identifier. -/
theorem exists_of_idOf? (h : s.idOf? c = some id) : ∃ t, s.task? c = some t ∧ t.id = id :=
  Option.map_eq_some_iff.mp h

theorem lt_of_idOf? (h : s.idOf? c = some id) : c < s.charters.length := by
  obtain ⟨t, ht, -⟩ := exists_of_idOf? h
  unfold charters
  rw [List.length_map]
  exact (List.getElem?_eq_some_iff.mp ht).1

/-- The task on a card keeps its identifier when tasks are put on new cards at most. -/
theorem idOf?_eq_some_of_charters (h : s.charters <+: s'.charters) (hc : s.idOf? c = some id) :
    s'.idOf? c = some id :=
  (idOf?_of_charters h (lt_of_idOf? hc)).trans hc

/-! ## Different identifiers -/

/-- The identifiers of the listed tasks. -/
def listedIds (s : Scheduler) : List String := s.listed.filterMap s.idOf?

/-- The listed tasks have different identifiers. -/
structure Distinct (s : Scheduler) : Prop where
  /-- There are tasks on the listed cards. -/
  placed : ∀ c ∈ s.listed, c < s.charters.length
  /-- They have different identifiers. -/
  ids : s.listedIds.Nodup

instance (s : Scheduler) : Decidable s.Distinct :=
  decidable_of_iff ((∀ c ∈ s.listed, c < s.charters.length) ∧ s.listedIds.Nodup)
    ⟨fun h => ⟨h.1, h.2⟩, fun h => ⟨h.1, h.2⟩⟩

theorem mem_listedIds : id ∈ s.listedIds ↔ ∃ c ∈ s.listed, s.idOf? c = some id :=
  List.mem_filterMap

/-- New cards leave the identifiers on listed cards. -/
theorem Distinct.filterMap_idOf? (h : s.Distinct) (hcharters : s.charters <+: s'.charters)
    {cs : List Card} (hcs : cs.Sublist s.listed) : cs.filterMap s'.idOf? = cs.filterMap s.idOf? :=
  List.filterMap_congr fun c hc => idOf?_of_charters hcharters (h.placed c (hcs.subset hc))

/-- The listed tasks keep different identifiers when no other cards are listed. -/
theorem Distinct.of_charters (h : s.Distinct) (hcharters : s.charters <+: s'.charters)
    (hlisted : s'.listed.Sublist s.listed) : s'.Distinct := by
  refine ⟨fun c hc => ?_, ?_⟩
  · exact Nat.lt_of_lt_of_le (h.placed c (hlisted.subset hc)) hcharters.length_le
  · unfold listedIds
    rw [h.filterMap_idOf? hcharters hlisted]
    exact h.ids.sublist (hlisted.filterMap _)

/-- Listed tasks with one identifier are on one card. -/
theorem Distinct.eq_of_idOf? (h : s.Distinct) (hc : c ∈ s.listed) (hd : d ∈ s.listed)
    (hcid : s.idOf? c = some id) (hdid : s.idOf? d = some id) : c = d := by
  by_contra hne
  have hpairs := List.pairwise_filterMap.mp h.ids
  have hsymm : Std.Symm fun c d => ∀ id, s.idOf? c = some id → ∀ id', s.idOf? d = some id' →
      id ≠ id' := ⟨fun c d hcd id hid id' hid' => (hcd id' hid' id hid).symm⟩
  exact List.Pairwise.forall hpairs hc hd hne id hcid id hdid rfl

/-- The card that is found by an identifier is the listed one with it. -/
theorem Distinct.find?_eq_some_iff (h : s.Distinct) :
    s.find? id = some c ↔ c ∈ s.listed ∧ s.idOf? c = some id := by
  have hmatch (c : Card) : ((s.task? c).any fun t => t.id == id) = true ↔ s.idOf? c = some id := by
    unfold idOf?
    cases s.task? c with
    | none => simp
    | some t => simp
  constructor
  · intro hfind
    unfold find? at hfind
    have hfound := List.find?_some hfind
    exact ⟨List.mem_of_find?_eq_some hfind, (hmatch c).mp hfound⟩
  · rintro ⟨hc, hid⟩
    unfold find?
    cases hfind : s.listed.find? fun c => (s.task? c).any fun t => t.id == id with
    | none => exact absurd ((hmatch c).mpr hid) (List.find?_eq_none.mp hfind c hc)
    | some d =>
      have hfound := List.find?_some hfind
      rw [h.eq_of_idOf? (List.mem_of_find?_eq_some hfind) hc ((hmatch d).mp hfound) hid]

theorem Distinct.get?_eq_some_iff (h : s.Distinct) :
    s.get? id = some t ↔ ∃ c ∈ s.listed, s.task? c = some t ∧ t.id = id := by
  unfold get?
  rw [Option.bind_eq_some_iff]
  constructor
  · rintro ⟨c, hc, ht⟩
    obtain ⟨hlisted, hid⟩ := h.find?_eq_some_iff.mp hc
    rw [idOf?_of_task? ht] at hid
    exact ⟨c, hlisted, ht, Option.some.inj hid⟩
  · rintro ⟨c, hlisted, ht, rfl⟩
    exact ⟨c, h.find?_eq_some_iff.mpr ⟨hlisted, idOf?_of_task? ht⟩, ht⟩

theorem Distinct.isSome_get?_iff (h : s.Distinct) : (s.get? id).isSome ↔ id ∈ s.listedIds := by
  rw [mem_listedIds, Option.isSome_iff_exists]
  constructor
  · rintro ⟨t, ht⟩
    obtain ⟨c, hc, htask, rfl⟩ := h.get?_eq_some_iff.mp ht
    exact ⟨c, hc, idOf?_of_task? htask⟩
  · rintro ⟨c, hc, hid⟩
    obtain ⟨t, ht, rfl⟩ := exists_of_idOf? hid
    exact ⟨t, h.get?_eq_some_iff.mpr ⟨c, hc, ht, rfl⟩⟩

/-- The listed cards are different. -/
theorem Distinct.nodup_listed (h : s.Distinct) : s.listed.Nodup := by
  refine (List.pairwise_filterMap.mp h.ids).imp_of_mem fun {c d} hc _ hpair heq => ?_
  have hlt := h.placed c hc
  have hcard : s.charters[c]? = some s.charters[c] := List.getElem?_eq_getElem hlt
  have hid : s.idOf? c = some s.charters[c].id := by rw [idOf?_eq, hcard, Option.map_some]
  exact hpair _ hid _ (heq ▸ hid) rfl

/-- An identifier that is not listed stays so when no other cards are listed. -/
theorem Distinct.get?_eq_none_of_charters (h : s.Distinct) (hcharters : s.charters <+: s'.charters)
    (hlisted : s'.listed.Sublist s.listed) (hnone : s.get? id = none) : s'.get? id = none := by
  have h' := h.of_charters hcharters hlisted
  rw [← Option.not_isSome_iff_eq_none, h.isSome_get?_iff] at hnone
  rw [← Option.not_isSome_iff_eq_none, h'.isSome_get?_iff]
  unfold listedIds at hnone ⊢
  rw [h.filterMap_idOf? hcharters hlisted]
  exact fun hid => hnone ((hlisted.filterMap _).subset hid)

/-- The same card is found by an identifier as long as the same cards are listed. -/
theorem Distinct.find?_of_charters (h : s.Distinct) (hcharters : s.charters <+: s'.charters)
    (hlisted : s'.listed = s.listed) (id : String) : s'.find? id = s.find? id := by
  have h' : s'.Distinct := h.of_charters hcharters (hlisted ▸ List.Sublist.refl _)
  refine Option.ext fun c => ?_
  rw [h'.find?_eq_some_iff, h.find?_eq_some_iff, hlisted]
  refine and_congr_right fun hc => ?_
  rw [idOf?_of_charters hcharters (h.placed c hc)]

/-- The task on the same card is shown under an identifier as long as the same cards are listed. -/
theorem Distinct.get?_of_charters (h : s.Distinct) (hcharters : s.charters <+: s'.charters)
    (hlisted : s'.listed = s.listed) (id : String) : s'.get? id = (s.find? id).bind s'.task? := by
  unfold get?
  rw [h.find?_of_charters hcharters hlisted]

/-- What keeps the cards and the list keeps the listed tasks. -/
theorem get?_congr (hcards : s'.cards = s.cards) (hlisted : s'.listed = s.listed) :
    s'.get? = s.get? := by
  have htask : s'.task? = s.task? := by
    funext c
    unfold task?
    rw [hcards]
  funext id
  unfold get? find?
  rw [htask, hlisted]

/-! ## Planning -/

/-- Planning the task on a card plans it anew, unless its next run cannot be told. -/
theorem plan_eq (ht : s.task? c = some t) (now : Moment) :
    s.plan c now = ((t.planned now).map fun _ => (), s.modify c fun t => t.replanned now) := by
  unfold plan
  rw [ht]
  dsimp only
  cases hplanned : t.planned now with
  | error f =>
    have hkept : (s.modify c fun t => t.replanned now) = s := by
      rw [modify_congr (g := id)]
      · unfold modify
        rw [List.modify_id]
      · intro u hu
        cases ht.symm.trans hu
        exact Task.replanned_of_error hplanned
    rw [hkept]
    rfl
  | ok t' =>
    have hsame : (s.modify c fun _ => t') = s.modify c fun t => t.replanned now := by
      refine modify_congr fun u hu => ?_
      cases ht.symm.trans hu
      exact (Task.replanned_of_ok hplanned).symm
    rw [← hsame]
    rfl

/-- The scheduler at another desk. -/
def onDesk (s : Scheduler) (desk : Desk) : Scheduler := { s with desk := desk }

/-- The scheduler after a record was kept and the task on a card renewed. -/
def filed (s : Scheduler) (live : Card) (r : Record) : Scheduler :=
  ({ s with history := s.history.append r } : Scheduler).modify live
    fun t => t.renewed r.start s.now

theorem task?_filed (s : Scheduler) (live : Card) (r : Record) (d : Card) :
    (s.filed live r).task? d =
      if live = d then (s.task? d).map fun t => t.renewed r.start s.now else s.task? d :=
  task?_modify ({ s with history := s.history.append r } : Scheduler) live
    (fun t => t.renewed r.start s.now) d

/-- At the end of a run its record is kept, and the task on the live card is renewed. -/
theorem settle_eq {r : Record} (ht : s.task? (s.liveCard r.taskId c) = some t) :
    s.settle c r = (((t.ranAt r.start).planned s.now).map fun _ => s.liveCard r.taskId c,
      s.filed (s.liveCard r.taskId c) r) := by
  unfold settle filed
  dsimp only
  have hlive : ({ s with history := s.history.append r } : Scheduler).liveCard r.taskId c =
      s.liveCard r.taskId c := rfl
  rw [hlive]
  generalize s.liveCard r.taskId c = live at ht ⊢
  have hnoted : (({ s with history := s.history.append r } : Scheduler).modify live
      fun t => { t with lastRun := some r.start }).task? live = some (t.ranAt r.start) := by
    rw [task?_modify, if_pos rfl]
    exact congrArg (Option.map _) ht
  rw [plan_eq hnoted]
  dsimp only
  rw [modify_modify]
  have hresult (x : Except Fault Task) :
      ((x.map fun _ => ()).map fun _ => live) = x.map fun _ => live := by cases x <;> rfl
  exact Prod.ext (hresult _) rfl

theorem revises_filed (s : Scheduler) (live : Card) (r : Record) : s.Revises (s.filed live r) := by
  refine (s.undisturbed_surroundings s.desk (s.history.append r) s.messenger).revises.trans ?_
  refine revises_modify fun t _ => ?_
  unfold Task.renewed
  rw [Task.replanned_eq]
  rfl

/-! ## Runs that end -/

/-- The live card has the task with the identifier. -/
theorem Distinct.idOf?_liveCard (h : s.Distinct) (hc : s.idOf? c = some id) :
    s.idOf? (s.liveCard id c) = some id := by
  unfold liveCard
  cases hfind : s.find? id with
  | none => exact hc
  | some d => exact (h.find?_eq_some_iff.mp hfind).2

/-- The end of a run renews the listed task with its identifier, and no other one. -/
theorem Distinct.get?_filed (h : s.Distinct) {r : Record} (hc : s.idOf? c = some r.taskId)
    (id : String) :
    (s.filed (s.liveCard r.taskId c) r).get? id =
      if id = r.taskId then (s.get? id).map fun t => t.renewed r.start s.now else s.get? id := by
  have hlive := h.idOf?_liveCard hc
  have hfiled := s.revises_filed (s.liveCard r.taskId c) r
  rw [h.get?_of_charters hfiled.edits.charters hfiled.listed]
  unfold get?
  cases hfind : s.find? id with
  | none => simp
  | some d =>
    obtain ⟨-, hd⟩ := h.find?_eq_some_iff.mp hfind
    refine (s.task?_filed _ r d).trans ?_
    by_cases hid : id = r.taskId
    · have hcard : s.liveCard r.taskId c = d := by
        unfold liveCard
        rw [← hid, hfind]
        rfl
      rw [if_pos hcard, if_pos hid]
      rfl
    · have hcard : s.liveCard r.taskId c ≠ d := by
        intro heq
        rw [heq, hd] at hlive
        exact hid (Option.some.inj hlive)
      rw [if_neg hcard, if_neg hid]
      rfl

/-- From one scheduler to the other only the surroundings differ: the desk, and who sends
notifications. -/
def Around (s s' : Scheduler) : Prop :=
  ∃ desk messenger, s' = { s with desk := desk, messenger := messenger }

theorem Around.refl (s : Scheduler) : s.Around s := ⟨s.desk, s.messenger, rfl⟩

theorem Around.trans (h : s.Around s') (h' : s'.Around s'') : s.Around s'' := by
  obtain ⟨desk, messenger, rfl⟩ := h
  obtain ⟨desk', messenger', rfl⟩ := h'
  exact ⟨desk', messenger', rfl⟩

/-- What only the surroundings differ in shows the same tasks. -/
theorem Around.get? (h : s.Around s') : s'.get? = s.get? := by
  obtain ⟨desk, messenger, rfl⟩ := h
  exact get?_congr rfl rfl

theorem around_openRun (s : Scheduler) (t : Task) : s.Around (s.openRun t).2 := by
  unfold openRun tellStarted
  dsimp only
  split <;> exact ⟨_, _, rfl⟩

theorem around_logEnd (s : Scheduler) (t : Task) (r : Record) (duration : String) :
    s.Around (s.logEnd t r duration) := by
  unfold logEnd
  dsimp only
  split <;> exact ⟨_, _, rfl⟩

theorem around_tellEnded (s : Scheduler) (t : Task) (r : Record) : s.Around (s.tellEnded t r) := by
  unfold tellEnded
  dsimp only
  split <;> exact ⟨_, _, rfl⟩

theorem around_send (s : Scheduler) (t : Task) (r : Record) : s.Around (s.send t r).2 := by
  unfold send
  split
  · unfold sendPlanned
    dsimp only
    split <;> exact ⟨_, _, rfl⟩
  · exact ⟨_, _, rfl⟩

theorem now_logEnd (s : Scheduler) (t : Task) (r : Record) (duration : String) :
    (s.logEnd t r duration).now = s.now := by
  unfold logEnd
  dsimp only
  split <;> exact wall_logged _ _ _ _

theorem now_tellEnded (s : Scheduler) (t : Task) (r : Record) :
    (s.tellEnded t r).now = s.now := by
  unfold tellEnded
  dsimp only
  split
  · rfl
  · rfl
  · exact wall_logged _ _ _ _

/-- A notification is noted on a card when it is delivered, and nothing else is. -/
theorem notify_cases (s : Scheduler) (c : Card) (t : Task) (r : Record) :
    s.Around (s.notify c t r).2 ∨
      ∃ s', s.Around s' ∧ (s.notify c t r).2 = s'.modify c fun t => t.notifiedAt s.now := by
  have hsent := s.around_send t r
  unfold notify
  split
  · exact .inl (.refl s)
  · exact .inl (.refl s)
  · unfold deliver
    dsimp only
    generalize s.send t r = sent at hsent ⊢
    obtain ⟨_ | _ | _, s'⟩ := sent
    · exact .inl (hsent.trans ⟨_, _, rfl⟩)
    · exact .inl hsent
    · exact .inr ⟨s', hsent, rfl⟩

/-- When the end of a run is announced, a notification may be noted on the live card. -/
theorem announce_cases (s : Scheduler) (live : Card) (t : Task) (r : Record) :
    s.Around (s.announce live t r).2 ∨
      ∃ s', s.Around s' ∧ (s.announce live t r).2 = s'.modify live fun t => t.notifiedAt s.now := by
  unfold announce
  split
  · exact .inl (.refl s)
  next duration hduration =>
    dsimp only
    generalize ((s.logEnd t r duration).task? live).getD t = noted
    have htold := (s.around_logEnd t r duration).trans (around_tellEnded _ noted r)
    have hnow := ((s.logEnd t r duration).now_tellEnded noted r).trans (s.now_logEnd t r duration)
    rcases ((s.logEnd t r duration).tellEnded noted r).notify_cases live noted r with
      hsent | ⟨s', hsent, hnoted⟩
    · exact .inl (htold.trans hsent)
    · rw [hnow] at hnoted
      exact .inr ⟨s', htold.trans hsent, hnoted⟩

/-- The announcement of the end of a run leaves the records. -/
theorem history_announce (s : Scheduler) (live : Card) (t : Task) (r : Record) :
    (s.announce live t r).2.history = s.history := by
  rcases s.announce_cases live t r with ⟨desk, messenger, h⟩ | ⟨_, ⟨desk, messenger, rfl⟩, h⟩
  · rw [h]
  · rw [h]
    rfl

/-- When the end of a run is announced, the listed task with the identifier of the live card may be
notified about, and no other one. -/
theorem Distinct.get?_announce (h : s.Distinct) {live : Card} {owner : String}
    (hlive : s.idOf? live = some owner) (t : Task) (r : Record) (id : String) :
    (s.announce live t r).2.get? id = s.get? id ∨
      id = owner ∧
        (s.announce live t r).2.get? id = (s.get? id).map fun t => t.notifiedAt s.now := by
  have hannounced := (s.undisturbed_announce live t r).revises
  rcases s.announce_cases live t r with hsame | ⟨s', hsame, hnoted⟩
  · exact .inl (congrFun hsame.get? id)
  · obtain ⟨desk, messenger, rfl⟩ := hsame
    rw [h.get?_of_charters hannounced.edits.charters hannounced.listed]
    unfold get?
    cases hfind : s.find? id with
    | none => exact .inl rfl
    | some d =>
      obtain ⟨-, hd⟩ := h.find?_eq_some_iff.mp hfind
      have htask := s.task?_modify live (fun t => t.notifiedAt s.now) d
      rw [hnoted]
      by_cases hcard : live = d
      · subst hcard
        rw [hlive] at hd
        rw [if_pos rfl] at htask
        exact .inr ⟨(Option.some.inj hd).symm, htask⟩
      · rw [if_neg hcard] at htask
        exact .inl htask

/-! ## The list -/

theorem length_charters (s : Scheduler) : s.charters.length = s.cards.length := List.length_map _

theorem Distinct.lt_length (h : s.Distinct) (hc : c ∈ s.listed) : c < s.cards.length :=
  s.length_charters ▸ h.placed c hc

/-- The tasks on the cards when there is a new card. -/
theorem task?_enter (s : Scheduler) (t : Task) (c : Card) :
    (s.enter t).2.task? c = if c = s.cards.length then some t else s.task? c := by
  change (s.cards ++ [t])[c]? = _
  unfold task?
  by_cases hc : c = s.cards.length
  · rw [if_pos hc, hc]
    simp
  · rw [if_neg hc]
    rcases Nat.lt_or_gt_of_ne hc with hlt | hgt
    · rw [List.getElem?_append_left hlt]
    · have hbehind : (s.cards ++ [t]).length ≤ c := by
        rw [List.length_append, List.length_singleton]
        exact hgt
      rw [List.getElem?_eq_none hbehind, List.getElem?_eq_none (Nat.le_of_lt hgt)]

theorem task?_enter_of_lt (t : Task) (hc : c < s.cards.length) :
    (s.enter t).2.task? c = s.task? c :=
  (s.task?_enter t c).trans (if_neg (Nat.ne_of_lt hc))

/-- The scheduler with a new task listed behind the others. -/
def enlist (s : Scheduler) (t : Task) : Scheduler :=
  { (s.enter t).2 with listed := s.listed ++ [s.cards.length] }

/-- A task that is taken on is planned and listed, unless its next run cannot be told. -/
theorem add_cases (s : Scheduler) (t : Task) :
    (s.add t).2 = s ∨
      ∃ v message, t.planned s.now = .ok v ∧ (s.add t).2 = (s.enlist v).info message := by
  unfold add
  cases t.planned s.now with
  | error f => exact .inl rfl
  | ok v => exact .inr ⟨v, _, rfl, rfl⟩

/-- A new task stands behind the listed ones. -/
theorem Distinct.mem_enlist (h : s.Distinct) (v : Task) :
    (∃ c ∈ (s.enlist v).listed, (s.enlist v).task? c = some u ∧ u.id = id) ↔
      (∃ c ∈ s.listed, s.task? c = some u ∧ u.id = id) ∨ u = v ∧ u.id = id := by
  have htask (c : Card) : (s.enlist v).task? c = _ := s.task?_enter v c
  change (∃ c ∈ s.listed ++ [s.cards.length], _) ↔ _
  constructor
  · rintro ⟨c, hc, hu, hid⟩
    rw [htask] at hu
    rcases List.mem_append.mp hc with hold | hnew
    · rw [if_neg (Nat.ne_of_lt (h.lt_length hold))] at hu
      exact .inl ⟨c, hold, hu, hid⟩
    · rw [if_pos (List.mem_singleton.mp hnew)] at hu
      exact .inr ⟨(Option.some.inj hu).symm, hid⟩
  · rintro (⟨c, hc, hu, hid⟩ | ⟨rfl, hid⟩)
    · refine ⟨c, List.mem_append_left _ hc, ?_, hid⟩
      rw [htask, if_neg (Nat.ne_of_lt (h.lt_length hc))]
      exact hu
    · refine ⟨s.cards.length, List.mem_append_right _ (List.mem_singleton_self _), ?_, hid⟩
      rw [htask, if_pos rfl]

theorem Distinct.enlist (h : s.Distinct) {v : Task} (hid : v.id ∉ s.listedIds) :
    (s.enlist v).Distinct := by
  have hold : s.listed.filterMap (s.enlist v).idOf? = s.listedIds := by
    refine List.filterMap_congr fun c hc => ?_
    unfold idOf?
    exact congrArg _ (task?_enter_of_lt v (h.lt_length hc))
  have hnew : (s.enlist v).idOf? s.cards.length = some v.id :=
    idOf?_of_task? ((s.task?_enter v _).trans (if_pos rfl))
  refine ⟨fun c hc => ?_, ?_⟩
  · rw [length_charters]
    change c < (s.cards ++ [v]).length
    rw [List.length_append, List.length_singleton]
    rcases List.mem_append.mp hc with hc | hc
    · exact Nat.lt_succ_of_lt (h.lt_length hc)
    · exact List.mem_singleton.mp hc ▸ Nat.lt_succ_self _
  · change ((s.listed ++ [s.cards.length]).filterMap (s.enlist v).idOf?).Nodup
    rw [List.filterMap_append, hold, List.nodup_append]
    simp only [List.filterMap_cons, List.filterMap_nil, hnew]
    refine ⟨h.ids, List.nodup_singleton _, fun a ha b hb hab => hid ?_⟩
    rwa [← List.mem_singleton.mp hb, ← hab]

/-- A task with a new identifier that is taken on leaves the listed tasks with different ones. -/
theorem Distinct.add (h : s.Distinct) (hid : t.id ∉ s.listedIds) : (s.add t).2.Distinct := by
  obtain hsame | ⟨v, message, hplanned, hadded⟩ := s.add_cases t
  · rw [hsame]
    exact h
  · have henlisted := h.enlist (v := v) (Task.id_planned hplanned ▸ hid)
    rw [hadded]
    exact ⟨henlisted.placed, henlisted.ids⟩

/-- A task that is taken on does not disturb those with other identifiers. -/
theorem Distinct.get?_add (h : s.Distinct) (hid : t.id ∉ s.listedIds) (hne : id ≠ t.id) :
    (s.add t).2.get? id = s.get? id := by
  obtain hsame | ⟨v, message, hplanned, hadded⟩ := s.add_cases t
  · rw [hsame]
  · have hv := Task.id_planned hplanned
    have henlisted := h.enlist (v := v) (hv ▸ hid)
    rw [hadded]
    change (s.enlist v).get? id = s.get? id
    refine Option.ext fun u => ?_
    rw [henlisted.get?_eq_some_iff, h.get?_eq_some_iff, h.mem_enlist v]
    refine or_iff_left ?_
    rintro ⟨rfl, hu⟩
    exact hne (hu.symm.trans hv)

/-- Dropping a task leaves the tasks on the cards, and the other listed cards. -/
theorem remove_spec (s : Scheduler) (id : String) :
    (s.remove id).2.cards = s.cards ∧ (s.remove id).2.listed.Sublist s.listed := by
  unfold remove
  split
  · exact ⟨rfl, List.Sublist.refl _⟩
  · exact ⟨rfl, List.erase_sublist⟩

/-- A task that is dropped is not listed. -/
theorem Distinct.get?_remove_self (h : s.Distinct) (id : String) :
    (s.remove id).2.get? id = none := by
  unfold remove
  cases hfind : s.find? id with
  | none =>
    dsimp only
    unfold get?
    rw [hfind, Option.bind_none]
  | some d =>
    have hremoved : s.Edits (s.remove id).2 := s.edits_remove id
    have hlisted := (s.remove_spec id).2
    unfold remove at hremoved hlisted
    rw [hfind] at hremoved hlisted
    have h' := h.of_charters hremoved.charters hlisted
    refine Option.eq_none_iff_forall_ne_some.mpr fun t ht => ?_
    obtain ⟨c, hc, htask, hid⟩ := h'.get?_eq_some_iff.mp ht
    obtain ⟨hd, hdid⟩ := h.find?_eq_some_iff.mp hfind
    -- The card would be the one that was taken off the list.
    have hcid : s.idOf? c = some id := hid ▸ idOf?_of_task? htask
    obtain rfl := h.eq_of_idOf? (List.mem_of_mem_erase hc) hd hcid hdid
    exact (h.nodup_listed.not_mem_erase) hc

/-- Dropping a task does not disturb those with other identifiers. -/
theorem Distinct.get?_remove (h : s.Distinct) {other : String} (hne : id ≠ other) :
    (s.remove other).2.get? id = s.get? id := by
  have h' : (s.remove other).2.Distinct :=
    h.of_charters (s.edits_remove other).charters (s.remove_spec other).2
  refine Option.ext fun u => ?_
  rw [h'.get?_eq_some_iff, h.get?_eq_some_iff]
  unfold remove
  cases hfind : s.find? other with
  | none => rfl
  | some d =>
    obtain ⟨-, hd⟩ := h.find?_eq_some_iff.mp hfind
    change (∃ c ∈ s.listed.erase d, s.task? c = some u ∧ u.id = id) ↔ _
    constructor
    · rintro ⟨c, hc, hu⟩
      exact ⟨c, List.mem_of_mem_erase hc, hu⟩
    · rintro ⟨c, hc, hu, rfl⟩
      refine ⟨c, (List.mem_erase_of_ne ?_).mpr hc, hu, rfl⟩
      rintro rfl
      rw [idOf?_of_task? hu] at hd
      exact hne (Option.some.inj hd)

/-- The scheduler with a task on a new card, which is listed in place of an old card. -/
def swap (s : Scheduler) (old : Card) (t : Task) : Scheduler :=
  { (s.enter t).2 with listed := s.listed.map fun k => if k = old then s.cards.length else k }

/-- An update plans the task that takes over, which then stands in the place of the listed one; it
changes nothing when there is none, or when the next run cannot be told. -/
theorem update_cases (s : Scheduler) (t : Task) :
    (s.update t).2 = s ∧ (∀ old u, s.find? t.id = some old → s.task? old = some u →
        (takeOver t u).replanned s.now = takeOver t u ∧ (s.update t).1 ≠ .ok true) ∨
      ∃ old u v message, s.find? t.id = some old ∧ s.task? old = some u ∧
        (takeOver t u).planned s.now = .ok v ∧ (s.update t) = (.ok true, (s.swap old v).info message) := by
  unfold update
  cases hfind : s.find? t.id with
  | none => exact .inl ⟨rfl, fun old u h => nomatch h⟩
  | some old =>
    have hfound := List.find?_some hfind
    cases hu : s.task? old with
    | none =>
      rw [hu] at hfound
      cases hfound
    | some u =>
      simp only [hu, Option.map_some, Option.getD_some]
      cases hplanned : (takeOver t u).planned s.now with
      | error f =>
        refine .inl ⟨rfl, fun old' u' hold hu' => ?_⟩
        cases hold
        cases hu.symm.trans hu'
        exact ⟨Task.replanned_of_error hplanned, fun h => nomatch h⟩
      | ok v => exact .inr ⟨old, u, v, _, rfl, hu, hplanned, rfl⟩

/-- What is listed after a card was replaced: the task on the new card, and the others. -/
theorem Distinct.mem_swap (h : s.Distinct) {old : Card} (hold : old ∈ s.listed) (v : Task) :
    (∃ c ∈ (s.swap old v).listed, (s.swap old v).task? c = some t ∧ t.id = id) ↔
      (∃ c ∈ s.listed, c ≠ old ∧ s.task? c = some t ∧ t.id = id) ∨ t = v ∧ t.id = id := by
  have htask (c : Card) : (s.swap old v).task? c = _ := s.task?_enter v c
  constructor
  · rintro ⟨c, hc, ht, hid⟩
    obtain ⟨k, hk, rfl⟩ := List.mem_map.mp hc
    rw [htask] at ht
    by_cases hcard : k = old
    · rw [if_pos hcard, if_pos rfl] at ht
      exact .inr ⟨(Option.some.inj ht).symm, hid⟩
    · rw [if_neg hcard, if_neg (Nat.ne_of_lt (h.lt_length hk))] at ht
      exact .inl ⟨k, hk, hcard, ht, hid⟩
  · rintro (⟨c, hc, hcard, ht, hid⟩ | ⟨rfl, hid⟩)
    · refine ⟨c, List.mem_map.mpr ⟨c, hc, if_neg hcard⟩, ?_, hid⟩
      rw [htask, if_neg (Nat.ne_of_lt (h.lt_length hc))]
      exact ht
    · refine ⟨s.cards.length, List.mem_map.mpr ⟨old, hold, if_pos rfl⟩, ?_, hid⟩
      rw [htask, if_pos rfl]

/-- A task with the identifier of the old one leaves the identifiers on the list as they are. -/
theorem Distinct.listedIds_swap (h : s.Distinct) {old : Card} {v : Task}
    (hid : s.idOf? old = some v.id) : (s.swap old v).listedIds = s.listedIds := by
  unfold listedIds
  change (s.listed.map _).filterMap (s.swap old v).idOf? = _
  rw [List.filterMap_map]
  refine List.filterMap_congr fun c hc => ?_
  change (s.swap old v).idOf? (if c = old then s.cards.length else c) = _
  by_cases hcard : c = old
  · rw [if_pos hcard, hcard, hid]
    exact idOf?_of_task? ((s.task?_enter v _).trans (if_pos rfl))
  · rw [if_neg hcard]
    exact congrArg _ (task?_enter_of_lt v (h.lt_length hc))

theorem Distinct.swap (h : s.Distinct) {old : Card} {v : Task} (hid : s.idOf? old = some v.id) :
    (s.swap old v).Distinct := by
  refine ⟨fun c hc => ?_, h.listedIds_swap hid ▸ h.ids⟩
  obtain ⟨k, hk, rfl⟩ := List.mem_map.mp hc
  have hlt := h.lt_length hk
  rw [length_charters]
  change (if k = old then s.cards.length else k) < (s.cards ++ [v]).length
  rw [List.length_append, List.length_singleton]
  by_cases hcard : k = old
  · rw [if_pos hcard]
    exact Nat.lt_succ_self _
  · rw [if_neg hcard]
    exact Nat.lt_succ_of_lt hlt

/-- An update leaves the identifiers on the list as they are. -/
theorem Distinct.update (h : s.Distinct) (t : Task) :
    (s.update t).2.Distinct ∧ (s.update t).2.listedIds = s.listedIds := by
  obtain ⟨hsame, -⟩ | ⟨old, u, v, message, hfind, -, hplanned, hupdated⟩ := s.update_cases t
  · rw [hsame]
    exact ⟨h, rfl⟩
  · have hv : v.id = t.id := (Task.id_planned hplanned : v.id = (takeOver t u).id)
    have hid := hv ▸ (h.find?_eq_some_iff.mp hfind).2
    have hswapped := h.swap hid
    rw [hupdated]
    exact ⟨⟨hswapped.placed, hswapped.ids⟩, h.listedIds_swap hid⟩

/-- An update puts the task that takes over in the place of the listed one with its identifier. -/
theorem Distinct.get?_update (h : s.Distinct) (hu : s.get? t.id = some u) :
    (s.update t).1 = .ok true ∧ (takeOver t u).planned s.now = .ok ((takeOver t u).replanned s.now) ∧
        (s.update t).2.get? t.id = some ((takeOver t u).replanned s.now) ∨
      (s.update t).1 ≠ .ok true ∧ (s.update t).2.get? t.id = some u := by
  obtain ⟨hsame, hfails⟩ | ⟨old, u', v, message, hfind, hu', hplanned, hupdated⟩ := s.update_cases t
  · right
    unfold get? at hu
    obtain ⟨old, hold, hold'⟩ := Option.bind_eq_some_iff.mp hu
    rw [hsame]
    exact ⟨(hfails old u hold hold').2, hu⟩
  · left
    obtain ⟨hlisted, hid⟩ := h.find?_eq_some_iff.mp hfind
    have hv : v.id = t.id := (Task.id_planned hplanned : v.id = (takeOver t u').id)
    obtain rfl : u' = u := by
      unfold get? at hu
      rw [hfind] at hu
      exact Option.some.inj (hu'.symm.trans hu)
    rw [Task.replanned_of_ok hplanned, hupdated]
    refine ⟨rfl, hplanned, ?_⟩
    change (s.swap old v).get? t.id = some v
    rw [(h.swap (hv ▸ hid)).get?_eq_some_iff, h.mem_swap hlisted]
    exact .inr ⟨rfl, hv⟩

/-- An update does not disturb the tasks with other identifiers. -/
theorem Distinct.get?_update_of_ne (h : s.Distinct) (hne : id ≠ t.id) :
    (s.update t).2.get? id = s.get? id := by
  obtain ⟨hsame, -⟩ | ⟨old, u, v, message, hfind, hu, hplanned, hupdated⟩ := s.update_cases t
  · rw [hsame]
  · obtain ⟨hlisted, hid⟩ := h.find?_eq_some_iff.mp hfind
    have hv : v.id = t.id := (Task.id_planned hplanned : v.id = (takeOver t u).id)
    rw [hupdated]
    change (s.swap old v).get? id = s.get? id
    refine Option.ext fun x => ?_
    rw [(h.swap (hv ▸ hid)).get?_eq_some_iff, h.get?_eq_some_iff, h.mem_swap hlisted]
    constructor
    · rintro (⟨c, hc, -, hx⟩ | ⟨rfl, hx⟩)
      · exact ⟨c, hc, hx⟩
      · exact absurd (hx.symm.trans hv) hne
    · rintro ⟨c, hc, hx, rfl⟩
      refine .inl ⟨c, hc, ?_, hx, rfl⟩
      rintro rfl
      rw [idOf?_of_task? hx] at hid
      exact hne (Option.some.inj hid)

end Scheduler

end Deskwork.Schedule
