/-
# Waiting for a Window

A window is looked for every half second, and before every look it is asked whether the deadline has
passed. So the last look is half a second before the deadline, and there is none at all when no time is
given. On a clock that goes on by exactly half a second with every pause (`Clockwork`) the wait ends after
two looks for each second that is given, and it succeeds when a window with such a title is listed by the
time of the last look (`waits_for_window`).
-/
import Deskwork.Proofs.Number.Order
import Deskwork.Proofs.Session.Pace

namespace Deskwork

open StepM Number

/-! ## Windows -/

/-- A window whose title holds a text is listed by a moment. -/
def Machine.shows (m : Machine) (title : String) (q : ℚ) : Prop :=
  ∃ w ∈ m.windows, w.titled title = true ∧ AtMost w.since.toFloat q

/-- What is listed by a moment is listed by every later one. -/
theorem Machine.shows.mono {m : Machine} {title : String} {p q : ℚ} (h : m.shows title p)
    (hpq : p ≤ q) : m.shows title q := by
  obtain ⟨w, mem, titled, listed⟩ := h
  exact ⟨w, mem, titled, listed.mono hpq⟩

/-- A window is found when one is listed by the reading of the clock. -/
theorem Machine.windowTitled_eq_none_iff {m : Machine} {q : ℚ} (h : Stands m.running q)
    (title : String) : m.windowTitled title = none ↔ ¬ m.shows title q := by
  unfold windowTitled shows Window.listedAt
  rw [List.find?_eq_none]
  simp only [Bool.and_eq_true, decide_eq_true_eq, le_iff_atMost h, not_exists, not_and]
  exact ⟨fun none w mem titled listed => none w mem listed titled,
    fun none w mem listed titled => none w mem titled listed⟩

/-- Of the machine, a pause changes the clocks and the journal only. -/
theorem Context.machine_sleep (c : Context) (d : Desk) (x : Amount) :
    ∃ wall running journal, (c.sleep d x).2.machine
      = { d.machine with wall := wall, running := running, journal := journal } := by
  unfold sleep
  split
  · exact ⟨_, _, _, rfl⟩
  split
  · exact ⟨_, _, _, rfl⟩
  dsimp only [Machine.sleep]
  split
  · exact ⟨_, _, _, rfl⟩
  · split
    · next m' moved =>
      obtain ⟨wall, running, rfl⟩ := advance_eq moved
      exact ⟨_, _, _, rfl⟩
    · exact ⟨_, _, _, rfl⟩

namespace Waiting

variable {title : String} {deadline : Float} {s t : Session}

/-! ## Looking again and again -/

/-- A window is looked for until it is found or the deadline has passed, however often that is: how many
looks there are, and what comes of it. -/
inductive PollLoop (title : String) (deadline : Float) :
    Session → Nat → Except Fault Unit × Session → Prop
  /-- The deadline has passed. -/
  | timedOut {s : Session} (time : ¬ s.desk.machine.running < deadline) :
    PollLoop title deadline s 0 (.error (.failed (.windowTimeout title)), s)
  /-- Windows cannot be handled. -/
  | unsupported {s : Session} (time : s.desk.machine.running < deadline)
    (windows : s.desk.machine.hasWindows = false) :
    PollLoop title deadline s 1 (.error (.failed .noWindows), s)
  /-- A window is found. -/
  | found {s : Session} {w : Window} (time : s.desk.machine.running < deadline)
    (windows : s.desk.machine.hasWindows = true) (seen : s.desk.machine.windowTitled title = some w) :
    PollLoop title deadline s 1 (.ok (), s.told ("Window found: " ++ title))
  /-- No window is found, and the pause fails. -/
  | interrupted {s t : Session} {f : Fault} (time : s.desk.machine.running < deadline)
    (windows : s.desk.machine.hasWindows = true) (unseen : s.desk.machine.windowTitled title = none)
    (slept : runIn s (StepM.sleep 0.5) = (.error f, t)) :
    PollLoop title deadline s 1 (.error f, t)
  /-- No window is found, and after a pause it is looked for again. -/
  | again {s t : Session} {n : Nat} {o : Except Fault Unit × Session}
    (time : s.desk.machine.running < deadline) (windows : s.desk.machine.hasWindows = true)
    (unseen : s.desk.machine.windowTitled title = none)
    (slept : runIn s (StepM.sleep 0.5) = (.ok (), t)) (rest : PollLoop title deadline t n o) :
    PollLoop title deadline s (n + 1) o

theorem runIn_findWindow (s : Session) (title : String) :
    runIn s (findWindow title) =
      if s.desk.machine.hasWindows then (.ok (s.desk.machine.windowTitled title), s)
      else (.error (.failed .noWindows), s) := by
  unfold findWindow
  rw [runIn_get]
  dsimp only
  split <;> rfl

theorem runIn_watch_of_timedOut (h : ¬ s.desk.machine.running < deadline) (turns : Nat) :
    runIn s (watch title deadline turns) = (.error (.failed (.windowTimeout title)), s) := by
  cases turns with
  | zero => rfl
  | succ turns =>
    unfold watch
    rw [runIn_get, if_neg h]
    rfl

theorem runIn_watch_succ (h : s.desk.machine.running < deadline) (turns : Nat) :
    runIn s (watch title deadline (turns + 1)) =
      match runIn s (findWindow title) with
      | (.ok (some _), t) => runIn t (StepM.info ("Window found: " ++ title))
      | (.ok none, t) => runIn t (StepM.sleep 0.5 >>= fun _ => watch title deadline turns)
      | (.error f, t) => (.error f, t) := by
  conv_lhs => unfold watch
  rw [runIn_get, if_pos h, runIn_bind]
  rcases runIn s (findWindow title) with ⟨f | w, t⟩
  · rfl
  · cases w <;> rfl

/-- A bound on the turns does not matter when there are at most as many looks. -/
theorem PollLoop.runIn_watch {n : Nat} {o : Except Fault Unit × Session}
    (h : PollLoop title deadline s n o) {turns : Nat} (bound : n ≤ turns) :
    runIn s (watch title deadline turns) = o := by
  induction h generalizing turns with
  | timedOut time => exact runIn_watch_of_timedOut time turns
  | unsupported time windows =>
    obtain ⟨turns, rfl⟩ := Nat.exists_eq_add_of_le' bound
    rw [runIn_watch_succ time, runIn_findWindow, windows]
    rfl
  | found time windows seen =>
    obtain ⟨turns, rfl⟩ := Nat.exists_eq_add_of_le' bound
    rw [runIn_watch_succ time, runIn_findWindow, windows, seen]
    rfl
  | interrupted time windows unseen slept =>
    obtain ⟨turns, rfl⟩ := Nat.exists_eq_add_of_le' bound
    rw [runIn_watch_succ time, runIn_findWindow, windows, unseen]
    show runIn _ _ = _
    rw [runIn_bind, slept]
  | again time windows unseen slept _ ih =>
    obtain ⟨turns, rfl⟩ := Nat.exists_eq_add_of_le' bound
    rw [← Nat.add_assoc, runIn_watch_succ time, runIn_findWindow, windows, unseen]
    show runIn _ _ = _
    rw [runIn_bind, slept]
    exact ih (Nat.le_add_left _ _)

/-! ## An exact clock -/

/-- The session after some pauses of half a second. -/
def dozed (s : Session) : Nat → Session
  | 0 => s
  | n + 1 => (runIn (dozed s n) (StepM.sleep 0.5)).2

theorem dozed_succ (s : Session) (n : Nat) :
    dozed s (n + 1) = (runIn (dozed s n) (StepM.sleep 0.5)).2 := rfl

/-- Pauses lead sessions of one pace to sessions of one pace. -/
theorem pace_dozed (h : s.pace = t.pace) (n : Nat) : (dozed s n).pace = (dozed t n).pace := by
  induction n with
  | zero => exact h
  | succ n ih =>
    rw [dozed_succ, dozed_succ]
    exact (paced_sleep 0.5 (dozed s n) (dozed t n) ih).2

/-- The same windows are there after some pauses. -/
theorem windows_dozed (s : Session) (n : Nat) :
    (dozed s n).desk.machine.hasWindows = s.desk.machine.hasWindows ∧
      (dozed s n).desk.machine.windows = s.desk.machine.windows := by
  induction n with
  | zero => exact ⟨rfl, rfl⟩
  | succ n ih =>
    obtain ⟨wall, running, journal, machine⟩ :=
      (dozed s n).context.machine_sleep (dozed s n).desk (.real 0.5)
    rw [dozed_succ]
    unfold StepM.sleep
    rw [runIn_pauseWith]
    dsimp only
    rw [machine]
    exact ih

theorem shows_dozed (s : Session) (n : Nat) (title : String) (q : ℚ) :
    (dozed s n).desk.machine.shows title q ↔ s.desk.machine.shows title q := by
  unfold Machine.shows
  rw [(windows_dozed s n).2]

/-- The running clock stands for `q` seconds, some whole seconds later is the deadline, and every pause of
half a second that is made while no window is found moves the clock by exactly that much. -/
structure Clockwork (title : String) (deadline : Float) (seconds : Nat) (q : ℚ) (s : Session) :
    Prop where
  /-- What the clock shows at first. -/
  start : Stands s.desk.machine.running q
  /-- What it will show at the deadline. -/
  due : Stands deadline (q + seconds)
  /-- Each pause takes as long as it should. -/
  ticks : ∀ n < 2 * seconds,
    (∀ k ≤ n, (dozed s k).desk.machine.windowTitled title = none) →
      (runIn (dozed s n) (StepM.sleep 0.5)).1 = .ok () ∧
        ∀ p, Stands (dozed s n).desk.machine.running p →
          Stands (dozed s (n + 1)).desk.machine.running (p + 1 / 2)

variable {seconds : Nat} {q : ℚ}

/-- While no window is found, the clock goes on by half seconds. -/
theorem Clockwork.reading (clock : Clockwork title deadline seconds q s) {n : Nat}
    (bound : n ≤ 2 * seconds)
    (unseen : ∀ k < n, (dozed s k).desk.machine.windowTitled title = none) :
    Stands (dozed s n).desk.machine.running (q + n / 2) := by
  induction n with
  | zero => simpa [dozed] using clock.start
  | succ n ih =>
    have before := ih (by omega) fun k less => unseen k (by omega)
    have next := (clock.ticks n (by omega) fun k atMost => unseen k (by omega)).2 _ before
    have sum : q + (n + 1 : ℕ) / 2 = q + n / 2 + 1 / 2 := by push_cast; ring
    rw [sum]
    exact next

/-- A clock of the same pace is as exact. -/
theorem Clockwork.paced (clock : Clockwork title deadline seconds q s) (h : s.pace = t.pace) :
    Clockwork title deadline seconds q t := by
  have machine (n : Nat) : (dozed s n).desk.machine.unlogged = (dozed t n).desk.machine.unlogged :=
    congrArg Prod.snd (pace_dozed h n)
  have running (n : Nat) : (dozed s n).desk.machine.running = (dozed t n).desk.machine.running :=
    congrArg (·.running) (machine n)
  have seen (n : Nat) : (dozed s n).desk.machine.windowTitled title
      = (dozed t n).desk.machine.windowTitled title :=
    congrArg (·.windowTitled title) (machine n)
  refine ⟨?_, clock.due, fun n less unseen => ?_⟩
  · have start := clock.start
    rwa [show s.desk.machine.running = t.desk.machine.running from running 0] at start
  · have found := (paced_sleep 0.5 _ _ (pace_dozed h n)).1
    dsimp only at found
    rw [← found, ← running n, ← running (n + 1)]
    refine clock.ticks n less fun k atMost => ?_
    rw [seen k]
    exact unseen k atMost

/-- What comes of a wait on an exact clock: success when a window is listed by the time of the last look,
and otherwise the deadline passes. -/
def Outcome (title : String) (seconds : Nat) (q : ℚ) (s : Session) (r : Except Fault Unit) : Prop :=
  r = .ok () ∧ 1 ≤ seconds ∧ s.desk.machine.shows title (q + seconds - 1 / 2) ∨
    r = .error (.failed (.windowTimeout title)) ∧
      ¬ (1 ≤ seconds ∧ s.desk.machine.shows title (q + seconds - 1 / 2))

/-- After some looks in vain the wait goes on until it comes to an end. -/
theorem Clockwork.polls (clock : Clockwork title deadline seconds q s)
    (windows : s.desk.machine.hasWindows = true) {n : Nat} (bound : n ≤ 2 * seconds)
    (unseen : ∀ k < n, (dozed s k).desk.machine.windowTitled title = none) :
    ∃ more o, n + more ≤ 2 * seconds ∧ PollLoop title deadline (dozed s n) more o ∧
      Outcome title seconds q s o.1 := by
  induction left : 2 * seconds - n generalizing n with
  | zero =>
    obtain rfl : n = 2 * seconds := by omega
    have reading := clock.reading le_rfl unseen
    refine ⟨0, _, le_rfl, .timedOut ?_, .inr ⟨rfl, ?_⟩⟩
    · rw [lt_iff_of_stands reading clock.due]
      push_cast
      linarith
    · rintro ⟨some, shown⟩
      have last := clock.reading (n := 2 * seconds - 1) (by omega) fun k less => unseen k (by omega)
      have none := unseen (2 * seconds - 1) (by omega)
      rw [Machine.windowTitled_eq_none_iff last, shows_dozed] at none
      refine none (shown.mono ?_)
      rw [Nat.cast_sub (by omega)]
      push_cast
      linarith
  | succ left ih =>
    have less : n < 2 * seconds := by omega
    have moment : (n : ℚ) + 1 ≤ 2 * seconds := by exact_mod_cast less
    have reading := clock.reading bound unseen
    have time : (dozed s n).desk.machine.running < deadline := by
      rw [lt_iff_of_stands reading clock.due]
      linarith
    have windows' := (windows_dozed s n).1.trans windows
    cases seen : (dozed s n).desk.machine.windowTitled title with
    | some w =>
      refine ⟨1, _, less, .found time windows' seen, .inl ⟨rfl, by omega, ?_⟩⟩
      by_contra hidden
      have none := (Machine.windowTitled_eq_none_iff reading title).mpr fun shown =>
        hidden (((shows_dozed s n title _).mp shown).mono (by linarith))
      rw [seen] at none
      cases none
    | none =>
      have unseen' : ∀ k < n + 1, (dozed s k).desk.machine.windowTitled title = none := by
        intro k before
        rcases Nat.lt_succ_iff_lt_or_eq.mp before with before | rfl
        · exact unseen k before
        · exact seen
      have slept := (clock.ticks n less fun k atMost => unseen' k (by omega)).1
      obtain ⟨more, o, total, polls, outcome⟩ := ih less unseen' (by omega)
      refine ⟨more + 1, o, by omega, ?_, outcome⟩
      exact .again time windows' seen (Prod.ext slept (dozed_succ s n).symm) polls

/-! ## Steps -/

variable (w : Waiting)

/-- The reading of the clock at which a wait gives up. -/
def dueAt (s : Session) : Float := s.desk.machine.running + ofInt w.timeout

/-- What is logged about a wait for a window. -/
def announcement : String := "Waiting for window \"" ++ w.title ++ "\""

/-- A step that waits for a window looks for it until it is found or the deadline has passed. -/
theorem runIn_run_of_pollLoop (kind : w.mode = .windowExists)
    (near : ofInt? w.timeout = .ok (ofInt w.timeout)) {n : Nat} {o : Except Fault Unit × Session}
    (polls : PollLoop w.title (w.dueAt s) (s.told w.announcement) n o)
    (bound : n ≤ turnsFor w.timeout) : runIn s w.run = o := by
  have running : (s.told w.announcement).desk.machine.running = s.desk.machine.running := by
    rw [s.machine_told]
  unfold run
  rw [kind, near]
  dsimp only
  rw [runIn_told]
  show runIn (s.told w.announcement) (watch w.title
    ((s.told w.announcement).desk.machine.running + ofInt w.timeout) (turnsFor w.timeout)) = o
  rw [running]
  exact polls.runIn_watch bound

/-- On an exact clock, a step that waits for a window comes to an end after two looks for each second that
is given, however often it might look; and whichever way it is carried out, it succeeds when a window with
such a title is listed by half a second before the deadline, and fails otherwise. Only a check, where one is
made, asks for a title. -/
theorem waits_for_window (s : Session) {seconds : Nat} {q : ℚ} (kind : w.mode = .windowExists)
    (limit : w.timeout = seconds) (windows : s.desk.machine.hasWindows = true)
    (near : ofInt? w.timeout = .ok (ofInt w.timeout))
    (clock : Clockwork w.title (w.dueAt s) seconds q s) {way : StepM Bool}
    (h : way ∈ (Work.action (.wait w)).ways) (valid : way = execute w.run ∨ w.check = .ok ()) :
    (∃ looks o, looks ≤ 2 * seconds ∧
        PollLoop w.title (w.dueAt s) ((begun s).told w.announcement) looks o ∧
        runIn (begun s) w.run = o ∧ Outcome w.title seconds q s o.1) ∧
      ((runIn s way).1 = .ok true ∨ (runIn s way).1 = .ok false) ∧
      ((runIn s way).1 = .ok true ↔
        1 ≤ seconds ∧ s.desk.machine.shows w.title (q + seconds - 1 / 2)) := by
  have pace : s.pace = ((begun s).told w.announcement).pace :=
    ((begun s).pace_told w.announcement).symm
  have machine := congrArg Prod.snd pace
  have windows' : ((begun s).told w.announcement).desk.machine.hasWindows = true :=
    (congrArg Machine.hasWindows machine).symm.trans windows
  have same : ((begun s).told w.announcement).desk.machine.windows = s.desk.machine.windows :=
    (congrArg Machine.windows machine).symm
  obtain ⟨looks, o, total, polls, outcome⟩ :=
    (clock.paced pace).polls windows' (Nat.zero_le _) fun k less => absurd less (Nat.not_lt_zero k)
  have outcome : Outcome w.title seconds q s o.1 := by
    unfold Outcome Machine.shows at outcome ⊢
    rwa [same] at outcome
  have bound : looks ≤ turnsFor w.timeout := by
    rw [limit]
    unfold turnsFor
    omega
  have ran : runIn (begun s) w.run = o := w.runIn_run_of_pollLoop kind near polls bound
  refine ⟨⟨looks, o, by omega, polls, ran, outcome⟩, ?_⟩
  rcases outcome with ⟨success, shown⟩ | ⟨failure, hidden⟩
  · have executed := execute_succeeds ((congrArg Prod.fst ran).trans success)
    have result := way_of_execute (w := .action (.wait w)) executed h valid
    exact ⟨.inl result, fun _ => shown, fun _ => result⟩
  · have executed := execute_fails ((congrArg Prod.fst ran).trans failure) rfl
    have result := way_of_execute (w := .action (.wait w)) executed h valid
    refine ⟨.inr result, fun success => ?_, fun shown => absurd shown hidden⟩
    rw [result] at success
    cases success

/-- A window that is listed half a second after the clock started, and one that is listed after a
second. -/
def twoWindows : Session :=
  .first false { Desk.blank with machine := { Desk.blank.machine with
    hasWindows := true
    windows := [⟨some "Editor", 1001, .real 0.5⟩, ⟨some "Report", 1002, .real 1.0⟩] } }

/-- A window with such a title is waited for, for one second. -/
def briefly (title : String) : Waiting := ⟨.windowExists, 1000, title, 1⟩

/-- The clock is exact for this second. -/
theorem clockwork_twoWindows (title : String) :
    Clockwork title ((briefly title).dueAt twoWindows) 1 0 twoWindows := by
  have start : Stands twoWindows.desk.machine.running 0 :=
    ⟨⟨false, 0, -1074⟩, by decide +kernel, by simp [Number.Dyadic.toRat]⟩
  have half : Stands (dozed twoWindows 1).desk.machine.running (1 / 2) :=
    ⟨⟨false, 2 ^ 52, -53⟩, by decide +kernel, by norm_num [Number.Dyadic.toRat]⟩
  have whole : Stands (dozed twoWindows 2).desk.machine.running 1 :=
    ⟨⟨false, 2 ^ 52, -52⟩, by decide +kernel, by norm_num [Number.Dyadic.toRat]⟩
  refine ⟨start, ⟨⟨false, 2 ^ 52, -52⟩, ?_, by norm_num [Number.Dyadic.toRat]⟩, ?_⟩
  · show exactValue (twoWindows.desk.machine.running + ofInt 1) = _
    decide +kernel
  · intro n less _
    obtain rfl | rfl : n = 0 ∨ n = 1 := by omega
    · refine ⟨by decide +kernel, fun p stands => ?_⟩
      rw [stands.unique start, zero_add (1 / 2 : ℚ)]
      exact half
    · refine ⟨by decide +kernel, fun p stands => ?_⟩
      rw [stands.unique half]
      norm_num
      exact whole

/-- A window that is listed by the last look is found. -/
theorem waits_for_window_editor :
    let way := Engine.guarded (.action (.wait (briefly "Editor")))
    twoWindows.desk.machine.shows "Editor" (0 + (1 : ℕ) - 1 / 2) ∧
      (runIn twoWindows way).1 = .ok true := by
  intro way
  have shown : twoWindows.desk.machine.shows "Editor" (0 + (1 : ℕ) - 1 / 2) := by
    have half : Stands 0.5 (1 / 2) :=
      ⟨⟨false, 2 ^ 52, -53⟩, by decide +kernel, by norm_num [Number.Dyadic.toRat]⟩
    refine ⟨⟨some "Editor", 1001, .real 0.5⟩, List.mem_cons_self, by decide +kernel, ?_⟩
    exact half.atMost_iff.mpr (by norm_num)
  have mem : way ∈ (Work.action (.wait (briefly "Editor"))).ways := by simp [Work.ways, way]
  exact ⟨shown, ((briefly "Editor").waits_for_window twoWindows rfl rfl rfl (by decide +kernel)
    (clockwork_twoWindows "Editor") mem (.inr (by decide +kernel))).2.2.mpr ⟨le_rfl, shown⟩⟩

/-- A window that is listed only at the deadline is not. -/
theorem misses_report :
    Clockwork "Report" ((briefly "Report").dueAt twoWindows) 1 0 twoWindows ∧
      twoWindows.desk.machine.shows "Report" (0 + (1 : ℕ)) ∧
      (runIn twoWindows (execute (briefly "Report").run)).1 = .ok false := by
  refine ⟨clockwork_twoWindows "Report", ?_, by decide +kernel⟩
  have whole : Stands 1.0 1 :=
    ⟨⟨false, 2 ^ 52, -52⟩, by decide +kernel, by norm_num [Number.Dyadic.toRat]⟩
  refine ⟨⟨some "Report", 1002, .real 1.0⟩, List.mem_cons_of_mem _ List.mem_cons_self,
    by decide +kernel, ?_⟩
  exact whole.atMost_iff.mpr (by norm_num)

end Waiting

end Deskwork
