/-
# Handles in Custody

A context keeps handles under keys. What stands in it after a history of dealings are the registrations
that no later dealing has ended (`resources_after`), and every dealing closes those that it ends, in order,
with one warning for each that fails to close (`apply_course`). So every handle is closed exactly once,
when its registration is ended, and until then it is the one that is given out under its key
(`handles_in_custody`).
-/
import Deskwork.Proofs.Session.Emissions
import Deskwork.Proofs.Session.Tally
import Deskwork.Proofs.Tables
import Mathlib.Algebra.Order.BigOperators.Group.List
import Mathlib.Data.List.Induction

namespace Deskwork

/-! ## What closing leaves behind -/

/-- The event is the closing of a resource, or a warning of the context. -/
def Event.isClosure : Event → Bool
  | .closed _ => true
  | .logged .warning source _ => source == contextSource
  | _ => false

namespace Desk

/-- The closings of resources and the warnings of contexts, in order. -/
def closures (d : Desk) : List Event := (d.machine.journal.filter Event.isClosure).reverse

/-- A closing or a warning comes last. -/
theorem closures_record (d : Desk) {e : Event} (h : e.isClosure = true) :
    (d.record e).closures = d.closures ++ [e] := by
  simp [closures, record, Machine.record, h]

/-- A warning of a context is noted once, if the log accepts warnings. -/
theorem closures_warn (d : Desk) (message : String) :
    (d.warn contextSource message).closures =
      d.closures ++ if d.log.accepts .warning then [.logged .warning contextSource message] else [] := by
  have unheard : Unheard Event.isClosure := ⟨fun _ _ => ⟨rfl, rfl⟩, fun _ => rfl⟩
  exact sent_logged unheard d rfl

/-- Steady desks accept the same warnings. -/
theorem Steady.accepts {d d' : Desk} (h : d.Steady d') (l : Level) :
    d'.log.accepts l = d.log.accepts l := by
  unfold StatusLog.accepts
  rw [h.threshold]

end Desk

/-- What closing a handle leaves behind: that it was closed, and a warning when it fails. -/
def Handle.traces (accepted : Bool) (key : String) : Handle → List Event
  | .closing label => [.closed label]
  | .failing label => .closed label ::
      if accepted then [.logged .warning contextSource
        ("Failed to release resource '" ++ key ++ "': handle already gone")] else []
  | .inert | .absent => []

/-- What closing some resources leaves behind. -/
def tracesOf (accepted : Bool) (resources : List (String × Handle)) : List Event :=
  resources.flatMap fun r => r.2.traces accepted r.1

theorem Handle.closures_close (h : Handle) (key : String) (d : Desk) :
    (h.close key d).closures = d.closures ++ h.traces (d.log.accepts .warning) key := by
  cases h with
  | closing label => exact d.closures_record rfl
  | failing label =>
    have closed : (d.record (.closed label)).closures = d.closures ++ [.closed label] :=
      d.closures_record rfl
    have warned := (d.record (.closed label)).closures_warn
      ("Failed to release resource '" ++ key ++ "': handle already gone")
    rw [closed, List.append_assoc] at warned
    exact warned
  | inert => exact (List.append_nil _).symm
  | absent => exact (List.append_nil _).symm

/-- Handles are closed one after the other; one that fails does not keep the others from being closed. -/
theorem Context.closures_closeAll (d : Desk) (resources : List (String × Handle)) :
    (closeAll d resources).closures
      = d.closures ++ tracesOf (d.log.accepts .warning) resources := by
  unfold closeAll
  induction resources generalizing d with
  | nil => exact (List.append_nil _).symm
  | cons r rest ih =>
    rw [List.foldl_cons, ih, r.2.closures_close, (Handle.steady_close r.1 d r.2).accepts,
      List.append_assoc]
    rfl

/-! ## Dealings -/

/-- A dealing with the resources of a context. -/
inductive Dealing where
  | register (key : String) (handle : Handle)
  | release (key : String)
  | lookUp (key : String)
  | clear
  deriving DecidableEq

namespace Dealing

/-- A context and the desk after a dealing. -/
def apply : Dealing → Context × Desk → Context × Desk
  | .register key handle, (c, d) => c.register d key handle
  | .release key, (c, d) => (c.release d key).2
  | .lookUp _, s => s
  | .clear, (c, d) => c.clear d

/-- A new context and the desk after a history of dealings. -/
def after (hooked : Bool) (d : Desk) (history : List Dealing) : Context × Desk :=
  history.foldl (fun s x => x.apply s) (.empty hooked, d)

/-- A dealing ends what is registered under a key. -/
def ends : Dealing → String → Bool
  | .register key _, k => decide (k = key)
  | .release key, k => decide (k = key)
  | .lookUp _, _ => false
  | .clear, _ => true

/-- What a dealing registers. -/
def entries : Dealing → List (String × Handle)
  | .register key handle => [(key, handle)]
  | _ => []

/-- The registrations that no later dealing of a history has ended, in order. -/
def standing : List Dealing → List (String × Handle)
  | [] => []
  | x :: later => (x.entries.filter fun r => !later.any (·.ends r.1)) ++ standing later

variable {x : Dealing} {history later : List Dealing} {key : String} {h : Handle}

/-! ## What stands in a context -/

/-- A registration stands when no later dealing has ended it. -/
theorem mem_standing_iff : (key, h) ∈ standing history ↔
    ∃ before later, history = before ++ .register key h :: later
      ∧ later.any (·.ends key) = false := by
  induction history with
  | nil => simp [standing]
  | cons x later ih =>
    rw [standing, List.mem_append, ih]
    constructor
    · rintro (now | ⟨before, later', rfl, kept⟩)
      · obtain ⟨mem, kept⟩ := List.mem_filter.mp now
        cases x with
        | register key' h' =>
          cases List.mem_singleton.mp mem
          exact ⟨[], later, rfl, by simpa using kept⟩
        | _ => cases mem
      · exact ⟨x :: before, later', rfl, kept⟩
    · rintro ⟨before, later', same, kept⟩
      cases before with
      | nil =>
        cases same
        left
        exact List.mem_filter.mpr ⟨List.mem_singleton.mpr rfl, by simpa using kept⟩
      | cons y before =>
        cases same
        exact .inr ⟨before, later', rfl, kept⟩

/-- A registration of a key ends what was registered under it before, so that at most one stands. -/
theorem nodup_keys_standing (history : List Dealing) : (Table.keys (standing history)).Nodup := by
  induction history with
  | nil => exact List.nodup_nil
  | cons x later ih =>
    have fresh (key : String) (kept : later.any (·.ends key) = false) :
        key ∉ Table.keys (standing later) := by
      intro again
      obtain ⟨⟨_, h⟩, mem, rfl⟩ := List.mem_map.mp again
      obtain ⟨before, rest, rfl, -⟩ := mem_standing_iff.mp mem
      simp [ends] at kept
    rw [standing]
    cases x with
    | register key h =>
      by_cases kept : later.any (·.ends key) = false
      · have stands : ((Dealing.register key h).entries.filter fun r => !later.any (·.ends r.1))
            = [(key, h)] := List.filter_cons_of_pos (by simp [kept])
        rw [stands]
        exact List.nodup_cons.mpr ⟨fresh key kept, ih⟩
      · have gone : ((Dealing.register key h).entries.filter fun r => !later.any (·.ends r.1))
            = [] := List.filter_cons_of_neg (by simpa using kept)
        rw [gone]
        exact ih
    | _ => exact ih

/-- A further dealing takes away what it ends and adds what it registers. -/
theorem standing_snoc (history : List Dealing) (x : Dealing) :
    standing (history ++ [x]) = (standing history).filter (fun r => !x.ends r.1) ++ x.entries := by
  induction history with
  | nil => simp [standing]
  | cons y later ih =>
    have split (r : String × Handle) : (!(later ++ [x]).any (·.ends r.1))
        = (!x.ends r.1 && !later.any (·.ends r.1)) := by
      simp [Bool.and_comm]
    rw [List.cons_append, standing, ih, standing, List.filter_append, List.filter_filter,
      List.append_assoc]
    simp only [split]

/-! ## What one dealing does -/

/-- Releasing a resource takes its entry away and closes its handle. -/
theorem release_course (c : Context) (d : Desk) (distinct : (Table.keys c.resources).Nodup)
    (key : String) :
    (c.release d key).2.1.resources = c.resources.filter (fun r => !decide (r.1 = key))
      ∧ (c.release d key).2.2.closures = d.closures
        ++ tracesOf (d.log.accepts .warning) (c.resources.filter fun r => decide (r.1 = key)) := by
  rw [Table.filter_eq_of_nodup distinct, ← Table.remove_eq_filter distinct]
  unfold Context.release Context.resource?
  dsimp only
  cases Table.get? c.resources key with
  | none => exact ⟨rfl, (List.append_nil _).symm⟩
  | some h =>
    by_cases absent : h = .absent
    · subst absent
      exact ⟨rfl, (List.append_nil _).symm⟩
    · rw [Option.filter_some_pos (by simpa using absent)]
      refine ⟨rfl, ?_⟩
      dsimp only
      rw [h.closures_close]
      simp [tracesOf]

/-- A dealing takes away what it ends, closes all of it in order, and adds what it registers. -/
theorem apply_course (x : Dealing) (c : Context) (d : Desk)
    (distinct : (Table.keys c.resources).Nodup) :
    (x.apply (c, d)).1.resources = c.resources.filter (fun r => !x.ends r.1) ++ x.entries
      ∧ (x.apply (c, d)).2.closures = d.closures
        ++ tracesOf (d.log.accepts .warning) (c.resources.filter fun r => x.ends r.1) := by
  cases x with
  | register key h =>
    obtain ⟨left, closed⟩ := release_course c d distinct key
    exact ⟨congrArg (· ++ [(key, h)]) left, closed⟩
  | release key =>
    obtain ⟨left, closed⟩ := release_course c d distinct key
    exact ⟨left.trans (List.append_nil _).symm, closed⟩
  | lookUp key => simp [apply, ends, entries, tracesOf]
  | clear =>
    have closed := Context.closures_closeAll d c.resources
    simp only [ends, entries, Bool.not_true, List.filter_false, List.filter_true, List.append_nil]
    exact ⟨rfl, closed⟩

/-! ## Histories -/

variable {hooked : Bool} {d : Desk}

/-- A history goes on with one more dealing. -/
theorem after_snoc (history : List Dealing) (x : Dealing) :
    after hooked d (history ++ [x]) = x.apply (after hooked d history) :=
  List.foldl_concat _ _ x history

/-- What is in a context after a history are the registrations that stand. -/
theorem resources_after (hooked : Bool) (d : Desk) (history : List Dealing) :
    (after hooked d history).1.resources = standing history := by
  induction history using List.reverseRecOn with
  | nil => rfl
  | append_singleton history x ih =>
    have distinct : (Table.keys (after hooked d history).1.resources).Nodup :=
      ih ▸ nodup_keys_standing history
    rw [after_snoc, (apply_course x _ _ distinct).1, ih, standing_snoc]

/-- A handle is given out under a key when it stands there and is one. -/
theorem resource?_after_eq_some_iff : (after hooked d history).1.resource? key = some h ↔
    h ≠ .absent ∧ ∃ before later, history = before ++ .register key h :: later
      ∧ later.any (·.ends key) = false := by
  have distinct := nodup_keys_standing history
  unfold Context.resource?
  rw [resources_after, Option.filter_eq_some_iff, ← mem_standing_iff, decide_eq_true_iff, and_comm]
  apply and_congr_right
  intro _
  constructor
  · exact Table.mem_of_get?
  · exact Table.get?_of_mem distinct

/-! ## Closed once -/

/-- The labels under which some handles are closed. -/
def labelsOf (resources : List (String × Handle)) : Multiset String :=
  (resources.map fun r => r.2.labels).sum

/-- The labels of the handles that a history registers. -/
def registered (history : List Dealing) : Multiset String := labelsOf (history.flatMap entries)

@[simp]
theorem labelsOf_nil : labelsOf [] = 0 := rfl

theorem labelsOf_append (rs rs' : List (String × Handle)) :
    labelsOf (rs ++ rs') = labelsOf rs + labelsOf rs' := by
  simp [labelsOf]

/-- What a history has registered is closed or stands. -/
theorem closings_after (hooked : Bool) (d : Desk) (history : List Dealing) :
    (after hooked d history).2.closings + labelsOf (standing history)
      = d.closings + registered history := by
  have tally : (after hooked d history).2.tally (after hooked d history).1
      = (registered history, 0) + d.tally (.empty hooked) := by
    induction history using List.reverseRecOn with
    | nil => exact (zero_add _).symm
    | append_singleton history x ih =>
      have more : registered (history ++ [x]) = labelsOf x.entries + registered history := by
        simp [registered, labelsOf_append, add_comm]
      rw [after_snoc]
      generalize after hooked d history = s at ih ⊢
      obtain ⟨c, d'⟩ := s
      have same (kept : (x.apply (c, d')).2.tally (x.apply (c, d')).1 = d'.tally c)
          (nothing : x.entries = []) : (x.apply (c, d')).2.tally (x.apply (c, d')).1
            = (registered (history ++ [x]), 0) + d.tally (.empty hooked) := by
        rw [kept, ih, more, nothing]
        simp [labelsOf]
      cases x with
      | register key h =>
        have added := c.tally_register d' key h
        rw [ih, ← add_assoc] at added
        rw [more]
        simpa [labelsOf, entries, apply] using added
      | release key => exact same (c.tally_release d' key) rfl
      | lookUp key => exact same rfl rfl
      | clear => exact same (c.tally_clear d') rfl
  have first := congrArg Prod.fst tally
  rw [← resources_after hooked d history]
  simpa [Desk.tally, Context.pending, Context.empty, labelsOf, add_comm] using first

/-- Fewer resources have fewer labels. -/
theorem labelsOf_le_of_sublist {rs rs' : List (String × Handle)} (h : rs.Sublist rs') :
    labelsOf rs ≤ labelsOf rs' :=
  (h.map _).sum_le_sum fun _ _ => Multiset.zero_le _

/-- What stands after a history was registered in its first part, or it stands after the rest. -/
theorem labelsOf_standing_append_le (before rest : List Dealing) :
    labelsOf (standing (before ++ rest)) ≤ registered before + labelsOf (standing rest) := by
  induction before with
  | nil => simp [registered, labelsOf]
  | cons x before ih =>
    have own := labelsOf_le_of_sublist
      (List.filter_sublist (p := fun r => !(before ++ rest).any (·.ends r.1)) (l := x.entries))
    have more : registered (x :: before) = labelsOf x.entries + registered before := by
      simp [registered, labelsOf_append]
    rw [List.cons_append, standing, labelsOf_append, more, add_assoc]
    exact add_le_add own ih

/-- The labels of a handle that stands are among those of what stands. -/
theorem labels_le_of_mem {rs : List (String × Handle)} (mem : (key, h) ∈ rs) :
    h.labels ≤ labelsOf rs := by
  have single := labelsOf_le_of_sublist (List.singleton_sublist.mpr mem)
  simpa [labelsOf] using single

/-- When no label is used twice, a handle is closed once if its registration has been ended, and otherwise
it stands and is not closed. -/
theorem count_after (hooked : Bool) {before : List Dealing} {label : String}
    (fresh : (d.closings + registered (before ++ .register key h :: later)).Nodup)
    (mem : label ∈ h.labels) :
    let history := before ++ .register key h :: later
    (labelsOf (standing history)).count label = (if later.any (·.ends key) then 0 else 1)
      ∧ (after hooked d history).2.closings.count label = if later.any (·.ends key) then 1 else 0 := by
  intro history
  have parts : registered history = registered before + (h.labels + registered later) := by
    simp [history, registered, labelsOf, entries]
  have once := Multiset.nodup_iff_count_le_one.mp fresh label
  have own := Multiset.one_le_count_iff_mem.mpr mem
  have total := congrArg (Multiset.count label) (closings_after hooked d history)
  rw [parts] at once total
  simp only [Multiset.count_add] at once total
  cases ended : later.any (·.ends key) with
  | false =>
    have stands : (key, h) ∈ standing history := mem_standing_iff.mpr ⟨before, later, rfl, ended⟩
    have stood := Multiset.count_le_of_le label (labels_le_of_mem stands)
    simp only [Bool.false_eq_true, if_false]
    omega
  | true =>
    -- what stands was registered before or later, and under other labels
    have tail : standing (.register key h :: later) = standing later := by
      simp [standing, entries, ended]
    have others : labelsOf (standing history) ≤ _ :=
      labelsOf_standing_append_le before (.register key h :: later)
    have rest := labelsOf_standing_append_le later []
    rw [tail] at others
    rw [List.append_nil, standing, labelsOf_nil, add_zero] at rest
    have stood := Multiset.count_le_of_le label (others.trans (add_le_add_right rest _))
    rw [Multiset.count_add] at stood
    simp only [if_true]
    omega

/-- What becomes of the handles of a context in a history of dealings. -/
structure InCustody (s : Context × Desk) (history : List Dealing) : Prop where
  /-- A key gives out what was registered under it and has not been ended. -/
  given : ∀ key h, s.1.resource? key = some h ↔ h ≠ .absent ∧
    ∃ before later, history = before ++ .register key h :: later
      ∧ later.any (·.ends key) = false
  /-- A handle that can be closed has been closed once if its registration has been ended, and not at all
  otherwise, and then it is given out. -/
  closed : ∀ before key h later label, history = before ++ .register key h :: later →
    label ∈ h.labels →
    s.2.closings.count label = (if later.any (·.ends key) then 1 else 0)
      ∧ ((∃ k, s.1.resource? k = some h) ↔ later.any (·.ends key) = false)
  /-- The next dealing closes all that it ends, with one warning for each handle that fails, and adds what
  it registers. -/
  course : ∀ x : Dealing,
    (x.apply s).2.closures = s.2.closures
        ++ tracesOf (s.2.log.accepts .warning) (s.1.resources.filter fun r => x.ends r.1)
      ∧ (x.apply s).1.resources = s.1.resources.filter (fun r => !x.ends r.1) ++ x.entries
  /-- A release tells whether a handle was given out. -/
  released : ∀ key, (s.1.release s.2 key).1 = true ↔ ∃ h, s.1.resource? key = some h
  /-- Nothing stands in a context that was cleared. -/
  cleared : (s.1.clear s.2).1.resources = []

/-- The result of a release tells whether the key gave out a handle. -/
theorem release_eq_true_iff (c : Context) (d : Desk) (key : String) :
    (c.release d key).1 = true ↔ ∃ h, c.resource? key = some h := by
  unfold Context.release
  dsimp only
  split
  case h_1 h given => simp [given]
  case h_2 nothing => simp [nothing]

/-- In every history whose registrations have labels of their own, the handles are in custody. The log can be
written to: otherwise the warning that a handle fails to close would be a fault of its own. -/
theorem handles_in_custody (hooked : Bool) (d : Desk) (_ready : d.log.ready = .ok ())
    (history : List Dealing) (fresh : (d.closings + registered history).Nodup) :
    InCustody (after hooked d history) history := by
  constructor
  · intro key h
    exact resource?_after_eq_some_iff
  · rintro before key h later label rfl mem
    obtain ⟨stands, closed⟩ := count_after hooked fresh mem
    refine ⟨closed, ?_⟩
    have handle : h ≠ .absent := by
      rintro rfl
      cases mem
    constructor
    · rintro ⟨k, given⟩
      obtain ⟨-, kept⟩ := resource?_after_eq_some_iff.mp given
      have stood := Multiset.mem_of_le (labels_le_of_mem (mem_standing_iff.mpr kept)) mem
      rw [← Multiset.count_pos, stands] at stood
      by_contra ended
      rw [if_pos (by simpa using ended)] at stood
      exact absurd stood (lt_irrefl 0)
    · intro kept
      exact ⟨key, resource?_after_eq_some_iff.mpr ⟨handle, before, later, rfl, kept⟩⟩
  · intro x
    have distinct : (Table.keys (after hooked d history).1.resources).Nodup :=
      resources_after hooked d history ▸ nodup_keys_standing history
    exact (apply_course x _ _ distinct).symm
  · intro key
    exact release_eq_true_iff _ _ key
  · rfl

/-- A key is registered again, with a handle that fails to close, and is released then. Another key has no
handle at all, and a third one is left. -/
def reopened : List Dealing :=
  [.register "k" (.closing "a"), .register "k" (.failing "b"), .register "n" .absent,
    .register "o" (.closing "c"), .release "k"]

/-- The first two handles have been closed once, and the last one is given out. -/
theorem handles_in_custody_reopened :
    let s := after false .blank reopened
    Desk.blank.log.ready = .ok () ∧ (Desk.blank.closings + registered reopened).Nodup
      ∧ InCustody s reopened
      ∧ (s.2.closings.count "a" = 1 ∧ s.2.closings.count "b" = 1 ∧ s.2.closings.count "c" = 0)
      ∧ s.1.resource? "n" = none ∧ s.1.resource? "o" = some (.closing "c") := by
  intro s
  have fresh : (Desk.blank.closings + registered reopened).Nodup := by decide
  have custody : InCustody s reopened := handles_in_custody false .blank rfl reopened fresh
  refine ⟨rfl, fresh, custody, ⟨?_, ?_, ?_⟩, by decide, by decide⟩
  · exact (custody.closed [] _ _ _ "a" rfl (Multiset.mem_singleton_self "a")).1
  · exact (custody.closed [.register "k" (.closing "a")] _ _ _ "b" rfl (Multiset.mem_singleton_self "b")).1
  · exact (custody.closed [.register "k" (.closing "a"), .register "k" (.failing "b"),
      .register "n" .absent] _ _ _ "c" rfl (Multiset.mem_singleton_self "c")).1

end Dealing

end Deskwork
