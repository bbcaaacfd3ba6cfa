/-
# What an Expander Remembers

An expander keeps the custom variables in a cell of its own and hands out copies. Nobody who writes to a
copy writes to that cell (`ExpanderMemory.Apart.after`), so that an inquiry finds the desk as it would be if
nobody had (`ExpanderMemory.Apart.view_inquiry`). In every stretch between two reloads the provider is asked
at most once, by the first inquiry that needs the custom variables, and all inquiries of the stretch find
what it gave then (`ExpanderMemory.asks_once`).
-/
import Deskwork.Proofs.Template.Filling

namespace Deskwork.Template

/-! ## Inquiries -/

/-- What an expander is asked to do. -/
inductive Inquiry where
  | expand (bindings : List (String × Scalar)) (text : String)
  | expandFields (bindings : List (String × Scalar)) (work : Work)
  /-- A copy of the custom variables is handed out. -/
  | copy
  /-- The custom variables are forgotten. -/
  | reload

/-- What an inquiry finds. -/
inductive Finding where
  | text (result : Except Fault String)
  /-- What stood in the fields that changed, and the step afterwards. -/
  | fields (result : Except Fault (List (String × Content))) (work : Work)
  | copy (custom : List (String × String))
  | nothing

namespace Inquiry

/-- An inquiry at a desk. -/
def make : Inquiry → Desk → Finding × Desk
  | .expand bindings text, d =>
    let (r, d) := d.expand bindings text
    (.text r, d)
  | .expandFields bindings work, d =>
    let (r, work, d) := work.expand bindings d
    (.fields r work, d)
  | .copy, d =>
    let (custom, d) := d.customVariables
    (.copy custom, d)
  | .reload, d => (.nothing, { d with expander := d.expander.reload })

/-- The inquiry looks up the standard names: it expands a text that may hold a token. -/
def looksUp : Inquiry → Bool
  | .expand _ text => mayHoldTokens text
  | .expandFields _ work => work.mayHoldTokens
  | .copy | .reload => false

/-- The inquiry needs the custom variables. -/
def needs : Inquiry → Bool
  | .copy => true
  | x => x.looksUp

/-- The inquiry makes the expander forget. -/
def isReload : Inquiry → Bool
  | .reload => true
  | _ => false

/-- What an inquiry finds when the standard names and the custom variables have some values. -/
def finding (standard custom : List (String × String)) : Inquiry → Finding
  | .expand bindings text => .text (.ok (filling standard bindings custom text))
  | .expandFields bindings work =>
    let (originals, work) := work.fill (filling standard bindings custom)
    .fields (.ok originals) work
  | .copy => .copy custom
  | .reload => .nothing

variable {x : Inquiry} {d : Desk} {standard : List (String × String)}

/-- An inquiry finds what the standard names and the custom variables make of it, and loads the custom
variables if it needs them. -/
theorem make_eq (lasting : x.isReload = false)
    (h : x.looksUp = true → d.standardValues d.machine.wall = .ok standard) :
    x.make d = (x.finding standard d.customVariables.1, d.loadedIf x.needs) := by
  cases x with
  | expand bindings text =>
    rw [make, Desk.expand_eq bindings h]
    rfl
  | expandFields bindings work =>
    rw [make, Work.expand_eq bindings h]
    rfl
  | copy => rfl
  | reload => cases lasting

/-- What does not look up the standard names may be told any values of them. -/
theorem exists_standard
    (h : x.looksUp = true → ∃ standard, d.standardValues d.machine.wall = .ok standard) :
    ∃ standard, x.looksUp = true → d.standardValues d.machine.wall = .ok standard := by
  cases looks : x.looksUp with
  | false => exact ⟨[], nofun⟩
  | true => exact (h looks).imp fun _ known _ => known

/-- What does not need the custom variables finds the same whatever they are. -/
theorem finding_of_not_needs (h : x.needs = false) (custom custom' : List (String × String)) :
    x.finding standard custom = x.finding standard custom' := by
  cases x with
  | expand bindings text =>
    have none : mayHoldTokens text = false := h
    rw [finding, finding, filling_eq_self none, filling_eq_self none]
  | expandFields bindings work =>
    have none : work.mayHoldIn work.templateFields = false := h
    rw [finding, finding, Work.fill, Work.fill, Work.fillFields_filling_eq_self none,
      Work.fillFields_filling_eq_self none]
  | copy => cases h
  | reload => rfl

end Inquiry

/-! ## Memory -/

/-- A desk whose expander keeps the custom variables in a cell of the memory, among other cells with the
copies that were handed out. -/
structure ExpanderMemory where
  /-- What its expander remembers is what stands in the cell that it keeps. -/
  desk : Desk
  cells : List (List (String × String))
  kept : Option Nat
  handed : List Nat

/-- What happens to a memory. -/
inductive Occurrence where
  | inquiry (x : Inquiry)
  /-- Meanwhile the machine, the log and the provider have become others. -/
  | meanwhile (machine : Machine) (log : StatusLog) (provider : Provider)
  /-- Somebody writes something else to a cell that was handed out. -/
  | overwrite (number : Nat) (custom : List (String × String))

namespace Occurrence

/-- It is an inquiry that needs the custom variables. -/
def needs : Occurrence → Bool
  | .inquiry x => x.needs
  | _ => false

/-- It is an inquiry that looks up the standard names. -/
def looksUp : Occurrence → Bool
  | .inquiry x => x.looksUp
  | _ => false

/-- The expander is made to forget. -/
def isReload : Occurrence → Bool
  | .inquiry x => x.isReload
  | _ => false

end Occurrence

namespace ExpanderMemory

/-- The memory of a new expander. -/
def initial (d : Desk) : ExpanderMemory := ⟨d, [], none, []⟩

/-- What the expander remembers. -/
def remembered (o : ExpanderMemory) : Option (List (String × String)) := o.kept.bind fun n => o.cells[n]?

/-- The desk as an inquiry finds it. -/
def view (o : ExpanderMemory) : Desk :=
  { o.desk with expander := { o.desk.expander with known := o.remembered } }

/-- What the expander is to remember: it takes a new cell for it unless it has one. -/
def keep (o : ExpanderMemory) : Option (List (String × String)) → ExpanderMemory
  | none => { o with kept := none }
  | some custom =>
    match o.kept with
    | some _ => o
    | none => { o with cells := o.cells ++ [custom], kept := some o.cells.length }

/-- A new cell handed out. -/
def handOut (o : ExpanderMemory) (custom : List (String × String)) : ExpanderMemory :=
  { o with cells := o.cells ++ [custom], handed := o.cells.length :: o.handed }

/-- What was found handed out, if it has to be written to a cell. -/
def deliver (o : ExpanderMemory) : Finding → ExpanderMemory
  | .copy custom => o.handOut custom
  | _ => o

/-- A memory after an occurrence. Nobody can write to a cell that was not handed out. -/
def apply (o : ExpanderMemory) : Occurrence → ExpanderMemory
  | .inquiry x =>
    let (found, d) := x.make o.view
    (({ o with desk := d } : ExpanderMemory).keep d.expander.known).deliver found
  | .meanwhile machine log provider =>
    { o with desk := ⟨machine, log, { o.desk.expander with provider := provider }⟩ }
  | .overwrite n custom => if n ∈ o.handed then { o with cells := o.cells.set n custom } else o

/-- A memory after some occurrences. -/
def after (o : ExpanderMemory) (history : List Occurrence) : ExpanderMemory := history.foldl apply o

variable {o : ExpanderMemory}

/-- The cells of a memory: the one that the expander keeps was not handed out. -/
structure Apart (o : ExpanderMemory) : Prop where
  /-- There are the cells that were handed out. -/
  handed : ∀ n ∈ o.handed, n < o.cells.length
  /-- There is the cell that is kept, and it was not handed out. -/
  kept : ∀ n, o.kept = some n → n < o.cells.length ∧ n ∉ o.handed

theorem apart_initial (d : Desk) : Apart (initial d) := ⟨nofun, nofun⟩

theorem Apart.keep (h : o.Apart) (custom : Option (List (String × String))) : (o.keep custom).Apart := by
  unfold ExpanderMemory.keep
  split
  · exact ⟨h.handed, nofun⟩
  · split
    · exact h
    · constructor
      · intro n mem
        rw [List.length_append]
        exact Nat.lt_add_right 1 (h.handed n mem)
      · rintro _ ⟨⟩
        refine ⟨by simp, fun mem => ?_⟩
        exact absurd (h.handed _ mem) (lt_irrefl _)

theorem Apart.handOut (h : o.Apart) (custom : List (String × String)) : (o.handOut custom).Apart := by
  constructor
  · intro n mem
    rw [ExpanderMemory.handOut, List.length_append]
    rcases List.mem_cons.mp mem with rfl | mem
    · exact Nat.lt_succ_self _
    · exact Nat.lt_add_right 1 (h.handed n mem)
  · intro n kept
    obtain ⟨lt, apart⟩ := h.kept n kept
    rw [ExpanderMemory.handOut, List.length_append]
    refine ⟨Nat.lt_add_right 1 lt, fun mem => ?_⟩
    rcases List.mem_cons.mp mem with rfl | mem
    · exact lt_irrefl _ lt
    · exact apart mem

theorem Apart.deliver (h : o.Apart) (found : Finding) : (o.deliver found).Apart := by
  cases found with
  | copy custom => exact h.handOut custom
  | _ => exact h

/-- Whatever occurs, the cell that the expander keeps is not handed out. -/
theorem Apart.apply (h : o.Apart) (x : Occurrence) : (o.apply x).Apart := by
  cases x with
  | inquiry x =>
    have desk : ({ o with desk := (x.make o.view).2 } : ExpanderMemory).Apart := ⟨h.handed, h.kept⟩
    exact (desk.keep _).deliver _
  | meanwhile machine log provider => exact ⟨h.handed, h.kept⟩
  | overwrite n custom =>
    rw [ExpanderMemory.apply]
    split
    · constructor
      · intro m mem
        rw [List.length_set]
        exact h.handed m mem
      · intro m kept
        rw [List.length_set]
        exact h.kept m kept
    · exact h

theorem Apart.after (h : o.Apart) (history : List Occurrence) : (o.after history).Apart := by
  induction history generalizing o with
  | nil => exact h
  | cons x later ih => exact ih (h.apply x)

/-! ## What the expander remembers -/

/-- Something is remembered as long as there is a cell for it. -/
theorem Apart.remembered_eq_none_iff (h : o.Apart) : o.remembered = none ↔ o.kept = none := by
  unfold remembered
  cases kept : o.kept with
  | none => simp
  | some n => simp [(h.kept n kept).1]

/-- What the expander is to remember stands in its cell, unless it forgets or stands there already. -/
theorem Apart.remembered_keep (h : o.Apart) {known : Option (List (String × String))}
    (same : ∀ custom, o.remembered = some custom → known = none ∨ known = some custom) :
    (o.keep known).remembered = known := by
  cases known with
  | none => rfl
  | some custom =>
    unfold ExpanderMemory.keep
    cases kept : o.kept with
    | none => simp [remembered]
    | some n =>
      obtain ⟨there, stands⟩ := Option.ne_none_iff_exists'.mp
        (mt h.remembered_eq_none_iff.mp (by simp [kept]))
      dsimp only
      rw [stands]
      exact ((same there stands).resolve_left nofun).symm

theorem view_congr {o' : ExpanderMemory} (desk : o'.desk = o.desk) (same : o'.remembered = o.remembered) :
    o'.view = o.view := by
  unfold view
  rw [desk, same]

theorem view_of_remembered (same : o.remembered = o.desk.expander.known) : o.view = o.desk := by
  unfold view
  rw [same]

/-- A new cell for somebody else changes nothing for the expander. -/
theorem Apart.view_deliver (h : o.Apart) (found : Finding) : (o.deliver found).view = o.view := by
  cases found with
  | copy custom =>
    refine view_congr rfl ?_
    unfold remembered
    show (o.kept.bind fun n => (o.cells ++ [custom])[n]?) = _
    cases kept : o.kept with
    | none => rfl
    | some n => exact List.getElem?_append_left (h.kept n kept).1
  | _ => rfl

/-- Whoever writes to a cell that was handed out changes nothing for the expander. -/
theorem Apart.view_overwrite (h : o.Apart) (n : Nat) (custom : List (String × String)) :
    (o.apply (.overwrite n custom)).view = o.view := by
  rw [ExpanderMemory.apply]
  split
  case isTrue mem =>
    refine view_congr rfl ?_
    unfold remembered
    dsimp only
    cases kept : o.kept with
    | none => rfl
    | some m =>
      have other : n ≠ m := by
        rintro rfl
        exact (h.kept n kept).2 mem
      exact List.getElem?_set_ne other
  case isFalse => rfl

/-- An inquiry leaves the memory as it leaves the desk that it finds. -/
theorem Apart.view_inquiry (h : o.Apart) {x : Inquiry} {standard : List (String × String)}
    (lasting : x.isReload = false)
    (told : x.looksUp = true → o.view.standardValues o.view.machine.wall = .ok standard) :
    (o.apply (.inquiry x)).view = o.view.loadedIf x.needs := by
  have apart (d : Desk) : ({ o with desk := d } : ExpanderMemory).Apart := ⟨h.handed, h.kept⟩
  have written (d : Desk) (same : ∀ custom, o.remembered = some custom → d.expander.known = some custom) :
      (({ o with desk := d } : ExpanderMemory).keep d.expander.known).view = d := by
    have desk (known : Option (List (String × String))) :
        (({ o with desk := d } : ExpanderMemory).keep known).desk = d := by
      unfold ExpanderMemory.keep
      split
      · rfl
      · split <;> rfl
    have stands := (apart d).remembered_keep fun custom stood => .inr (same custom stood)
    rw [view_of_remembered (by rw [desk, stands]), desk]
  rw [ExpanderMemory.apply, Inquiry.make_eq lasting told]
  refine (((apart _).keep _).view_deliver _).trans (written _ fun custom stood => ?_)
  exact Desk.known_loadedIf_of_known stood x.needs

/-! ## Stretches -/

/-- The desk that the first inquiry finds which needs the custom variables, or else the desk in the end. -/
def first (o : ExpanderMemory) : List Occurrence → Desk
  | [] => o.view
  | x :: later => if x.needs then o.view else (o.apply x).first later

/-- The standard names have values whenever they are looked up. -/
def Informed (o : ExpanderMemory) : List Occurrence → Prop
  | [] => True
  | x :: later =>
    (x.looksUp = true → ∃ standard, o.view.standardValues o.view.machine.wall = .ok standard)
      ∧ (o.apply x).Informed later

/-- The loading of custom variables that an occurrence adds to the journal. -/
def added (o : ExpanderMemory) : Occurrence → List Event
  | .inquiry x =>
    ((x.make o.view).2.sent Event.isLoading).drop (o.view.sent Event.isLoading).length
  | _ => []

/-- The loading of custom variables that some occurrences add to the journal. -/
def noted (o : ExpanderMemory) : List Occurrence → List Event
  | [] => []
  | x :: later => o.added x ++ (o.apply x).noted later

variable {x : Occurrence} {history later : List Occurrence}

theorem informed_append :
    o.Informed (history ++ later) ↔ o.Informed history ∧ (o.after history).Informed later := by
  induction history generalizing o with
  | nil => exact (iff_of_eq (true_and _)).symm
  | cons x history ih =>
    rw [List.cons_append, Informed, Informed, ih, and_assoc]
    rfl

/-- Once the custom variables were needed it does not matter what comes later. -/
theorem first_append : o.first (history ++ later) =
    if history.any (·.needs) then o.first history else (o.after history).first later := by
  induction history generalizing o with
  | nil => rfl
  | cons x history ih =>
    rw [List.cons_append, first, first, ih, List.any_cons]
    cases x.needs <;> rfl

/-- An occurrence that does not make the expander forget leaves the loading to those that need it. -/
theorem Apart.step (h : o.Apart) (lasting : x.isReload = false)
    (told : x.looksUp = true → ∃ standard, o.view.standardValues o.view.machine.wall = .ok standard) :
    (o.apply x).view.expander.known
        = (if x.needs then some o.view.customVariables.1 else o.view.expander.known)
      ∧ o.added x = if x.needs && o.view.expander.known.isNone then o.view.traces else [] := by
  cases x with
  | inquiry x =>
    obtain ⟨standard, told⟩ := Inquiry.exists_standard told
    constructor
    · rw [h.view_inquiry lasting told, Desk.known_loadedIf]
      rfl
    · rw [added, Inquiry.make_eq lasting told]
      show List.drop _ ((o.view.loadedIf x.needs).sent _) = if x.needs && _ then _ else _
      cases x.needs with
      | false => simp [Desk.loadedIf]
      | true =>
        cases known : o.view.expander.known with
        | some custom => simp [Desk.loadedIf, Desk.customVariables_of_known known]
        | none =>
          have loaded : (o.view.loadedIf true).sent Event.isLoading
              = o.view.sent Event.isLoading ++ o.view.traces := by
            rw [Desk.loadedIf, if_pos rfl, Desk.customVariables_of_unknown known]
            exact o.view.sent_asked
          rw [loaded, List.drop_left]
          rfl
  | meanwhile machine log provider => exact ⟨rfl, rfl⟩
  | overwrite n custom =>
    rw [h.view_overwrite]
    exact ⟨rfl, rfl⟩

/-- What is remembered stays remembered, and nothing is loaded. -/
theorem Apart.stays (h : o.Apart) {custom : List (String × String)}
    (known : o.view.expander.known = some custom) (lasting : history.any (·.isReload) = false)
    (informed : o.Informed history) :
    (o.after history).view.expander.known = some custom ∧ o.noted history = [] := by
  induction history generalizing o with
  | nil => exact ⟨known, rfl⟩
  | cons x later ih =>
    obtain ⟨lasting, rest⟩ := Bool.or_eq_false_iff.mp lasting
    obtain ⟨remembers, adds⟩ := h.step lasting informed.1
    rw [known, Desk.customVariables_of_known known, ite_self] at remembers
    obtain ⟨remembered, noted⟩ := ih (h.apply x) remembers rest informed.2
    refine ⟨remembered, ?_⟩
    rw [ExpanderMemory.noted, adds, noted, known]
    simp

/-- Where nothing is remembered, the first inquiry that needs the custom variables loads them. -/
theorem Apart.loads (h : o.Apart) (unknown : o.view.expander.known = none)
    (lasting : history.any (·.isReload) = false) (informed : o.Informed history) :
    (o.after history).view.expander.known
        = (if history.any (·.needs) then some (o.first history).offer else none)
      ∧ o.noted history = if history.any (·.needs) then (o.first history).traces else [] := by
  induction history generalizing o with
  | nil => exact ⟨unknown, rfl⟩
  | cons x later ih =>
    obtain ⟨lasting, rest⟩ := Bool.or_eq_false_iff.mp lasting
    obtain ⟨remembers, adds⟩ := h.step lasting informed.1
    rw [ExpanderMemory.noted, ExpanderMemory.first, List.any_cons, adds]
    cases needed : x.needs with
    | false =>
      rw [needed, unknown] at remembers
      exact ih (h.apply x) remembers rest informed.2
    | true =>
      rw [needed, Desk.customVariables_of_unknown unknown] at remembers
      obtain ⟨remembered, noted⟩ := (h.apply x).stays remembers rest informed.2
      refine ⟨remembered, ?_⟩
      rw [noted, unknown]
      simp

/-- Where nothing is remembered at first, an inquiry finds what the provider gave to the first one that needed
the custom variables, which may be itself. -/
theorem Apart.finds (h : o.Apart) (unknown : o.view.expander.known = none)
    (quiet : history.any (·.isReload) = false) (informed : o.Informed history) {x : Inquiry}
    (lasting : x.isReload = false) {standard : List (String × String)}
    (told : x.looksUp = true →
      (o.after history).view.standardValues (o.after history).view.machine.wall = .ok standard)
    (later : List Occurrence) :
    x.make (o.after history).view =
      (x.finding standard (o.first (history ++ .inquiry x :: later)).offer,
        if x.needs && !history.any (·.needs) then
          (o.first (history ++ .inquiry x :: later)).asked.remember
            (o.first (history ++ .inquiry x :: later)).offer
        else (o.after history).view) := by
  have remembers := (h.loads unknown quiet informed).1
  rw [Inquiry.make_eq lasting told, first_append, first]
  generalize (o.after history).view = e at remembers ⊢
  cases needed : history.any (·.needs) with
  | true =>
    rw [needed] at remembers
    have kept (again : Bool) : e.loadedIf again = e := by
      cases again with
      | false => rfl
      | true => exact congrArg Prod.snd (Desk.customVariables_of_known remembers)
    rw [Desk.customVariables_of_known remembers, kept, Bool.not_true, Bool.and_false]
    rfl
  | false =>
    rw [needed] at remembers
    -- the inquiry is the first one that needs the custom variables, if it needs them
    have own : (Occurrence.inquiry x).needs = x.needs := rfl
    rw [own, if_neg Bool.false_ne_true]
    cases needs : x.needs with
    | true =>
      rw [Desk.loadedIf, if_pos rfl, if_pos rfl, Desk.customVariables_of_unknown remembers]
      rfl
    | false =>
      exact congrArg₂ Prod.mk (Inquiry.finding_of_not_needs needs _ _) rfl

/-- How a stretch goes in which the provider is asked at most once. -/
structure AskedOnce (o : ExpanderMemory) (stretch : List Occurrence) : Prop where
  /-- Every inquiry finds what the provider gave to the first one that needed the custom variables. That one
  leaves the desk as it is after the provider was asked, and any other one leaves it alone. -/
  found : ∀ h x later standard, stretch = h ++ .inquiry x :: later →
    (x.looksUp = true →
      (o.after h).view.standardValues (o.after h).view.machine.wall = .ok standard) →
    x.make (o.after h).view = (x.finding standard (o.first stretch).offer,
      if x.needs && !h.any (·.needs) then (o.first stretch).asked.remember (o.first stretch).offer
      else (o.after h).view)
  /-- The desk is found as the last inquiry left it, but for what has happened meanwhile; what is written to
  cells that were handed out does not matter. -/
  left : ∀ h x later, stretch = h ++ x :: later → (o.after (h ++ [x])).view =
    match x with
    | .inquiry x => (x.make (o.after h).view).2
    | .meanwhile machine log provider =>
      ⟨machine, log, { (o.after h).view.expander with provider := provider }⟩
    | .overwrite _ _ => (o.after h).view
  /-- Of the loading, the journal tells once, if any inquiry needed the custom variables. -/
  noted : o.noted stretch = if stretch.any (·.needs) then (o.first stretch).traces else []
  /-- The provider is consulted at most once. -/
  once : (o.noted stretch).countP Event.isConsultation ≤ 1

/-- In a stretch that begins with a new expander or after a reload and goes on to the next reload, the
provider is asked at most once. -/
theorem asks_once (d : Desk) (before stretch : List Occurrence)
    (start : before = [] ∨ ∃ earlier, before = earlier ++ [.inquiry .reload])
    (lasting : stretch.any (·.isReload) = false)
    (informed : ((initial d).after before).Informed stretch) :
    AskedOnce ((initial d).after before) stretch := by
  have unknown : ((initial d).after before).view.expander.known = none := by
    obtain rfl | ⟨earlier, rfl⟩ := start
    · rfl
    · rw [after, List.foldl_append]
      rfl
  have apart := (apart_initial d).after before
  generalize (initial d).after before = o at unknown apart informed ⊢
  have noted := (apart.loads unknown lasting informed).2
  constructor
  · rintro h x later standard rfl told
    rw [List.any_append, List.any_cons, Bool.or_eq_false_iff, Bool.or_eq_false_iff] at lasting
    exact apart.finds unknown lasting.1 (informed_append.mp informed).1 lasting.2.1 told later
  · rintro h x later rfl
    rw [List.any_append, List.any_cons, Bool.or_eq_false_iff, Bool.or_eq_false_iff] at lasting
    have told := (informed_append.mp informed).2.1
    rw [after, List.foldl_append]
    show ((o.after h).apply x).view = _
    cases x with
    | inquiry x =>
      obtain ⟨standard, told⟩ := Inquiry.exists_standard told
      dsimp only
      rw [(apart.after h).view_inquiry lasting.2.1 told, Inquiry.make_eq lasting.2.1 told]
    | meanwhile machine log provider => rfl
    | overwrite n custom => exact (apart.after h).view_overwrite n custom
  · exact noted
  · rw [noted]
    split
    · exact Desk.countP_traces_le _
    · exact Nat.zero_le 1

/-- A text with a token is expanded while the provider fails, and then the provider knows the department. -/
def locked : List Occurrence :=
  [.inquiry (.expand [] "%dept%"),
    .meanwhile Desk.blank.machine .standard (.given [("dept", "sales")])]

/-- Somebody gets a copy of the custom variables and writes to it, and the department changes. -/
def renamed : List Occurrence :=
  [.inquiry (.expand [] "plain"), .inquiry .copy, .overwrite 2 [("dept", "none")],
    .meanwhile Desk.blank.machine .standard (.given [("dept", "law")]), .inquiry (.expand [] "%dept%")]

/-- The provider is asked once before and once after a reload, and the last text still gets the department
that the provider knew then. -/
theorem asks_once_renamed :
    let d : Desk :=
      { Desk.blank with expander := .new (.failing ⟨"OSError", some "settings locked"⟩) true }
    let o := (initial d).after (locked ++ [.inquiry .reload])
    (AskedOnce (initial d) locked ∧ (initial d).noted locked = [.consulted,
        .logged .warning "Templates" "Failed to load custom variables: settings locked"])
      ∧ (AskedOnce o renamed ∧ o.noted renamed = [.consulted])
      ∧ (o.after renamed).cells = [[], [("dept", "sales")], [("dept", "none")]]
      ∧ ((Inquiry.expand [] "%dept%").make (o.after (renamed.take 4)).view).1 = .text (.ok "sales") := by
  intro d o
  have first : AskedOnce (initial d) locked :=
    asks_once d [] locked (.inl rfl) (by decide) ⟨fun _ => ⟨_, rfl⟩, nofun, trivial⟩
  have second : AskedOnce o renamed :=
    asks_once d (locked ++ [.inquiry .reload]) renamed (.inr ⟨locked, rfl⟩) (by decide)
      ⟨fun looks => absurd looks (by decide), nofun, nofun, nofun, fun _ => ⟨_, rfl⟩, trivial⟩
  refine ⟨⟨first, ?_⟩, ⟨second, ?_⟩, ?_, ?_⟩
  · rw [first.noted]
    rfl
  · rw [second.noted]
    rfl
  · decide +kernel
  · rw [second.found (renamed.take 4) (.expand [] "%dept%") [] _ rfl fun _ => rfl]
    have filled : filling (standardValues Desk.blank.machine.wall "alice" "desk-1") []
        [("dept", "sales")] "%dept%" = "sales" := by decide +kernel
    exact congrArg (fun text => Finding.text (.ok text)) filled

end ExpanderMemory

end Deskwork.Template
