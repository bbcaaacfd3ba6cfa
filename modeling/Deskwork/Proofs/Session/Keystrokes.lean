/-
# Keystrokes

Keys go down and up again. A step that types a text releases every key before it presses the next one,
and a step that presses keys together holds them around each other, as parentheses stand around a text
(`Nested`). So no key stays down, unless a pause fails while keys are held or the driver refuses a key
(`Unhindered`); what is sent then are the first of these strokes. A name that stands for no key keeps the
step from pressing any (`sends_strokes`).
-/
import Deskwork.Proofs.Results
import Deskwork.Proofs.Session.Emissions
import Deskwork.Proofs.Session.Pace

namespace Deskwork

open StepM Deskwork.Text

/-! ## Names -/

/-- The word under which a key stands; for some of them there are other words. -/
def Key.mainWord : String → String
  | "control" => "ctrl"
  | "return" => "enter"
  | "escape" => "esc"
  | "win" => "cmd"
  | "windows" => "cmd"
  | "super" => "cmd"
  | "option" => "alt"
  | "pageup" => "page_up"
  | "pagedown" => "page_down"
  | "del" => "delete"
  | word => word

/-- A name is tidied by taking the blanks around it away, making it lower case, and looking for the main
word. -/
theorem Key.tidy_eq (name : String) : Key.tidy name = mainWord (lower (trim name)) := by
  unfold tidy mainWord
  generalize lower (trim name) = word
  dsimp only
  split
  case h_11 =>
    have other : aliases.lookup word = none := by
      rw [List.lookup_eq_none_iff]
      intro a mem
      simp only [aliases, List.mem_cons, List.not_mem_nil, or_false] at mem
      rcases mem with rfl | rfl | rfl | rfl | rfl | rfl | rfl | rfl | rfl | rfl
      all_goals simp_all
    rw [other, Option.getD_none]
  all_goals rfl

/-- A name stands for a key: for the one that the driver has under its word, or else, when there is only one
character in the word, for the key of this character. -/
inductive KeyDriver.Names (d : KeyDriver) (name : String) : Key → Prop
  | special {key : Key} (h : d.special? (Key.mainWord (lower (trim name))) = some key) : Names d name key
  | character {c : Char} (h : d.special? (Key.mainWord (lower (trim name))) = none)
    (alone : (Key.mainWord (lower (trim name))).toList = [c]) : Names d name (.character c)

namespace KeyDriver

variable {d : KeyDriver} {name : String}

theorem keyOf_eq_ok_iff {key : Key} : d.keyOf name = .ok key ↔ d.Names name key := by
  unfold keyOf
  rw [Key.tidy_eq]
  constructor
  · intro found
    dsimp only at found
    split at found
    · next known =>
      cases found
      exact .special known
    · next unknown =>
      split at found
      · next alone =>
        cases found
        exact .character unknown alone
      · cases found
  · rintro (known | ⟨unknown, alone⟩)
    · dsimp only
      rw [known]
    · dsimp only
      rw [unknown, alone]

/-- The empty name stands for no key. -/
theorem not_names_empty (key : Key) : ¬ d.Names "" key := by
  rintro (known | ⟨-, alone⟩)
  · have unknown : d.special? (Key.mainWord (lower (trim ""))) = none := d.special?_empty
    rw [unknown] at known
    cases known
  · cases alone

/-- The keys that some names stand for. -/
def NamesAll (d : KeyDriver) (names : List String) (keys : List Key) : Prop :=
  List.Forall₂ d.Names names keys

theorem mapM_keyOf_eq_ok_iff {names : List String} {keys : List Key} :
    names.mapM d.keyOf = .ok keys ↔ d.NamesAll names keys := by
  rw [mapM_eq_ok_iff]
  exact ⟨fun h => h.imp fun _ _ => keyOf_eq_ok_iff.mp, fun h => h.imp fun _ _ => keyOf_eq_ok_iff.mpr⟩

/-- Each of the names stands for a key. -/
theorem NamesAll.exists_of_mem {names : List String} {keys : List Key} (h : d.NamesAll names keys)
    (mem : name ∈ names) : ∃ key, d.Names name key := by
  have both := h.imp fun (name : String) key found =>
    (⟨⟨key, found⟩, found⟩ : (∃ key, d.Names name key) ∧ d.Names name key)
  exact ((List.forall₂_and_left _ _).mp both).1 name mem

/-- Each of the keys has a name. -/
theorem NamesAll.exists_name_of_mem {names : List String} {keys : List Key} (h : d.NamesAll names keys)
    {key : Key} (mem : key ∈ keys) : ∃ name ∈ names, d.Names name key := by
  induction h with
  | nil => cases mem
  | cons found rest ih =>
    rcases List.mem_cons.mp mem with rfl | mem
    · exact ⟨_, List.mem_cons_self, found⟩
    · obtain ⟨name, there, found⟩ := ih mem
      exact ⟨name, List.mem_cons_of_mem _ there, found⟩

/-- Names do not stand for other keys. -/
theorem NamesAll.unique {names : List String} {keys keys' : List Key} (h : d.NamesAll names keys)
    (h' : d.NamesAll names keys') : keys = keys' :=
  Except.ok.inj ((mapM_keyOf_eq_ok_iff.mpr h).symm.trans (mapM_keyOf_eq_ok_iff.mpr h'))

/-- The driver presses and releases the key. -/
def Takes (d : KeyDriver) (key : Key) : Prop := d.pressFault? key = none ∧ d.releaseFault? key = none

end KeyDriver

/-! ## Strokes -/

/-- The event is a key that goes down or up. -/
def Event.isStroke : Event → Bool
  | .pressed _ | .released _ => true
  | _ => false

theorem outward_isStroke : Outward Event.isStroke where
  noTalk := by
    intro e h
    cases e with
    | pressed => rfl
    | released => rfl
    | _ => cases h
  noPause _ := ⟨rfl, rfl⟩

/-- Every key that goes down goes up again, and those that go down in between go up before it. -/
inductive Nested : List Event → Prop
  /-- Nothing happens. -/
  | nil : Nested []
  /-- A key is held, and then the rest follows. -/
  | held (key : Key) {inner rest : List Event} (h : Nested inner) (h' : Nested rest) :
    Nested (.pressed key :: (inner ++ .released key :: rest))

theorem Nested.append {es es' : List Event} (h : Nested es) (h' : Nested es') :
    Nested (es ++ es') := by
  induction h with
  | nil => exact h'
  | held key inside _ _ ih =>
    rw [List.cons_append, List.append_assoc, List.cons_append]
    exact .held key inside ih

/-- A key pressed and released. -/
theorem nested_tap (key : Key) : Nested [.pressed key, .released key] := .held key .nil .nil

/-- How often a key goes down. -/
def downs (key : Key) (es : List Event) : Nat :=
  es.countP fun | .pressed k => k = key | _ => false

/-- How often a key goes up. -/
def ups (key : Key) (es : List Event) : Nat :=
  es.countP fun | .released k => k = key | _ => false

/-- Every key goes up as often as it goes down. -/
theorem Nested.settled {es : List Event} (h : Nested es) (key : Key) : downs key es = ups key es := by
  induction h with
  | nil => rfl
  | held k _ _ inner rest =>
    simp only [downs, ups] at inner rest ⊢
    simp only [List.countP_cons, List.countP_append, inner, rest]
    simp only [decide_eq_true_eq, Bool.false_eq_true, if_false]
    omega

/-- Keys that go down one after the other and up in reverse order. -/
def struck (keys : List Key) : List Event := keys.map .pressed ++ keys.reverse.map .released

theorem struck_cons (key : Key) (keys : List Key) :
    struck (key :: keys) = .pressed key :: (struck keys ++ [.released key]) := by
  simp [struck]

theorem nested_struck (keys : List Key) : Nested (struck keys) := by
  induction keys with
  | nil => exact .nil
  | cons key keys ih =>
    rw [struck_cons]
    exact .held key ih .nil

/-! ## Keys pressed together -/

namespace Keyboard

/-- The names of the keys that are held while the key is pressed, when keys are pressed: a single key is
pressed alone, whatever other keys are named. -/
def holding (k : Keyboard) : Option (List String) :=
  match k.mode with
  | .typeText => none
  | .pressKey => some []
  | .hotkey => k.modifiers

/-- The names of the keys that go down, in order. -/
def going (k : Keyboard) : Option (List String) := k.holding.map (· ++ [k.key])

/-- The pauses while keys are pressed together, one after the other. -/
def pauses (k : Keyboard) : StepM Unit := do
  let names := k.holding.getD []
  names.forM fun _ => StepM.sleep 0.01
  StepM.sleepMillis k.delay
  names.forM fun _ => StepM.sleep 0.01
  StepM.sleep 0.05

/-- Unless the driver refuses it, a key goes down. -/
theorem delivers_sendDown (d : KeyDriver) (key : Key) :
    Delivers Event.isStroke [.pressed key] (sendDown d key) := by
  unfold sendDown
  split
  · exact delivers_throw _
  · exact delivers_happen rfl

/-- Unless the driver refuses it, a key goes up. -/
theorem delivers_sendUp (d : KeyDriver) (key : Key) :
    Delivers Event.isStroke [.released key] (sendUp d key) := by
  unfold sendUp
  split
  · exact delivers_throw _
  · exact delivers_happen rfl

theorem sendDown_eq {d : KeyDriver} {key : Key} (h : d.pressFault? key = none) :
    sendDown d key = happen (.pressed key) := by
  rw [sendDown, h]

theorem sendUp_eq {d : KeyDriver} {key : Key} (h : d.releaseFault? key = none) :
    sendUp d key = happen (.released key) := by
  rw [sendUp, h]

theorem delivers_press (d : KeyDriver) (key : Key) :
    Delivers Event.isStroke [.pressed key] (press d key) :=
  (delivers_sendDown d key).bind fun _ => (mute_sleep outward_isStroke _).delivers

theorem delivers_release (d : KeyDriver) (key : Key) :
    Delivers Event.isStroke [.released key] (release d key) :=
  (delivers_sendUp d key).bind fun _ => (mute_sleep outward_isStroke _).delivers

/-- Keys that are pressed together go down one after the other and up in reverse order. -/
theorem delivers_strike (d : KeyDriver) (delay : Int) (held : List Key) (main : Key) :
    Delivers Event.isStroke (struck (held ++ [main])) (strike d delay held main) := by
  have parts : struck (held ++ [main]) = held.map .pressed ++ ([.pressed main]
      ++ ([] ++ ([.released main] ++ (held.reverse.map .released ++ [])))) := by
    simp [struck]
  rw [parts]
  refine (delivers_forM (delivers_press d) held).bind fun _ => (delivers_sendDown d main).bind fun _ => ?_
  refine (mute_sleepMillis outward_isStroke delay).delivers.bind fun _ => ?_
  refine (delivers_sendUp d main).bind fun _ => ?_
  exact (delivers_forM (delivers_release d) held.reverse).bind fun _ =>
    (mute_sleep outward_isStroke _).delivers

/-- Keys that the driver takes, pressed together, keep pace with the pauses alone. -/
theorem paced_strike (k : Keyboard) {names : List String} (h : k.holding = some names) {d : KeyDriver}
    {held : List Key} (same : held.length = names.length) {main : Key}
    (taken : ∀ key ∈ held ++ [main], d.Takes key) : Paced (strike d k.delay held main) k.pauses := by
  obtain ⟨others, last⟩ := List.forall_mem_append.mp taken
  obtain ⟨down, up⟩ := last main (List.mem_singleton_self main)
  have again : held.reverse.length = names.length := List.length_reverse.trans same
  have presses (key : Key) (mem : key ∈ held) (_ : String) : Paced (press d key) (StepM.sleep 0.01) := by
    rw [press, sendDown_eq (others key mem).1]
    exact paced_happen (paced_sleep _)
  have releases (key : Key) (mem : key ∈ held.reverse) (_ : String) :
      Paced (release d key) (StepM.sleep 0.01) := by
    rw [release, sendUp_eq (others key (List.mem_reverse.mp mem)).2]
    exact paced_happen (paced_sleep _)
  unfold pauses strike
  rw [h, sendDown_eq down, sendUp_eq up]
  refine alike_bind (paced_forM presses same) fun _ => ?_
  refine paced_happen (alike_bind (paced_sleepMillis _) fun _ => paced_happen ?_)
  exact alike_bind (paced_forM releases again) fun _ => paced_sleep _

/-- All names are resolved, one after the other. -/
theorem mapM_keyOf (d : KeyDriver) (names : List String) (key : String) :
    (names ++ [key]).mapM d.keyOf = (resolve d names key).map fun r => r.1 ++ [r.2] := by
  unfold resolve
  rw [List.mapM_append]
  cases names.mapM d.keyOf with
  | error f => rfl
  | ok held => cases h : d.keyOf key <;> simp [h, bind, Except.bind, pure, Except.pure, Except.map]

/-- The keys pressed together on a machine, once this was logged. -/
def pressOn (k : Keyboard) (names : List String) (machine : Machine) : StepM Unit :=
  match machine.input with
  | .missing =>
    match machine.substitute.substituteFault with
    | some why => throw (.failed (.noHotkey why))
    | none => StepM.happen (.chord (names.map lower ++ [lower k.key]))
  | .broken => throw (.foreign brokenInput)
  | .working =>
    match resolve machine.driver names k.key with
    | .error f => throw f
    | .ok (held, main) => strike machine.driver k.delay held main

theorem pressKeys_eq (k : Keyboard) (names : List String) :
    k.pressKeys names = StepM.info ("key: " ++ together names k.key) >>= fun _ =>
      get >>= fun s => k.pressOn names s.desk.machine := rfl

/-- No key is pressed where the input does not work, nor when some name does not stand for a key. -/
theorem mute_pressOn (k : Keyboard) {names : List String} {machine : Machine}
    (h : machine.input = .working → ∀ held main, resolve machine.driver names k.key ≠ .ok (held, main)) :
    Mute Event.isStroke (k.pressOn names machine) := by
  unfold pressOn
  split
  · split
    · exact mute_throw _
    · exact mute_happen rfl
  · exact mute_throw _
  · next working =>
    split
    · exact mute_throw _
    · next held main resolved => exact absurd resolved (h working held main)

/-- Otherwise the keys are struck. -/
theorem pressOn_eq (k : Keyboard) {names : List String} {machine : Machine}
    (working : machine.input = .working) {held : List Key} {main : Key}
    (resolved : resolve machine.driver names k.key = .ok (held, main)) :
    k.pressOn names machine = strike machine.driver k.delay held main := by
  unfold pressOn
  rw [working, resolved]

/-- Nothing keeps a step of the keyboard from coming to its end: no pause fails while keys are held, and the
driver refuses no key that it is asked for. A character that cannot be pressed need not be released. -/
structure Unhindered (k : Keyboard) (s : Session) : Prop where
  typed : k.mode = .typeText → ∀ c ∈ k.text.toList,
    s.desk.machine.driver.pressFault? (.character c) = none →
      s.desk.machine.driver.releaseFault? (.character c) = none
  paused : k.mode ≠ .typeText → (runIn s k.pauses).1 = .ok ()
  taken : ∀ names name key, k.going = some names → name ∈ names →
    s.desk.machine.driver.Names name key → s.desk.machine.driver.Takes key

/-- What a step of the keyboard does to the keys, when it sends just these strokes. -/
structure Strokes (k : Keyboard) (s : Session) (sent : List Event) : Prop where
  /-- If nothing hinders the step, keys are held around each other. -/
  nested : k.Unhindered s → Nested sent
  /-- No key is pressed when some name does not stand for a key. -/
  refused : ∀ names name, k.going = some names → name ∈ names →
    (∀ key, ¬ s.desk.machine.driver.Names name key) → sent = []
  /-- Keys that are pressed together go down in order and up in reverse order. -/
  struck : ∀ names keys, k.going = some names → s.desk.machine.input = .working →
    s.desk.machine.driver.NamesAll names keys → k.Unhindered s → sent = struck keys
  /-- Even when something hinders the step, it only leaves out the last of these strokes. -/
  begun : ∀ names keys, k.going = some names → s.desk.machine.driver.NamesAll names keys →
    sent <+: Deskwork.struck keys

/-- A step that presses no key at all. -/
theorem strokes_nil {k : Keyboard} {s : Session} (h : ∀ names keys, k.going = some names →
    s.desk.machine.input = .working → ¬ s.desk.machine.driver.NamesAll names keys) : Strokes k s [] where
  nested _ := .nil
  refused _ _ _ _ _ := rfl
  struck names keys going working found _ := absurd found (h names keys going working)
  begun _ _ _ _ := List.nil_prefix

/-- A step that presses no keys together may only leave none down. -/
theorem strokes_of_nested {k : Keyboard} {s : Session} {sent : List Event} (h : k.going = none)
    (nested : k.Unhindered s → Nested sent) : Strokes k s sent where
  nested := nested
  refused _ _ going := nomatch h.symm.trans going
  struck _ _ going := nomatch h.symm.trans going
  begun _ _ going := nomatch h.symm.trans going

theorem mode_of_holding {k : Keyboard} {names : List String} (h : k.holding = some names) :
    k.mode ≠ .typeText := by
  unfold holding at h
  intro typing
  rw [typing] at h
  cases h

/-- After an entry of its step, the input and the keys of the machine are as before. -/
theorem devices_told (s : Session) (message : String) :
    (s.told message).desk.machine.input = s.desk.machine.input
      ∧ (s.told message).desk.machine.driver = s.desk.machine.driver := by
  have pace := s.pace_told message
  exact ⟨congrArg (·.2.input) pace, congrArg (·.2.driver) pace⟩

theorem going_of_holding {k : Keyboard} {names : List String} (h : k.holding = some names) :
    k.going = some (names ++ [k.key]) := by
  unfold going
  rw [h, Option.map_some]

/-- Keys that were resolved send what is said of the strokes when they are struck at the pace of the step. -/
theorem strokes_strike (k : Keyboard) {names : List String} (h : k.holding = some names)
    {s t : Session} (pace : t.pace = s.pace) {held : List Key} {main : Key}
    (resolved : resolve s.desk.machine.driver names k.key = .ok (held, main)) :
    ∃ sent, (runIn t (strike s.desk.machine.driver k.delay held main)).2.desk.sent Event.isStroke
      = t.desk.sent Event.isStroke ++ sent ∧ Strokes k s sent := by
  have going := going_of_holding h
  have named : (names ++ [k.key]).mapM s.desk.machine.driver.keyOf = .ok (held ++ [main]) := by
    rw [mapM_keyOf, resolved]
    rfl
  have found := KeyDriver.mapM_keyOf_eq_ok_iff.mp named
  have same : held.length = names.length := by
    simpa using found.length_eq.symm
  obtain ⟨sent, strokes, first, whole⟩ := delivers_strike s.desk.machine.driver k.delay held main t
  have ended (unhindered : k.Unhindered s) : sent = struck (held ++ [main]) := by
    have taken : ∀ key ∈ held ++ [main], s.desk.machine.driver.Takes key := by
      intro key mem
      obtain ⟨name, there, found⟩ := found.exists_name_of_mem mem
      exact unhindered.taken _ name key going there found
    refine whole () ?_
    rw [(k.paced_strike h same taken t s pace).1, unhindered.paused (mode_of_holding h)]
  refine ⟨sent, strokes, ?_, ?_, ?_, ?_⟩
  · intro unhindered
    rw [ended unhindered]
    exact nested_struck _
  · intro names' name going' mem unknown
    cases going.symm.trans going'
    obtain ⟨key, known⟩ := found.exists_of_mem mem
    exact absurd known (unknown key)
  · intro names' keys going' _ found' unhindered
    cases going.symm.trans going'
    rw [ended unhindered, found.unique found']
  · intro names' keys going' found'
    cases going.symm.trans going'
    rw [← found.unique found']
    exact first

/-- A program that presses keys sends what is said of the strokes. -/
theorem strokes_pressKeys (k : Keyboard) {names : List String} (h : k.holding = some names)
    (s : Session) : ∃ sent, (runIn s (k.pressKeys names)).2.desk.sent Event.isStroke
      = s.desk.sent Event.isStroke ++ sent ∧ Strokes k s sent := by
  have pace := s.pace_told ("key: " ++ together names k.key)
  obtain ⟨input, driver⟩ := devices_told s ("key: " ++ together names k.key)
  rw [pressKeys_eq, runIn_told, ← s.sent_told ("key: " ++ together names k.key) outward_isStroke]
  generalize s.told ("key: " ++ together names k.key) = t at pace input driver ⊢
  by_cases resolved : t.desk.machine.input = .working ∧
      ∃ held main, resolve t.desk.machine.driver names k.key = .ok (held, main)
  · obtain ⟨working, held, main, resolved⟩ := resolved
    rw [k.pressOn_eq working resolved, driver]
    rw [driver] at resolved
    exact k.strokes_strike h pace resolved
  · have refused (working : t.desk.machine.input = .working) (held main) :
        resolve t.desk.machine.driver names k.key ≠ .ok (held, main) :=
      fun found => resolved ⟨working, held, main, found⟩
    have silent := (k.mute_pressOn refused).sent t
    refine ⟨[], by rw [silent, List.append_nil], strokes_nil ?_⟩
    intro names' keys going working found
    cases (going_of_holding h).symm.trans going
    have named := KeyDriver.mapM_keyOf_eq_ok_iff.mpr found
    rw [mapM_keyOf, ← driver] at named
    obtain ⟨⟨held, main⟩, found, -⟩ := map_eq_ok_iff.mp named
    exact resolved ⟨input.trans working, held, main, found⟩

/-! ## Texts -/

/-- Whatever the program comes to, it leaves no key down, as long as something is the case. -/
def Lifts (free : Prop) (x : StepM Unit) : Prop := Sends Event.isStroke (fun _ es => free → Nested es) x

theorem lifts_of_mute {free : Prop} {x : StepM Unit} (h : Mute Event.isStroke x) : Lifts free x :=
  h.mono fun _ _ none _ => none ▸ .nil

/-- The key of a character goes up before anything else is done, unless the driver presses it and does not
release it. -/
theorem lifts_tap {free : Prop} {d : KeyDriver} (delay : Int) {c : Char}
    (h : free → d.pressFault? (.character c) = none → d.releaseFault? (.character c) = none) :
    Lifts free (tap d delay c) := by
  unfold tap
  cases pressed : d.pressFault? (.character c) with
  | some why =>
    rw [sendDown, pressed]
    exact lifts_of_mute (mute_throw (.foreign why))
  | none =>
    rw [sendDown_eq pressed]
    refine (sends_happen rfl).bind (fun _ _ h => nomatch h.1) fun _ es first => ?_
    obtain ⟨-, rfl⟩ := first
    cases released : d.releaseFault? (.character c) with
    | some why =>
      rw [sendUp, released]
      refine (mute_throw (.foreign why)).mono fun _ _ _ keep => ?_
      rw [h keep pressed] at released
      cases released
    | none =>
      rw [sendUp_eq released]
      refine (sends_happen rfl).bind (fun _ _ h => nomatch h.1) fun _ es second => ?_
      obtain ⟨-, rfl⟩ := second
      refine (mute_sleepMillis outward_isStroke delay).mono fun _ _ none _ => ?_
      subst none
      exact nested_tap _

/-- The driver releases each character of the text that it presses. -/
def Free (k : Keyboard) (d : KeyDriver) : Prop :=
  ∀ c ∈ k.text.toList, d.pressFault? (.character c) = none → d.releaseFault? (.character c) = none

/-- Characters are typed one after the other. -/
theorem lifts_typeByKeys (k : Keyboard) (machine : Machine) :
    Lifts (k.Free machine.driver) (k.typeByKeys machine) := by
  unfold typeByKeys
  split
  · exact lifts_of_mute (mute_throw _)
  · exact lifts_of_mute (mute_throw _)
  · have typed : Lifts (k.Free machine.driver) (k.text.toList.forM (tap machine.driver k.delay)) := by
      refine sends_forM (C := fun es => k.Free machine.driver → Nested es) (fun _ => .nil)
        (fun h h' free => (h free).append (h' free)) fun c mem => ?_
      exact lifts_tap k.delay fun free => free c mem
    refine typed.bind (fun _ _ h => h) fun _ es nested => ?_
    refine (mute_sleep outward_isStroke _).mono fun _ _ none => ?_
    rw [none, List.append_nil]
    exact nested

/-- The text typed on a machine, once this was logged. -/
def typeOn (k : Keyboard) (machine : Machine) : StepM Unit :=
  if machine.hasWindows then
    match k.typingPause with
    | .error f => throw f
    | .ok pause =>
      if machine.typing = .working then
        StepM.happen (.typed k.text (if 0.0 < pause then pause else 0.0)) >>= fun _ => StepM.sleep 0.1
      else
        StepM.warn "pywinauto send_keys failed: pywinauto broken" >>= fun _ => k.typeByKeys machine
  else k.typeByKeys machine

theorem typeText_eq (k : Keyboard) :
    k.typeText = StepM.info ("type_text: " ++ k.text) >>= fun _ =>
      get >>= fun s => k.typeOn s.desk.machine := rfl

theorem lifts_typeOn (k : Keyboard) (machine : Machine) :
    Lifts (k.Free machine.driver) (k.typeOn machine) := by
  unfold typeOn
  split
  · split
    · exact lifts_of_mute (mute_throw _)
    · split
      · exact lifts_of_mute ((mute_happen rfl).before (fun _ => rfl) fun _ =>
          mute_sleep outward_isStroke _)
      · exact (mute_warn outward_isStroke _).before (fun _ _ => .nil) fun _ => k.lifts_typeByKeys machine
  · exact k.lifts_typeByKeys machine

/-- A program that types a text leaves no key down, if the driver releases each character that it presses. -/
theorem nested_typeText (k : Keyboard) (s : Session) :
    ∃ sent, (runIn s k.typeText).2.desk.sent Event.isStroke = s.desk.sent Event.isStroke ++ sent
      ∧ (k.Free s.desk.machine.driver → Nested sent) := by
  obtain ⟨-, driver⟩ := devices_told s ("type_text: " ++ k.text)
  rw [typeText_eq, runIn_told, ← driver, ← s.sent_told ("type_text: " ++ k.text) outward_isStroke]
  exact k.lifts_typeOn _ _

/-! ## Steps -/

/-- What the body of the step sends is what is said of the strokes. -/
theorem strokes_run (k : Keyboard) (s : Session) :
    ∃ sent, (runIn s k.run).2.desk.sent Event.isStroke = s.desk.sent Event.isStroke ++ sent
      ∧ Strokes k s sent := by
  unfold run
  split
  · next typing =>
    obtain ⟨sent, strokes, nested⟩ := k.nested_typeText s
    refine ⟨sent, strokes, strokes_of_nested (by unfold going holding; rw [typing]; rfl) ?_⟩
    intro unhindered
    exact nested (unhindered.typed typing)
  · next single => exact k.strokes_pressKeys (by unfold holding; rw [single]) s
  · next together =>
    have all : k.holding = k.modifiers := by
      unfold holding
      rw [together]
    unfold held
    cases names : k.modifiers with
    | none =>
      refine ⟨[], (List.append_nil _).symm, strokes_of_nested ?_ fun _ => .nil⟩
      unfold going
      rw [all, names]
      rfl
    | some names' => exact k.strokes_pressKeys (all.trans names) s

/-- The pauses take the same course at the same pace. -/
theorem paced_pauses (k : Keyboard) : Paced k.pauses k.pauses := by
  unfold pauses
  refine alike_bind (paced_forM (fun _ _ _ => paced_sleep _) rfl) fun _ => ?_
  refine alike_bind (paced_sleepMillis _) fun _ => ?_
  exact alike_bind (paced_forM (fun _ _ _ => paced_sleep _) rfl) fun _ => paced_sleep _

/-- A step all of whose names stand for keys passes its check. -/
theorem check_of_namesAll {k : Keyboard} {d : KeyDriver} {names : List String} {keys : List Key}
    (going : k.going = some names) (found : d.NamesAll names keys) : k.check = .ok () := by
  obtain ⟨held, holding, rfl⟩ := Option.map_eq_some_iff.mp going
  obtain ⟨key, known⟩ := found.exists_of_mem (List.mem_append_right held (List.mem_singleton_self k.key))
  have proper : k.key.isEmpty = false := by
    refine Bool.eq_false_iff.mpr fun empty => ?_
    rw [String.isEmpty_iff.mp empty] at known
    exact KeyDriver.not_names_empty key known
  unfold check
  rw [if_neg (mode_of_holding holding), proper]
  rfl

/-- What hinders a step depends on the pace only. -/
theorem unhindered_congr {k : Keyboard} {s t : Session} (pace : s.pace = t.pace)
    (h : k.Unhindered t) : k.Unhindered s := by
  have driver : s.desk.machine.driver = t.desk.machine.driver := congrArg (·.2.driver) pace
  refine ⟨?_, fun pressing => ?_, ?_⟩
  · rw [driver]
    exact h.typed
  · rw [(k.paced_pauses s t pace).1]
    exact h.paused pressing
  · rw [driver]
    exact h.taken

/-- Whichever way the step is carried out, whatever input there is, and whichever names the driver knows: no
key stays down unless something hinders the step; no key is pressed when some name does not stand for a key;
otherwise keys that are pressed together go down in order and up in reverse order. -/
theorem sends_strokes (k : Keyboard) (s : Session) {way : StepM Bool}
    (h : way ∈ (Work.action (.keyboard k)).ways) :
    ∃ sent, (runIn s way).2.desk.sent Event.isStroke = s.desk.sent Event.isStroke ++ sent
      ∧ Strokes k s sent ∧ (k.Unhindered s → ∀ key, downs key sent = ups key sent) := by
  suffices course : ∃ sent, (runIn s way).2.desk.sent Event.isStroke
      = s.desk.sent Event.isStroke ++ sent ∧ Strokes k s sent by
    obtain ⟨sent, strokes, course⟩ := course
    exact ⟨sent, strokes, course, fun unhindered key => (course.nested unhindered).settled key⟩
  rcases sent_of_mem_ways outward_isStroke h s with body | ⟨wrong, nothing⟩
  · obtain ⟨sent, strokes, course⟩ := k.strokes_run (begun s)
    have same : k.Unhindered s → k.Unhindered (begun s) :=
      unhindered_congr (show (begun s).pace = s.pace from rfl)
    refine ⟨sent, body.trans strokes, fun unhindered => ?_, course.refused, ?_, course.begun⟩
    · exact course.nested (same unhindered)
    · intro names keys going working found unhindered
      exact course.struck names keys going working found (same unhindered)
  · refine ⟨[], nothing.trans (List.append_nil _).symm, strokes_nil ?_⟩
    intro names keys going _ found
    exact wrong (check_of_namesAll going found)

/-- The key a, pressed alone although another key is named. -/
def loneKey : Keyboard := ⟨.pressKey, "", "a", some ["ctrl"], 10⟩

/-- Two keys, of which the second one has a name but cannot be pressed. -/
def strayKey : Keyboard := ⟨.hotkey, "", "mro", some ["ctrl"], 10⟩

/-- A driver that has, beside the keys of a common keyboard, something under the word of the stray key that
is no key. -/
def strayDriver : KeyDriver where
  special? word := if word = "mro" then some (.special word) else KeyDriver.common.special? word
  pressFault? key := if key = .special "mro" then some ⟨"InvalidKeyException", none⟩ else none
  releaseFault? _ := none
  special?_empty := rfl

/-- A desk with this driver. -/
def strayDesk : Desk := { Desk.blank with machine := { Desk.blank.machine with driver := strayDriver } }

/-- A single key is pressed alone, whatever other keys are named; and a key that is held stays down when
the driver refuses the next one. -/
theorem presses_loneKey_alone :
    (let s := Session.first true .blank
      let sent := (runIn s (execute loneKey.run)).2.desk.sent Event.isStroke
      s.desk.machine.input = .working
        ∧ s.desk.machine.driver.NamesAll ["ctrl", "a"] [.special "ctrl", .character 'a']
        ∧ (runIn s (execute loneKey.run)).1 = .ok true
        ∧ sent = struck [.character 'a'] ∧ sent ≠ struck [.special "ctrl", .character 'a'])
      ∧ (let s := Session.first true strayDesk
        let sent := (runIn s (execute strayKey.run)).2.desk.sent Event.isStroke
        s.desk.machine.driver.NamesAll ["ctrl", "mro"] [.special "ctrl", .special "mro"]
          ∧ (runIn s strayKey.pauses).1 = .ok ()
          ∧ sent = [.pressed (.special "ctrl")] ∧ ¬ Nested sent) := by
  have names (d : KeyDriver) (names : List String) (keys : List Key)
      (h : names.mapM d.keyOf = .ok keys) : d.NamesAll names keys := KeyDriver.mapM_keyOf_eq_ok_iff.mp h
  constructor
  · intro s sent
    have strokes : sent = struck [.character 'a'] := rfl
    refine ⟨rfl, names _ _ _ rfl, by decide +kernel, strokes, ?_⟩
    rw [strokes]
    nofun
  · intro s sent
    have strokes : sent = [.pressed (.special "ctrl")] := rfl
    refine ⟨names _ _ _ rfl, by decide +kernel, strokes, ?_⟩
    intro nested
    have settled := nested.settled (.special "ctrl")
    rw [strokes] at settled
    revert settled
    decide

/-- A key pressed while two others are held. -/
def shortcut : Keyboard := ⟨.hotkey, "", "Del", some ["control", " Shift"], 20⟩

/-- The names are tidied, and the keys are held around each other. -/
theorem sends_strokes_shortcut :
    let s := Session.first true .blank
    let way := Engine.guarded (.action (.keyboard shortcut))
    way ∈ (Work.action (.keyboard shortcut)).ways ∧ shortcut.Unhindered s
      ∧ (runIn s way).2.desk.sent Event.isStroke
        = struck [.special "ctrl", .special "shift", .special "delete"] := by
  intro s way
  have mem : way ∈ (Work.action (.keyboard shortcut)).ways := by simp [Work.ways, way]
  have named : s.desk.machine.driver.NamesAll ["control", " Shift", "Del"]
      [.special "ctrl", .special "shift", .special "delete"] :=
    KeyDriver.mapM_keyOf_eq_ok_iff.mp rfl
  have unhindered : shortcut.Unhindered s := by
    refine ⟨fun typing => absurd typing (by decide), fun _ => by decide +kernel, ?_⟩
    intro _ _ _ _ _ _
    exact ⟨rfl, rfl⟩
  obtain ⟨sent, strokes, course, -⟩ := sends_strokes shortcut s mem
  refine ⟨mem, unhindered, ?_⟩
  rw [strokes, course.struck ["control", " Shift", "Del"] _ rfl rfl named unhindered]
  rfl

end Keyboard

end Deskwork
