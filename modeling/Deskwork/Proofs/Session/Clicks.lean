/-
# Clicks

A click is sent in a first way and, when that is missing or anything in it fails, by a substitute. The
pause after the click counts as a part of the first way: when it fails, the click was sent already, and the
substitute sends it again. So, whatever takes care of pauses, a step sends at most two clicks, and it
sends two when both ways work and the pause after the click fails (`sends_clicks`).
-/
import Deskwork.Proofs.Session.Emissions

namespace Deskwork

open StepM Number

/-- The event is a click. -/
def Event.isClick : Event → Bool
  | .clicked .. | .clickedAt .. => true
  | _ => false

theorem outward_isClick : Outward Event.isClick where
  noTalk := by
    intro e h
    cases e with
    | clicked => rfl
    | clickedAt => rfl
    | _ => cases h
  noPause _ := ⟨rfl, rfl⟩

/-! ## Pauses that are taken care of -/

namespace StepM

/-- A pause that `care` takes care of, unless the amount is not positive. -/
def rest (care : Amount → StepM Unit) (seconds : Amount) : StepM Unit := do
  changeContext id
  if seconds.isPositive then care seconds

/-- A pause of some milliseconds that `care` takes care of. -/
def restMillis (care : Amount → StepM Unit) (ms : Int) : StepM Unit := do
  changeContext id
  match Context.secondsOfMillis (.whole ms) with
  | .ok seconds => rest care seconds
  | .error f => throw f

/-- What the context does about pauses: someone else is told, or the machine sits them out. -/
def ownCare (seconds : Amount) : StepM Unit :=
  pauseWith fun c d =>
    if c.hooked then (.ok (), d.record (.paused seconds))
    else
      let (r, m) := d.machine.sleep seconds
      (r, { d with machine := m })

/-- Programs that run in the same way are the same. -/
theorem eq_of_runIn {x y : StepM Unit} (h : ∀ s, runIn s x = runIn s y) : x = y := funext h

/-- The context takes care of a pause. -/
theorem runIn_rest_ownCare (s : Session) (seconds : Amount) :
    runIn s (rest ownCare seconds) = ((s.context.sleep s.desk seconds).1,
      { s with desk := (s.context.sleep s.desk seconds).2, inUse := true }) := by
  unfold rest Context.sleep
  rw [runIn_bind]
  show runIn { s with inUse := true } _ = _
  cases seconds.isPositive with
  | false => rfl
  | true =>
    rw [if_pos rfl]
    unfold ownCare
    rw [runIn_pauseWith]
    rfl

theorem sleep_eq_rest (seconds : Float) : sleep seconds = rest ownCare (.real seconds) := by
  refine eq_of_runIn fun s => ?_
  unfold sleep
  rw [runIn_pauseWith, runIn_rest_ownCare]

theorem sleepMillis_eq_restMillis (ms : Int) : sleepMillis ms = restMillis ownCare ms := by
  refine eq_of_runIn fun s => ?_
  unfold sleepMillis restMillis Context.sleepMillis
  rw [runIn_pauseWith, runIn_bind]
  show _ = runIn { s with inUse := true } _
  cases Context.secondsOfMillis (.whole ms) with
  | ok seconds => exact (runIn_rest_ownCare { s with inUse := true } seconds).symm
  | error f => rfl

end StepM

namespace MouseClick

variable (m : MouseClick) (care : Amount → StepM Unit)

/-- The click sent in the first way, with a pause before. -/
def hit : StepM Unit := do
  StepM.happen (.pointed m.x m.y)
  rest care (.real 0.05)
  StepM.happen (.clicked m.click.button m.click.count)

/-- The click sent in the first way, with pauses before and afterwards. -/
def sendBy (input : Availability) : StepM Unit := do
  if input = .broken then throw (.foreign brokenInput)
  m.hit care
  restMillis care m.delay

/-- The click sent by the substitute, with a pause afterwards. -/
def substituteBy (substitute : Availability) : StepM Unit := do
  match substitute.substituteFault with
  | some why => throw (.failed (.noClick why))
  | none => StepM.happen (.clickedAt m.x m.y m.click.count m.click.button)
  restMillis care m.delay

/-- What is logged about the click. -/
def announcement : String :=
  "mouse_click: x=" ++ intText m.x ++ ", y=" ++ intText m.y ++ ", button=" ++ m.click.word

/-- The click sent in the first way, and else by the substitute. -/
def sendOrSubstitute (input substitute : Availability) : StepM Unit := do
  if input = .missing then m.substituteBy care substitute
  else
    try m.sendBy care input
    catch f =>
      StepM.warn ("pynput mouse_click failed, fallback to pyautogui: " ++ f.message)
      m.substituteBy care substitute

/-- The click sent, when `care` takes care of pauses. -/
def runBy : StepM Unit := do
  StepM.info m.announcement
  let machine := (← get).desk.machine
  m.sendOrSubstitute care machine.input machine.substitute

theorem send_eq_sendBy (input : Availability) : m.send input = m.sendBy ownCare input := by
  unfold send sendBy hit
  simp only [sleep_eq_rest, sleepMillis_eq_restMillis, bind_assoc]

theorem sendBySubstitute_eq_substituteBy (substitute : Availability) :
    m.sendBySubstitute substitute = m.substituteBy ownCare substitute := by
  unfold sendBySubstitute
  rw [sleepMillis_eq_restMillis]
  rfl

/-- In a step, the context takes care of pauses. -/
theorem run_eq_runBy : m.run = m.runBy ownCare := by
  unfold run runBy sendOrSubstitute announcement
  simp only [send_eq_sendBy, sendBySubstitute_eq_substituteBy]

/-! ## How often a click is sent -/

section

variable {m care} (mute : ∀ a, Mute Event.isClick (care a))

include mute

theorem mute_rest (seconds : Amount) : Mute Event.isClick (rest care seconds) := by
  refine (mute_of_sent fun _ => rfl : Mute _ (changeContext id)).before (fun _ => rfl) fun _ => ?_
  split
  · exact mute seconds
  · exact mute_pure _

theorem mute_restMillis (ms : Int) : Mute Event.isClick (restMillis care ms) := by
  refine (mute_of_sent fun _ => rfl : Mute _ (changeContext id)).before (fun _ => rfl) fun _ => ?_
  split
  · exact mute_rest mute _
  · exact mute_throw _

/-- The click in the first way is sent unless the pause before it fails. -/
theorem sends_hit : Sends Event.isClick
    (fun r es => match r with
      | .ok _ => es.length = 1
      | .error _ => es = []) (m.hit care) := by
  refine (mute_happen rfl).before (fun _ => rfl) fun _ => ?_
  refine (mute_rest mute _).before (fun _ => rfl) fun _ => (sends_happen rfl).mono ?_
  rintro r es ⟨rfl, rfl⟩
  rfl

/-- The substitute sends the click once where it works. -/
theorem sends_substituteBy (substitute : Availability) : Sends Event.isClick
    (fun _ es => es.length = if substitute = .working then 1 else 0)
    (m.substituteBy care substitute) := by
  have pause (k : Nat) : Sends Event.isClick (fun _ es => k + es.length = k)
      (restMillis care m.delay) :=
    (mute_restMillis mute m.delay).mono fun _ _ none => by rw [none]; rfl
  unfold substituteBy
  cases substitute with
  | working =>
    refine (sends_happen rfl).bind (fun _ _ h => nomatch h.1) fun _ es first => ?_
    refine (pause 1).mono fun _ rest count => ?_
    rw [first.2, List.length_append]
    exact count
  | missing => exact (mute_throw _).before (fun _ => rfl) fun _ => (pause 0).mono fun _ _ => by simp
  | broken => exact (mute_throw _).before (fun _ => rfl) fun _ => (pause 0).mono fun _ _ => by simp

/-- So it does when it takes the place of the first way. -/
theorem clicks_instead (substitute : Availability) (why : String) (s : Session) :
    ∃ es, (runIn s (StepM.warn why >>= fun _ => m.substituteBy care substitute)).2.desk.sent
        Event.isClick = s.desk.sent Event.isClick ++ es ∧
      es.length = if substitute = .working then 1 else 0 := by
  obtain ⟨es, sent, count⟩ := sends_substituteBy (m := m) mute substitute (runIn s (StepM.warn why)).2
  rw [(mute_warn outward_isClick why).sent s] at sent
  refine ⟨es, ?_, count⟩
  rw [runIn_bind]
  exact sent

end

/-- The click is sent in the first way, and then the pause afterwards fails. -/
def Stumbles (s : Session) : Prop :=
  ∃ t, runIn s (m.hit care) = (.ok (), t) ∧ (runIn t (restMillis care m.delay)).1 ≠ .ok ()

theorem sendBy_of_ne {input : Availability} (h : input ≠ .broken) :
    m.sendBy care input = m.hit care >>= fun _ => restMillis care m.delay := by
  unfold sendBy
  rw [if_neg h]

/-- The first way sends the click once, or fails without having sent it, or it stumbles. -/
theorem clicks_sendBy {care : Amount → StepM Unit} (mute : ∀ a, Mute Event.isClick (care a))
    {input : Availability} (h : input ≠ .broken) (s : Session) :
    ∃ es, (runIn s (m.sendBy care input)).2.desk.sent Event.isClick
        = s.desk.sent Event.isClick ++ es ∧
      match (runIn s (m.sendBy care input)).1 with
      | .ok _ => es.length = 1 ∧ ¬ m.Stumbles care s
      | .error _ => es.length = 1 ∧ m.Stumbles care s ∨ es.length = 0 ∧ ¬ m.Stumbles care s := by
  obtain ⟨es, sent, count⟩ := sends_hit (m := m) mute s
  rw [m.sendBy_of_ne care h, runIn_bind]
  unfold Stumbles
  generalize runIn s (m.hit care) = o at sent count ⊢
  obtain ⟨r, t⟩ := o
  cases r with
  | error f =>
    refine ⟨es, sent, .inr ⟨by rw [count]; rfl, ?_⟩⟩
    rintro ⟨t', hit, -⟩
    cases hit
  | ok u =>
    have silent := (mute_restMillis mute m.delay).sent t
    refine ⟨es, silent.trans sent, ?_⟩
    dsimp only at count ⊢
    cases rested : (runIn t (restMillis care m.delay)).1 with
    | ok u' =>
      refine ⟨count, ?_⟩
      rintro ⟨t', hit, failed⟩
      cases hit
      exact failed rested
    | error f => exact .inl ⟨count, t, rfl, by rw [rested]; nofun⟩

/-- Between the two ways the click is sent at most twice. -/
theorem clicks_sendOrSubstitute {care : Amount → StepM Unit}
    (mute : ∀ a, Mute Event.isClick (care a)) (input substitute : Availability) (s : Session) :
    ∃ sent, (runIn s (m.sendOrSubstitute care input substitute)).2.desk.sent Event.isClick
        = s.desk.sent Event.isClick ++ sent ∧
      sent.length ≤ 2 ∧
      (1 < sent.length ↔ input = .working ∧ substitute = .working ∧ m.Stumbles care s) := by
  have atMost {n : Nat} (h : n = if substitute = .working then 1 else 0) : n ≤ 1 := by
    rw [h]
    split <;> omega
  unfold sendOrSubstitute
  cases input with
  | missing =>
    obtain ⟨es, sent, count⟩ := sends_substituteBy (m := m) mute substitute s
    have once := atMost count
    exact ⟨es, sent, by omega, by omega, fun h => nomatch h.1⟩
  | broken =>
    obtain ⟨es, sent, count⟩ := clicks_instead (m := m) mute substitute
      ("pynput mouse_click failed, fallback to pyautogui: " ++ (Fault.foreign brokenInput).message) s
    have once := atMost count
    rw [if_neg (by decide), runIn_tryCatch]
    exact ⟨es, sent, by omega, by omega, fun h => nomatch h.1⟩
  | working =>
    have works : Availability.working ≠ .broken := nofun
    obtain ⟨es, sent, course⟩ := m.clicks_sendBy mute works s
    rw [if_neg (by decide), runIn_tryCatch]
    generalize runIn s (m.sendBy care .working) = o at sent course ⊢
    obtain ⟨r, t⟩ := o
    cases r with
    | ok _ =>
      obtain ⟨count, upright⟩ := course
      refine ⟨es, sent, by omega, by omega, fun h => absurd h.2.2 upright⟩
    | error f =>
      obtain ⟨es', sent', count'⟩ := clicks_instead (m := m) mute substitute
        ("pynput mouse_click failed, fallback to pyautogui: " ++ f.message) t
      have once := atMost count'
      refine ⟨es ++ es', ?_, ?_⟩
      · rw [← List.append_assoc, ← sent]
        exact sent'
      · rw [List.length_append]
        rcases course with ⟨count, stumbles⟩ | ⟨count, upright⟩
        · refine ⟨by omega, fun more => ⟨rfl, ?_, stumbles⟩, fun h => ?_⟩
          · by_contra fails
            rw [if_neg fails] at count'
            omega
          · rw [if_pos h.2.1] at count'
            omega
        · exact ⟨by omega, by omega, fun h => absurd h.2.2 upright⟩

/-- Whatever takes care of pauses, a step sends at most two clicks, and it sends two when both ways work
and the pause after the click in the first way fails. -/
theorem sends_clicks {care : Amount → StepM Unit} (mute : ∀ a, Mute Event.isClick (care a))
    (s : Session) : m.run = m.runBy ownCare ∧
      ∃ sent, (runIn s (execute (m.runBy care))).2.desk.sent Event.isClick
          = s.desk.sent Event.isClick ++ sent ∧
        sent.length ≤ 2 ∧
        (1 < sent.length ↔ s.desk.machine.input = .working ∧ s.desk.machine.substitute = .working
          ∧ m.Stumbles care ((begun s).told m.announcement)) := by
  refine ⟨m.run_eq_runBy, ?_⟩
  obtain ⟨sent, clicks, count⟩ := m.clicks_sendOrSubstitute mute s.desk.machine.input
    s.desk.machine.substitute ((begun s).told m.announcement)
  refine ⟨sent, ?_, count⟩
  rw [sent_execute outward_isClick]
  unfold runBy
  rw [runIn_told, (begun s).machine_told]
  exact clicks.trans (by rw [(begun s).sent_told _ outward_isClick]; rfl)

/-- What the context does about pauses sends no click. -/
theorem mute_ownCare (seconds : Amount) : Mute Event.isClick (ownCare seconds) := by
  refine mute_pauseWith fun c d => ?_
  split
  · exact d.sent_record_of_not rfl
  · exact Desk.sent_machine_sleep outward_isClick d seconds

/-- A click with a pause afterwards of so many milliseconds that no floating-point number is near them. -/
def endless : MouseClick := ⟨1, 2, .left, .ofNat (Nat.pow 10 400)⟩

/-- The click is valid, and it is sent twice. -/
theorem sends_clicks_endless :
    let s := Session.first true .blank
    (∀ a, Mute Event.isClick (ownCare a)) ∧ endless.check = .ok ()
      ∧ 1 < ((runIn s (execute endless.run)).2.desk.sent Event.isClick).length := by
  intro s
  obtain ⟨same, sent, clicks, -, twice⟩ := endless.sends_clicks mute_ownCare s
  refine ⟨mute_ownCare, rfl, ?_⟩
  have tooLong : Context.secondsOfMillis (.whole endless.delay) = .error (.conversion .tooLarge) := by
    decide +kernel
  have stumbles : endless.Stumbles ownCare ((begun s).told endless.announcement) := by
    refine ⟨_, rfl, ?_⟩
    unfold restMillis
    rw [tooLong, runIn_bind]
    nofun
  rw [same, clicks, List.length_append]
  exact Nat.lt_add_left _ (twice.mpr ⟨rfl, rfl, stumbles⟩)

end MouseClick

end Deskwork
