/-
# Messages That Are Sent

What a webhook step or the notifier sends is the text of an object whose only field holds the message.
Whoever decodes the bytes and reads the text gets exactly this object back, whatever characters the message
is made of (`carries_oneField`): no message can add a field or spoil the text (`messages_carried`). Only a
payload of one's own is sent as it stands.
-/
import Deskwork.Proofs.Json.RoundTrip
import Deskwork.Proofs.Schedule.Notices
import Deskwork.Proofs.Text.Encoding

namespace Deskwork

open Deskwork.Schedule Deskwork.Text

/-! ## Requests -/

/-- The event is a request that goes out. -/
def Event.isRequest : Event → Bool
  | .requested .. => true
  | _ => false

namespace Desk

/-- The requests that went out, in order. -/
def requests (d : Desk) : List Event := (d.machine.journal.filter Event.isRequest).reverse

/-- No request is talk. -/
theorem Chats.requests {d d' : Desk} (h : d.Chats d') : d'.requests = d.requests := by
  apply congrArg List.reverse
  apply h.filter_journal
  intro e request
  cases e with
  | requested verb contentType body => rfl
  | _ => cases request

/-- A message that is sent goes out in one request. -/
theorem requests_post (d : Desk) (url body : String) (timeout : Number.Amount) :
    ({ d with machine := (d.machine.post url body timeout).2 } : Desk).requests =
      d.requests ++ [.requested "POST" messageType body] := by
  unfold requests
  dsimp only
  rw [(post_journal d.machine d.machine.journal url body timeout).2]
  exact List.reverse_cons

end Desk

namespace Schedule.Notifier

variable {n : Notifier} {t : Task} {r : Record} {url text : String}

/-- The notifier sends the message about a run in one request. -/
theorem requests_send (d : Desk) (known : n.urlFor t = some url) (written : message t r = .ok text) :
    (n.send t r d).2.requests = d.requests ++ [.requested "POST" messageType (body text)] := by
  have talk := n.chats_send t r d
  rw [known, written] at talk
  rw [talk.requests]
  exact d.requests_post url (body text) n.timeout

/-- Without an address or without a message nothing is sent. -/
theorem requests_send_of_nothing (d : Desk)
    (nothing : n.urlFor t = none ∨ ∃ f, message t r = .error f) :
    (n.send t r d).2.requests = d.requests := by
  have talk := n.chats_send t r d
  split at talk
  case h_1 url text known written =>
    rcases nothing with missing | ⟨f, failed⟩
    · simp [missing] at known
    · simp [failed] at written
  case h_2 => exact talk.requests

end Schedule.Notifier

/-- What a webhook step sends is its body, in one request, unless its time cannot be told in seconds. -/
theorem Webhook.requests_run (w : Webhook) (s : Session) :
    (StepM.runIn s w.run).2.desk.requests =
      match w.seconds with
      | .ok _ => s.desk.requests ++ [.requested "POST" messageType w.body]
      | .error _ => s.desk.requests := by
  have told (s : Session) (message : String) : ∃ s', StepM.runIn s (StepM.info message) = (.ok (), s')
      ∧ s'.desk.requests = s.desk.requests := ⟨_, rfl, (s.desk.chats_logged _ _ _).requests⟩
  have noted (s : Session) (message : String) : ∃ s', StepM.runIn s (StepM.debug message) = (.ok (), s')
      ∧ s'.desk.requests = s.desk.requests := ⟨_, rfl, (s.desk.chats_logged _ _ _).requests⟩
  obtain ⟨s₁, began, same₁⟩ := told s ("Sending webhook (" ++ w.service.title ++ ")")
  obtain ⟨s₂, shown, same₂⟩ := noted s₁ ("Payload: " ++ w.body)
  unfold run
  rw [StepM.runIn_bind, began]
  dsimp only
  rw [StepM.runIn_bind, shown, ← same₁, ← same₂]
  dsimp only
  cases w.seconds with
  | error f => rfl
  | ok seconds =>
    have posted := s₂.desk.requests_post w.url w.body (.real seconds)
    show (StepM.runIn { s₂ with desk := { s₂.desk with
        machine := (s₂.desk.machine.post w.url w.body (.real seconds)).2 } } _).2.desk.requests = _
    generalize s₂.desk.machine.post w.url w.body (.real seconds) = answer at posted ⊢
    obtain ⟨reply, machine⟩ := answer
    dsimp only at posted ⊢
    rw [← posted]
    cases reply with
    | error why => rfl
    | ok answer =>
      obtain ⟨status, text⟩ := answer
      dsimp only
      split
      · exact (Desk.chats_logged _ .info s₂.name _).requests
      · exact (Desk.chats_logged _ .debug s₂.name _).requests

/-! ## What the bytes carry -/

/-- Bytes carry a message: they are the text of an object that has one field, with the message in it. -/
def Carries (bytes : Bytes) (field message : String) : Prop :=
  ∃ text, decode bytes = .ok text ∧ Json.read text = .ok (.object [(field, .text message)])

/-- An object with one text is read back, whatever the text. -/
theorem carries_oneField (field message : String) :
    Carries (encode (Webhook.oneField field message)) field message := by
  have kept : (Value.object [(field, .text message)]).Kept := by
    constructor
    · intro f mem
      obtain rfl := List.mem_singleton.mp mem
      exact .scalar trivial
    · exact List.nodup_singleton field
  exact ⟨Webhook.oneField field message, decode_encode _, Json.read_line kept⟩

/-- A message to a service is carried in the field that the service names, unless a payload of one's own
is sent. -/
theorem Webhook.carries_body (w : Webhook) (ordinary : ¬ (w.service = .custom ∧ allBlank w.payload = false)) :
    Carries (encode w.body) w.service.messageField w.message := by
  unfold body
  rw [if_neg ordinary]
  exact carries_oneField w.service.messageField w.message

/-- Every message of a webhook step is carried by its body, in the field that the service calls for, and the
body is what the step sends; and every message of the notifier is carried by what it sends. -/
theorem messages_carried :
    (∀ w : Webhook, ¬ (w.service = .custom ∧ allBlank w.payload = false) →
        (let field := match w.service with
            | .discord => "content"
            | .custom => "message"
            | .slack | .teams | .googleChat => "text"
          Carries (encode w.body) field w.message)
          ∧ ∀ (s : Session) (seconds : Float), w.seconds = .ok seconds →
            (StepM.runIn s w.run).2.desk.requests
              = s.desk.requests ++ [.requested "POST" messageType w.body])
      ∧ (∀ (n : Notifier) (t : Task) (r : Record) (d : Desk) (url text : String),
        n.urlFor t = some url → Notifier.message t r = .ok text → ∃ body,
          (n.send t r d).2.requests = d.requests ++ [.requested "POST" messageType body]
            ∧ Carries (encode body) "text" text)
      ∧ ∀ (n : Notifier) (t : Task) (r : Record) (d : Desk),
        n.urlFor t = none ∨ (∃ f, Notifier.message t r = .error f) →
        (n.send t r d).2.requests = d.requests := by
  refine ⟨?_, ?_, ?_⟩
  · intro w ordinary
    refine ⟨?_, ?_⟩
    · have carried := w.carries_body ordinary
      cases service : w.service with
      | custom | discord | slack | teams | googleChat =>
        rw [service] at carried
        exact carried
    · intro s seconds allowed
      rw [w.requests_run, allowed]
  · intro n t r d url text known written
    exact ⟨Notifier.body text, Notifier.requests_send d known written, carries_oneField "text" text⟩
  · intro n t r d nothing
    exact Notifier.requests_send_of_nothing d nothing

/-- A message that tries to end its field and to begin another one, with a line break, a control character
and a character beyond the first plane. -/
def spiteful : String := "\",\"text\":\"me\"\x7d\\\n\x01😀"

/-- The message is to go to a service of one's own, and the payload is blank. -/
def spitefulHook : Webhook := ⟨"http://hooks/1", .custom, spiteful, " \n", 1000⟩

/-- A task that has the message for a name. -/
def spitefulTask : Task := WorkerPool.halfHourly "t1" spiteful

/-- Neither the message of a step nor the name of a task spoils what is sent. -/
theorem messages_carried_spiteful :
    let n : Notifier := .standard (some "http://hooks/2")
    let r := Record.begin "r1" spitefulTask Desk.blank.machine.wall
    let text := "\n".intercalate (Notifier.lines spitefulTask r "unknown")
    (¬ (spitefulHook.service = .custom ∧ allBlank spitefulHook.payload = false)
        ∧ Carries (encode spitefulHook.body) "message" spiteful)
      ∧ (n.urlFor spitefulTask = some "http://hooks/2" ∧ Notifier.message spitefulTask r = .ok text)
      ∧ ∃ body, (n.send spitefulTask r .blank).2.requests = [.requested "POST" messageType body]
        ∧ Carries (encode body) "text" text := by
  intro n r text
  obtain ⟨hooks, notices, -⟩ := messages_carried
  have ordinary : ¬ (spitefulHook.service = .custom ∧ allBlank spitefulHook.payload = false) := by decide
  have known : n.urlFor spitefulTask = some "http://hooks/2" := by decide
  have written : Notifier.message spitefulTask r = .ok text := rfl
  refine ⟨⟨ordinary, (hooks spitefulHook ordinary).1⟩, ⟨known, written⟩, ?_⟩
  exact notices n spitefulTask r .blank _ text known written

end Deskwork
