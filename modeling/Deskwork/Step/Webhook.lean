/-
# Messages to Webhooks

Sending a message to an address of a service, in the form that the service expects.
-/
import Deskwork.Data.Convert
import Deskwork.Json.Printer
import Deskwork.Machine.Network
import Deskwork.Step.Session

namespace Deskwork

open Deskwork.Number Deskwork.Text

/-! ## Fields -/

/-- A service that takes messages. -/
inductive Service where
  | custom
  | discord
  | slack
  | teams
  | googleChat
  deriving DecidableEq, Repr

namespace Service

/-- The word for a service. -/
def word : Service → String
  | .custom => "custom"
  | .discord => "discord"
  | .slack => "slack"
  | .teams => "teams"
  | .googleChat => "google_chat"

/-- The name of a service. -/
def title : Service → String
  | .custom => "Custom"
  | .discord => "Discord"
  | .slack => "Slack"
  | .teams => "Teams"
  | .googleChat => "Google Chat"

/-- The services in data. -/
def choice : Choice Service :=
  ⟨"WebhookServiceType", [.custom, .discord, .slack, .teams, .googleChat],
    fun s => .text s.word⟩

/-- The field that holds the message. -/
def messageField : Service → String
  | .custom => "message"
  | .discord => "content"
  | _ => "text"

end Service

/-- A message to a webhook. -/
structure Webhook where
  url : String
  service : Service
  message : String
  /-- What is sent instead to a service of one's own, unless it is blank. -/
  payload : String
  /-- How many milliseconds the service may take. -/
  timeout : Int
  deriving DecidableEq, Repr

namespace Webhook

/-- A message from the fields of its data. -/
def ofFields (fs : List (String × Value)) : Except Fault Webhook := do
  let url ← Convert.field fs "webhook_url" Convert.text ""
  let service ← Convert.field fs "service_type" (Convert.choice Service.choice) .googleChat
  let message ← Convert.field fs "message" Convert.text ""
  let payload ← Convert.field fs "custom_payload" Convert.text ""
  let timeout ← Convert.field fs "timeout_ms" Convert.int 10000
  return ⟨url, service, message, payload, timeout⟩

/-- The fields of a message as data. -/
def fields (w : Webhook) : List (String × Value) :=
  [("webhook_url", .text w.url), ("service_type", .text w.service.word),
    ("message", .text w.message), ("custom_payload", .text w.payload),
    ("timeout_ms", .int w.timeout)]

/-- The beginning of a message: at most thirty characters. -/
def preview (message : String) : String :=
  let cs := message.toList
  if cs.length ≤ 30 then message else String.ofList (cs.take 30) ++ "..."

/-- The text that describes a message. -/
def describe (w : Webhook) : String :=
  "Webhook (" ++ w.service.title ++ "): " ++ preview w.message

/-- There is an address, and some time is allowed. -/
def check (w : Webhook) : Except Fault Unit :=
  if allBlank w.url then .error (.invalid .noWebhookUrl)
  else if w.timeout ≤ 0 then .error (.invalid .noTimeout)
  else .ok ()

/-- A template field overwritten. -/
def write (name : String) (c : Template.Content) (w : Webhook) : Webhook :=
  if name = "webhook_url" then { w with url := c.textOr w.url }
  else if name = "message" then { w with message := c.textOr w.message }
  else if name = "custom_payload" then { w with payload := c.textOr w.payload }
  else w

/-! ## Running -/

/-- An object with one text. -/
def oneField (name text : String) : String :=
  Json.line (.object [(name, .text text)])

/-- What is sent. -/
def body (w : Webhook) : String :=
  if w.service = .custom ∧ allBlank w.payload = false then w.payload
  else oneField w.service.messageField w.message

/-- The seconds that the service may take. -/
def seconds (w : Webhook) : Except Fault Float :=
  ((ofInt? w.timeout).mapError .conversion).map fun ms => ms / 1000.0

/-- The fault of a request without an answer. -/
def faultOf (u : Unanswered) : Fault :=
  if u.isTimeout then .failed (.webhookTimeout u.why)
  else if u.isTransport then .failed (.webhookError u.why)
  else .ofForeign u.why

/-- The message sent; the answer must mean success. -/
def run (w : Webhook) : StepM Unit := do
  StepM.info ("Sending webhook (" ++ w.service.title ++ ")")
  StepM.debug ("Payload: " ++ w.body)
  match w.seconds with
  | .error f => throw f
  | .ok seconds =>
    let s ← get
    let (reply, machine) := s.desk.machine.post w.url w.body (.real seconds)
    set { s with desk := { s.desk with machine := machine } }
    match reply with
    | .error u => throw (faultOf u)
    | .ok r =>
      if r.isSuccess then StepM.info ("Webhook sent: HTTP " ++ intText r.status)
      else
        StepM.debug ("Response: " ++ r.text)
        throw (.failed (.webhookStatus r.status r.reason))

end Webhook

end Deskwork
