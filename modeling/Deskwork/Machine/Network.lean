/-
# The Network

Sending a message to an address.
-/
import Deskwork.Machine.Basic

namespace Deskwork

open Deskwork.Number

/-- An answer to a request, with what the client says about its status. -/
structure WebResponse where
  status : Int
  text : String
  isSuccess : Bool
  reason : String

/-- Why a request has no answer, and whether the client takes it for one that took too long or that could
not be sent. -/
structure Unanswered where
  why : Foreign
  isTimeout : Bool
  isTransport : Bool

namespace WebClient

/-- An answer as the client sees it. -/
def respond (c : WebClient) (status : Int) (text : String) : WebResponse :=
  ⟨status, text, c.isSuccess status, c.reasonOf status⟩

/-- A fault as the client sees it. -/
def excuse (c : WebClient) (why : Foreign) : Unanswered :=
  ⟨why, c.isTimeout why, c.isTransport why⟩

end WebClient

/-- The type of the contents of messages. -/
def messageType : String := "application/json; charset=utf-8"

namespace Machine

/-- A message sent to an address: an answer comes back, or the request fails. -/
def post (m : Machine) (url body : String) (timeout : Amount) :
    Except Unanswered WebResponse × Machine :=
  let m := (m.record (.posting url timeout)).record (.requested "POST" messageType body)
  match m.nextReply with
  | (.answer status text, m) => (.ok (m.client.respond status text), m)
  | (.failure why, m) => (.error (m.client.excuse why), m)

end Machine

end Deskwork
