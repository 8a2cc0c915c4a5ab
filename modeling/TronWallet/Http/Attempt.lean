import TronWallet.Http.Status
import TronWallet.Url.Reading

/-!
# Requests and what comes of them

An `Attempt` is the address of a resource as it was given and how asking for it ended. An
address that cannot be asked for ends an attempt before anything is sent. What a service
replies may depend on the requests before, so a `Service` is a function of these too. A reply
is what has come in the end: redirections that were followed on the way are part of the
service. The bytes of a body are taken to be UTF-8, and a client to be there to ask with.
-/

namespace TronWallet.Http

/-- What comes back for a request in the end. -/
inductive Reply where
  /-- No answer arrives, or only a part of one, or not in time. -/
  | lost
  | answered (status : Nat) (body : String)
  deriving DecidableEq

/-- The reply to a request, given those that were sent before, the first one first. -/
abbrev Service := List Url → Url → Reply

/-- How asking for a resource ends. -/
inductive Ending where
  /-- The address is no URL. -/
  | malformed
  /-- Nothing can be asked for at the URL. -/
  | unusable (url : Url)
  | replied (url : Url) (reply : Reply)
  deriving DecidableEq

/-- One time that a resource is asked for. -/
structure Attempt where
  address : String
  ending : Ending
  deriving DecidableEq

/-- The URL that is sent to the service. -/
def Attempt.sent? (a : Attempt) : Option Url :=
  match a.ending with
  | .replied url _ => some url
  | _ => none

/-- The URL of a request that the service has answered. -/
def Attempt.received? (a : Attempt) : Option Url :=
  match a.ending with
  | .replied url (.answered _ _) => some url
  | _ => none

/-- Asks for a resource after other requests. -/
def attempt (service : Service) (before : List Url) (address : String) : Attempt where
  address := address
  ending :=
    match Url.parse? address with
    | none => .malformed
    | some url =>
      if url.carried.isRequestable then .replied url.carried (service before url.carried)
      else .unusable url.carried

/-- Why no document is got from a resource. -/
inductive Fault where
  | malformed
  | unusable (url : Url)
  | lost (url : Url)
  | status (address : String) (code : Nat)
  /-- The body is no document of the expected form. -/
  | undecodable
  deriving DecidableEq

/-- The wording of a fault. -/
def Fault.message : Fault → String
  | malformed => "builder error"
  | unusable url => "builder error for url (" ++ String.ofList url.text ++ ")"
  | lost url => "error sending request for url (" ++ String.ofList url.text ++ ")"
  | status address code => address ++ " returned " ++ statusText code
  | undecodable => "error decoding response body"

/-- The body that an attempt gets. -/
def Attempt.body (a : Attempt) : Except Fault String :=
  match a.ending with
  | .malformed => .error .malformed
  | .unusable url => .error (.unusable url)
  | .replied url .lost => .error (.lost url)
  | .replied _ (.answered code body) =>
    if isSuccess code then .ok body else .error (.status a.address code)

/-- The document that an attempt gets, read by `parse`. -/
def Attempt.document {ε α : Type} (a : Attempt) (parse : String → Except ε α) : Except Fault α :=
  match a.body with
  | .error fault => .error fault
  | .ok body => (parse body).mapError fun _ => .undecodable

end TronWallet.Http
