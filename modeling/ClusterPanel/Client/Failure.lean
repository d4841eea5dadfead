import ClusterPanel.Text.Numeral

/- Why a call failed: of what kind the failure is, and a message that can be shown as it stands. -/
namespace ClusterPanel

open Text

inductive FailureKind where
  | authenticationExpired
  | requestFailed (status : Nat)
  | transportFailed
  | malformedResponse
  | invalidRequest
deriving DecidableEq, Repr

def FailureKind.name : FailureKind → String
  | authenticationExpired => "authentication_expired"
  | requestFailed status => "request_failed(" ++ String.ofList (numeral status) ++ ")"
  | transportFailed => "transport_failed"
  | malformedResponse => "malformed_response"
  | invalidRequest => "invalid_request"

structure Failure where
  kind : FailureKind
  message : String
deriving DecidableEq, Repr

namespace Failure

/-- The backend does not accept the credential. -/
def unauthorized : Failure := ⟨.authenticationExpired, "Unauthorized"⟩

/-- The backend answered with a status that is no success. -/
def requestFailed (status : Nat) (message : String) : Failure := ⟨.requestFailed status, message⟩

/-- The exchange was not completed. -/
def transport (message : String) : Failure := ⟨.transportFailed, message⟩

/-- The answer is not what it should be. -/
def malformed (message : String) : Failure := ⟨.malformedResponse, message⟩

/-- The request cannot be made. -/
def invalidRequest (message : String) : Failure := ⟨.invalidRequest, message⟩

/-- The status of the answer, if there was one. -/
def status? (f : Failure) : Option Nat :=
  match f.kind with
  | .authenticationExpired => some 401
  | .requestFailed status => some status
  | _ => none

/-- Whether the session was cleared. -/
def isUnauthorized (f : Failure) : Bool := f.kind = .authenticationExpired

end Failure

end ClusterPanel
