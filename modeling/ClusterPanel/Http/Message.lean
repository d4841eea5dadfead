import ClusterPanel.Http.Header

/- Requests, and what comes back: a response of any status, or word that the exchange failed. -/
namespace ClusterPanel.Http

structure Request where
  method : String
  url : String
  headers : Headers := []
  body : Option String := none
deriving DecidableEq, Repr

/-- What came of a request. -/
inductive Reply where
  | response (status : Nat) (body : List UInt8)
  | failed (reason : String)
deriving DecidableEq, Repr

/-- The status of a response to a credential that is not accepted. -/
def unauthorized : Nat := 401

/-- A status that says that all went well. -/
def isSuccess (status : Nat) : Bool := 200 ≤ status && status < 300

end ClusterPanel.Http
