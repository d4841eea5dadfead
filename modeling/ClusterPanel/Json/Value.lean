import ClusterPanel.Keyed
import ClusterPanel.Number.Shortest

/- JSON values. A number keeps its kind: an integer, or a floating-point number of double or single precision. The
   members of an object stand in a list; one that was read has its keys in order and each once. -/
namespace ClusterPanel.Json

open Number (Binary)

inductive Numeric where
  | int (i : Int)
  | double (x : Binary)
  | single (x : Binary)
deriving DecidableEq, Repr

inductive Value where
  | null
  | bool (b : Bool)
  | number (n : Numeric)
  | string (s : String)
  | array (items : List Value)
  | object (members : List (String × Value))
deriving Repr, Inhabited

def Value.int (i : Int) : Value := .number (.int i)

/-- The value of a member of an object. -/
def Value.member? (k : String) : Value → Option Value
  | object m => Keyed.get? k m
  | _ => none

/-- Neither array nor object. -/
def Value.isScalar : Value → Bool
  | array _ => false
  | object _ => false
  | _ => true

end ClusterPanel.Json
