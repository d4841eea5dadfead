import ClusterPanel.Keyed

/- Header fields. A name is a token, in which the case of letters does not count, so names are kept in lower case;
   a value is any text without control characters, tabs excepted. A name may have several values, whose order is
   kept. Values of bytes that are no text have no place here; where fields are put together no value is looked at. -/
namespace ClusterPanel.Http

/-- A character of a token: a letter, a digit or one of fifteen marks. -/
def isTokenChar (c : Char) : Bool :=
  c.isAlphanum ||
    ['!', '#', '$', '%', '&', '\x27', '*', '+', '-', '.', '^', '_', '\x60', '|', '~'].contains c

/-- A token: one such character or more. -/
def isToken (s : String) : Bool := !s.isEmpty && s.toList.all isTokenChar

/-- A character that a header value may hold. -/
def isValueChar (c : Char) : Bool := c == '\t' || 32 ≤ c.toNat && c.toNat ≠ 127

/-- A header value. -/
def isHeaderValue (s : String) : Bool := s.toList.all isValueChar

/-- What is wrong with a header field or a method. -/
inductive Fault where
  | name
  | value
  | method
deriving DecidableEq, Repr

def Fault.message : Fault → String
  | name => "invalid HTTP header name"
  | value => "failed to parse header value"
  | method => "invalid HTTP method"

/-- Header fields by name, each name with its values. -/
abbrev Headers := Keyed (List String)

namespace Headers

def values (name : String) (h : Headers) : List String := (h.get? name).getD []

/-- Gives a name one value, in the stead of those that it had. -/
def set (name value : String) (h : Headers) : Headers := h.insert name [value]

/-- Gives a name one value more. -/
def append (name value : String) (h : Headers) : Headers := h.insert name (values name h ++ [value])

/-- Leaves out a name. -/
def erase (name : String) (h : Headers) : Headers := h.filter (·.1 ≠ name)

/-- Puts other fields over these: a name among them has their values only. -/
def override (extra h : Headers) : Headers := extra.foldl (fun h p => h.insert p.1 p.2) h

def fields (h : Headers) : List (String × String) := h.flatMap fun p => p.2.map fun v => (p.1, v)

end Headers

/-- A header field whose name and value were looked at. -/
def headerField (name value : String) : Except Fault (String × String) :=
  if !isToken name then .error .name
  else if !isHeaderValue value then .error .value
  else .ok (name.map Char.toLower, value)

/-- A method is any token; the case of its letters counts. -/
def method (name : String) : Except Fault String := if isToken name then .ok name else .error .method

end ClusterPanel.Http
