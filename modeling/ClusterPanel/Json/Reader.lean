import ClusterPanel.Json.Scan

/- Reading JSON values and the simple types that records are made of. A reader of a type says what it expected when
   something else stands there; lists and objects may be nested 127 deep. A whole text holds one value and nothing
   after it but blanks (`readText`). -/
namespace ClusterPanel.Json

open Text Number

/-- Lists and objects may be nested this deep. -/
def depthLimit : Nat := 127

/-- A value of another type where something else was expected, passed over if it is no list or object. -/
def readMismatch {α : Type} (expected : String) (s : Bytes) : Except Fault (α × Bytes) :=
  let mismatch (f : Found) (r : Bytes) : Except Fault (α × Bytes) := .error (.here (.wrongType f expected) r)
  let number (p : Numeric × Bytes) : Except Fault (α × Bytes) :=
    match p.1 with
    | .int i => mismatch (.int i) p.2
    | .double x => mismatch (.double x) p.2
    | .single x => mismatch (.double x) p.2
  match s with
  | [] => .error (.here .expectedValue [])
  | b :: r =>
    if b = letter 'n' then do
      let p ← readWord [letter 'u', letter 'l', letter 'l'] r
      mismatch .null p.2
    else if b = letter 't' then do
      let p ← readWord [letter 'r', letter 'u', letter 'e'] r
      mismatch (.bool true) p.2
    else if b = letter 'f' then do
      let p ← readWord [letter 'a', letter 'l', letter 's', letter 'e'] r
      mismatch (.bool false) p.2
    else if b = minusByte then do number (← readNumber true r)
    else if isDigitByte b then do number (← readNumber false (b :: r))
    else if b = quoteByte then do
      let p ← readStringBody r
      mismatch (.string p.1) p.2
    else if b = listOpen then mismatch .list (b :: r)
    else if b = objectOpen then mismatch .map (b :: r)
    else .error (.next .expectedValue (b :: r))

/-- A string that stands for something, named in the fault when no string is there. -/
def readStringFor (expected : String) (s : Bytes) : Except Fault (String × Bytes) :=
  match skipBlanks s with
  | [] => .error (.here .endOfValue [])
  | b :: r => if b = quoteByte then readStringBody r else readMismatch expected (b :: r)

def readString (s : Bytes) : Except Fault (String × Bytes) := readStringFor "a string" s

def readBool (s : Bytes) : Except Fault (Bool × Bytes) :=
  match skipBlanks s with
  | [] => .error (.here .endOfValue [])
  | b :: r =>
    if b = letter 't' then do
      let p ← readWord [letter 'r', letter 'u', letter 'e'] r
      pure (true, p.2)
    else if b = letter 'f' then do
      let p ← readWord [letter 'a', letter 'l', letter 's', letter 'e'] r
      pure (false, p.2)
    else readMismatch "a boolean" (b :: r)

def readNumeric (expected : String) (s : Bytes) : Except Fault (Numeric × Bytes) :=
  match skipBlanks s with
  | [] => .error (.here .endOfValue [])
  | b :: r =>
    if b = minusByte then readNumber true r
    else if isDigitByte b then readNumber false (b :: r)
    else readMismatch expected (b :: r)

/-- An integer that fits into 64 bits with its sign. -/
def readInt64 (s : Bytes) : Except Fault (Int × Bytes) := do
  let p ← readNumeric "i64" s
  match p.1 with
  | .int i => if i < 0x8000000000000000 then pure (i, p.2) else throw (.here (.wrongValue (.int i) "i64") p.2)
  | .double x => throw (.here (.wrongType (.double x) "i64") p.2)
  | .single x => throw (.here (.wrongType (.double x) "i64") p.2)

/-- A number, rounded to single precision. -/
def readSingle (s : Bytes) : Except Fault (Binary × Bytes) := do
  let p ← readNumeric "f32" s
  match p.1 with
  | .int i => pure (Precision.single.ofInt i, p.2)
  | .double x => pure (Precision.single.convert x, p.2)
  | .single x => pure (x, p.2)

/-- `null`, or what the given reader takes. -/
def readOption {α : Type} (read : Bytes → Except Fault (α × Bytes)) (s : Bytes) :
    Except Fault (Option α × Bytes) :=
  match skipBlanks s with
  | [] => (read []).map fun p => (some p.1, p.2)
  | b :: r =>
    if b = letter 'n' then do
      let p ← readWord [letter 'u', letter 'l', letter 'l'] r
      pure (none, p.2)
    else (read (b :: r)).map fun p => (some p.1, p.2)

/-! ## Lists and objects -/

/-- Where the next item of a list starts, or that there is none. `first` says that none was read yet. -/
def nextItem (first : Bool) (s : Bytes) : Except Fault (Option Bytes) :=
  match skipBlanks s with
  | [] => .error (.here .endOfList [])
  | b :: r =>
    if b = listClose then .ok none
    else if b = commaByte && !first then
      match skipBlanks r with
      | [] => .error (.here .endOfValue [])
      | c :: t => if c = listClose then .error (.next .trailingComma (c :: t)) else .ok (some (c :: t))
    else if first then .ok (some (b :: r))
    else .error (.next .expectedListEnd (b :: r))

/-- The end of a list after its last item. -/
def endList (s : Bytes) : Except Fault (Unit × Bytes) :=
  match skipBlanks s with
  | [] => .error (.here .endOfList [])
  | b :: r =>
    if b = listClose then .ok ((), r)
    else if b = commaByte then
      match skipBlanks r with
      | [] => .error (.here .trailingCharacters [])
      | c :: t =>
        if c = listClose then .error (.next .trailingComma (c :: t)) else .error (.next .trailingCharacters (c :: t))
    else .error (.next .trailingCharacters (b :: r))

/-- Where the text after the key of the next member starts, with the key, or that there is none. -/
def nextKey (first : Bool) (s : Bytes) : Except Fault (Option (String × Bytes)) :=
  match skipBlanks s with
  | [] => .error (.here .endOfObject [])
  | b :: r =>
    if b = objectClose then .ok none
    else if b = commaByte && !first then
      match skipBlanks r with
      | [] => .error (.here .endOfValue [])
      | c :: t =>
        if c = quoteByte then (readStringBody t).map some
        else if c = objectClose then .error (.next .trailingComma (c :: t))
        else .error (.next .keyNotString (c :: t))
    else if first then
      if b = quoteByte then (readStringBody r).map some else .error (.next .keyNotString (b :: r))
    else .error (.next .expectedObjectEnd (b :: r))

/-- The end of an object after its last member. -/
def endObject (s : Bytes) : Except Fault (Unit × Bytes) :=
  match skipBlanks s with
  | [] => .error (.here .endOfObject [])
  | b :: r =>
    if b = objectClose then .ok ((), r)
    else if b = commaByte then .error (.next .trailingComma (b :: r))
    else .error (.next .trailingCharacters (b :: r))

/-- The items of a list after its bracket, up to its end. Each takes a byte or more, so the length of the text
    bounds their number. -/
def readItems {α : Type} (read : Bytes → Except Fault (α × Bytes)) :
    Nat → Bool → Bytes → Except Fault (List α × Bytes)
  | 0, _, s => .error (.here .endOfList s)
  | n + 1, first, s => do
    match ← nextItem first s with
    | none =>
      let e ← endList s
      pure ([], e.2)
    | some t =>
      let p ← read t
      let q ← readItems read n false p.2
      pure (p.1 :: q.1, q.2)

/-- The members of an object after its brace, up to its end. -/
def readMembers {α : Type} (read : Bytes → Except Fault (α × Bytes)) :
    Nat → Bool → Bytes → Except Fault (List (String × α) × Bytes)
  | 0, _, s => .error (.here .endOfObject s)
  | n + 1, first, s => do
    match ← nextKey first s with
    | none =>
      let e ← endObject s
      pure ([], e.2)
    | some (k, t) =>
      let c ← readColon t
      let p ← read c.2
      let q ← readMembers read n false p.2
      pure ((k, p.1) :: q.1, q.2)

def readList {α : Type} (read : Bytes → Except Fault (α × Bytes)) (s : Bytes) : Except Fault (List α × Bytes) :=
  match skipBlanks s with
  | [] => .error (.here .endOfValue [])
  | b :: r => if b = listOpen then readItems read (r.length + 1) true r else readMismatch "a sequence" (b :: r)

/-- An object whose members are all of one type; of a repeated key the last value stays. -/
def readKeyed {α : Type} (read : Bytes → Except Fault (α × Bytes)) (s : Bytes) :
    Except Fault (Keyed α × Bytes) :=
  match skipBlanks s with
  | [] => .error (.here .endOfValue [])
  | b :: r =>
    if b = objectOpen then (readMembers read (r.length + 1) true r).map fun p => (Keyed.ofList p.1, p.2)
    else readMismatch "a map" (b :: r)

/-- A value, in lists and objects nested at most as deep as the given number. -/
def readValue : Nat → Bytes → Except Fault (Value × Bytes)
  | depth, s =>
    match skipBlanks s with
    | [] => .error (.here .endOfValue [])
    | b :: r =>
      if b = letter 'n' then do
        let p ← readWord [letter 'u', letter 'l', letter 'l'] r
        pure (.null, p.2)
      else if b = letter 't' then do
        let p ← readWord [letter 'r', letter 'u', letter 'e'] r
        pure (.bool true, p.2)
      else if b = letter 'f' then do
        let p ← readWord [letter 'a', letter 'l', letter 's', letter 'e'] r
        pure (.bool false, p.2)
      else if b = minusByte then (readNumber true r).map fun p => (.number p.1, p.2)
      else if isDigitByte b then (readNumber false (b :: r)).map fun p => (.number p.1, p.2)
      else if b = quoteByte then (readStringBody r).map fun p => (.string p.1, p.2)
      else if b = listOpen then
        match depth with
        | 0 => .error (.next .tooDeep (b :: r))
        | depth + 1 => (readItems (readValue depth) (r.length + 1) true r).map fun p => (.array p.1, p.2)
      else if b = objectOpen then
        match depth with
        | 0 => .error (.next .tooDeep (b :: r))
        | depth + 1 =>
          (readMembers (readValue depth) (r.length + 1) true r).map fun p => (.object (Keyed.ofList p.1), p.2)
      else .error (.next .expectedValue (b :: r))

/-- The whole text: one value and blanks. -/
def readAll {α : Type} (read : Bytes → Except Fault (α × Bytes)) (text : Bytes) : Except Fault α := do
  let p ← read text
  match skipBlanks p.2 with
  | [] => pure p.1
  | b :: r => throw (.next .trailingCharacters (b :: r))

def Value.ofBytes (text : Bytes) : Except Fault Value := readAll (readValue depthLimit) text

end ClusterPanel.Json
