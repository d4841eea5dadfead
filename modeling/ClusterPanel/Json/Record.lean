import ClusterPanel.Json.Reader

/- Records as JSON objects. A record's fields stand in an object under their names, in any order and each at most
   once; members of other names are passed over. A list of the fields' values in order is read too. What a field
   that is missing stands for is the record's affair (`Shape.finish`). -/
namespace ClusterPanel.Json

/-- A field of a record that is being read into a draft. -/
structure FieldShape (δ : Type) where
  name : String
  /-- the field may be missing at the end of a list -/
  optional : Bool
  /-- the draft holds the field -/
  filled : δ → Bool
  /-- reads the field into the draft -/
  read : δ → Bytes → Except Fault (δ × Bytes)

/-- A record: its fields in order and how a draft becomes the record, or the name of the field that it lacks. -/
structure Shape (δ α : Type) where
  name : String
  fields : List (FieldShape δ)
  start : δ
  finish : δ → Except String α

variable {δ α : Type}

/-- The shape of a field whose value goes into a slot of the draft. -/
def FieldShape.of {β : Type} (name : String) (optional : Bool) (get : δ → Option β) (set : δ → β → δ)
    (read : Bytes → Except Fault (β × Bytes)) : FieldShape δ where
  name := name
  optional := optional
  filled d := (get d).isSome
  read d s := (read s).map fun p => (set d p.1, p.2)

/-- The text after the end of an object, if its end comes next. -/
def afterObjectEnd (s : Bytes) : Bytes :=
  match skipBlanks s with
  | [] => []
  | b :: r => if b = objectClose then r else b :: r

/-- The text after the end of a list, if its end comes next. -/
def afterListEnd (s : Bytes) : Bytes :=
  match skipBlanks s with
  | [] => []
  | b :: r => if b = listClose then r else if b = commaByte then skipBlanks r else b :: r

/-- The members of a record's object, read into the draft. -/
def readFields (fields : List (FieldShape δ)) : Nat → Bool → δ → Bytes → Except Fault (δ × Bytes)
  | 0, _, _, s => .error (.here .endOfObject s)
  | n + 1, first, d, s => do
    match ← nextKey first s with
    | none => pure (d, s)
    | some (k, t) =>
      match fields.find? (·.name == k) with
      | none =>
        let c ← readColon t
        let p ← skipValue (c.2.length + 1) c.2
        readFields fields n false d p.2
      | some f =>
        if f.filled d then throw (.here (.duplicateField k) (afterObjectEnd t))
        else
          let c ← readColon t
          let p ← f.read d c.2
          readFields fields n false p.1 p.2

/-- The fields of a record from the items of a list, read into the draft; `total` counts all fields and `done`
    those read. -/
def readInOrder (record : String) (total : Nat) :
    List (FieldShape δ) → Nat → Bool → δ → Bytes → Except Fault (δ × Bytes)
  | [], _, _, d, s => .ok (d, s)
  | f :: fs, done, first, d, s => do
    match ← nextItem first s with
    | none =>
      if f.optional then readInOrder record total fs (done + 1) first d s
      else throw (.here (.wrongLength done record total) (afterListEnd s))
    | some t =>
      let p ← f.read d t
      readInOrder record total fs (done + 1) false p.1 p.2

def Shape.read (r : Shape δ α) (s : Bytes) : Except Fault (α × Bytes) :=
  match skipBlanks s with
  | [] => .error (.here .endOfValue [])
  | b :: t =>
    if b = listOpen then do
      let p ← readInOrder r.name r.fields.length r.fields 0 true r.start t
      match r.finish p.1 with
      | .ok x =>
        let e ← endList p.2
        pure (x, e.2)
      | .error f => throw (.here (.missingField f) (afterListEnd p.2))
    else if b = objectOpen then do
      let p ← readFields r.fields (t.length + 1) true r.start t
      match r.finish p.1 with
      | .ok x =>
        let e ← endObject p.2
        pure (x, e.2)
      | .error f => throw (.here (.missingField f) (afterObjectEnd p.2))
    else readMismatch ("struct " ++ r.name) (b :: t)

/-- A field that has to be there. -/
def required {β : Type} (name : String) (x : Option β) : Except String β :=
  match x with
  | some v => .ok v
  | none => .error name

end ClusterPanel.Json
