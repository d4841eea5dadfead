import ClusterPanel.Diagnostic
import ClusterPanel.Session.Record
import ClusterPanel.Session.Storage

/- The one current session and its record. Opening a store takes the session from the record; where there is none,
   or none that can be read, the session is the empty one. Every write replaces the session and then its record: a
   session that is logged in is saved, any other removes the record. A record that cannot be replaced is reported
   and does not undo the write. -/
namespace ClusterPanel

/-- The current session, where it is recorded, and what was reported so far. -/
structure SessionStore where
  current : Session := .empty
  storage : Storage
  log : List Diagnostic := []
deriving Repr

namespace SessionStore

/-- The session of a storage, with what there is to report about its record. -/
def rehydrate (s : Storage) : Session × List Diagnostic :=
  match s.load with
  | .error e => (.empty, [.unreadableRecord e.message])
  | .ok none => (.empty, [])
  | .ok (some record) =>
    match Session.ofText record with
    | .ok session => (session, [])
    | .error f => (.empty, [.discardedRecord (f.message (Text.bytesOf record))])

def ofStorage (s : Storage) : SessionStore :=
  { current := (rehydrate s).1, storage := s, log := (rehydrate s).2 }

/-- Makes the record the one of the given session. -/
def persist (session : Session) (s : Storage) : Storage × Option StorageFault :=
  if session.isAuthenticated then s.save session.toText else s.remove

/-- What there is to report when a record was to be replaced. -/
def unsaved (e : Option StorageFault) : List Diagnostic :=
  match e with
  | none => []
  | some e => [.unsavedSession e.message]

def write (session : Session) (s : SessionStore) : SessionStore :=
  let r := persist session s.storage
  { current := session, storage := r.1, log := s.log ++ unsaved r.2 }

/-- Replaces the session by the empty one. -/
def logout (s : SessionStore) : SessionStore := s.write .empty

def report (d : Diagnostic) (s : SessionStore) : SessionStore := { s with log := s.log ++ [d] }

/-- The store over the same storage, opened again. -/
def reopen (s : SessionStore) : SessionStore :=
  { current := (rehydrate s.storage).1, storage := s.storage, log := s.log ++ (rehydrate s.storage).2 }

end SessionStore

end ClusterPanel
