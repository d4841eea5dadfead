import ClusterPanel.Proofs.LosslessOutput

/- What the URL of a call tells of the call. An endpoint is the name of a collection and, behind it, the view of the
   collection that is meant (`View`): a list, one item, or an aspect of one item. The name ends before the first slash
   or question mark, so the collection can be told from the URL (`collection_append_inj`), and most often the view can
   be as well. The exception is an identifier that ends in the name of an aspect: to ask for the item of that identifier
   is to ask for the aspect of a shorter one (`Resource.Mistaken`). No other two calls share a URL, and none begins with
   the URL of the login endpoint (`call_urls`). -/
namespace ClusterPanel

open Json Text

theorem JobStatus.name_inj {s s' : JobStatus} (h : s.name = s'.name) : s = s' := by
  cases s <;> cases s' <;> simp_all [name]

/-! ## Views of a collection -/

/-- What a call asks a collection for: a list, of one status or of all, or an item. The aspect of an item is named with
    a slash at its front, and is empty where the item itself is meant. -/
inductive View where
  | list (status : Option JobStatus)
  | item (id aspect : String)
deriving DecidableEq

namespace View

/-- A view as it stands in a URL behind the name of its collection. -/
def text : View → String
  | list none => ""
  | list (some status) => "?status=" ++ status.name
  | item id aspect => "/" ++ id ++ aspect

theorem text_list_inj {s s' : Option JobStatus} (h : (list s).text = (list s').text) : s = s' := by
  cases s with
  | none => cases s' <;> simp_all [text, String.ext_iff]
  | some s =>
    cases s' with
    | none => simp [text, String.ext_iff] at h
    | some s' =>
      rw [text, text, String.append_right_inj] at h
      rw [JobStatus.name_inj h]

/-- The name of a collection ends where its view begins: with a slash or a question mark, or not at all. -/
theorem head_text (v : View) : ∀ c ∈ v.text.toList.head?, c = '/' ∨ c = '?' := by
  rcases v with (_ | s) | ⟨id, aspect⟩
  · simp [text]
  · simp [text]
  · simp [text]

theorem text_list_ne_item (s : Option JobStatus) (id aspect : String) : (list s).text ≠ (item id aspect).text := by
  intro h
  have hhead := congrArg (fun t => t.toList.head?) h
  cases s <;> simp [text] at hhead

end View

namespace Resource

/-- The collection of a resource. -/
def collection : Resource → String
  | jobs _ | job _ | jobStatus _ | jobEvents _ => "jobs"
  | instances | instanceOf _ => "instances"
  | nodes | node _ | nodeHealth _ => "nodes"
  | statistics => "stats"

/-- What a resource is in its collection. -/
def view : Resource → View
  | jobs status => .list status
  | instances | nodes | statistics => .list none
  | job id | instanceOf id | node id => .item id ""
  | jobStatus id => .item id "/status"
  | jobEvents id => .item id "/events"
  | nodeHealth id => .item id "/health"

theorem endpoint_eq (r : Resource) : r.endpoint = "/" ++ r.collection ++ r.view.text := by
  cases r with
  | jobs status => cases status <;> simp [endpoint, collection, view, View.text, jobsEndpoint, ← String.append_assoc]
  | _ => simp [endpoint, collection, view, View.text, ← String.append_assoc]

theorem eq_of_view {r r' : Resource} (hc : r.collection = r'.collection) (hv : r.view = r'.view) : r = r' := by
  cases r <;> cases r' <;> simp_all [collection, view]

/-- The names of the aspects are of one length. -/
theorem length_aspect {r : Resource} {id aspect : String} (h : r.view = .item id aspect) :
    aspect = "" ∨ aspect.toList.length = 7 := by
  cases r <;> simp_all [view] <;> simp [← h.2]

/-- The identifier of one call ends in the name of an aspect, and the other call asks for this aspect of the rest. -/
inductive Mistaken : Resource → Resource → Prop
  | status (id : String) : Mistaken (job (id ++ "/status")) (jobStatus id)
  | events (id : String) : Mistaken (job (id ++ "/events")) (jobEvents id)
  | health (id : String) : Mistaken (node (id ++ "/health")) (nodeHealth id)

theorem Mistaken.endpoint_eq {r r' : Resource} (h : Mistaken r r') : r.endpoint = r'.endpoint := by
  cases h <;> simp [endpoint, ← String.append_assoc]

theorem mistaken_of_view {r r' : Resource} {id aspect : String} (hc : r.collection = r'.collection)
    (h : r.view = .item (id ++ aspect) "") (h' : r'.view = .item id aspect) (ha : aspect.toList.length = 7) :
    Mistaken r r' := by
  cases r' with
  | jobs _ | instances | nodes | statistics => cases h'
  | job _ | instanceOf _ | node _ =>
    cases h'
    cases ha
  | jobStatus id' | jobEvents id' =>
    cases h'
    cases r <;> simp_all [view, collection]
    constructor
  | nodeHealth id' =>
    cases h'
    cases r <;> simp_all [view, collection]
    constructor

/-- What the URL says behind the collection tells the view, unless an identifier hides an aspect. -/
theorem mistaken_of_text {r r' : Resource} (hc : r.collection = r'.collection) (ht : r.view.text = r'.view.text) :
    r = r' ∨ Mistaken r r' ∨ Mistaken r' r := by
  cases hv : r.view with
  | list s =>
    cases hv' : r'.view with
    | list s' =>
      rw [hv, hv'] at ht
      exact .inl (eq_of_view hc (by rw [hv, hv', View.text_list_inj ht]))
    | item id' aspect' => exact absurd (hv ▸ hv' ▸ ht) (View.text_list_ne_item s id' aspect')
  | item id aspect =>
    cases hv' : r'.view with
    | list s' => exact absurd (hv ▸ hv' ▸ ht.symm) (View.text_list_ne_item s' id aspect)
    | item id' aspect' =>
      rw [hv, hv', View.text, View.text, String.append_assoc, String.append_assoc, String.append_right_inj] at ht
      rcases length_aspect hv with rfl | ha <;> rcases length_aspect hv' with rfl | ha'
      · rw [String.append_empty, String.append_empty] at ht
        exact .inl (eq_of_view hc (by rw [hv, hv', ht]))
      · rw [String.append_empty] at ht
        exact .inr (.inl (mistaken_of_view hc (ht ▸ hv) hv' ha'))
      · rw [String.append_empty] at ht
        exact .inr (.inr (mistaken_of_view hc.symm (ht ▸ hv') hv ha))
      · -- Aspects of one length cannot stand for a part of an identifier.
        have hlist := congrArg String.toList ht
        rw [String.toList_append, String.toList_append] at hlist
        obtain ⟨hid, haspect⟩ := List.append_inj' hlist (ha.trans ha'.symm)
        rw [String.toList_inj] at hid haspect
        exact .inl (eq_of_view hc (by rw [hv, hv', hid, haspect]))

/-- A character that may stand in the name of a collection. -/
def inName (c : Char) : Bool := c ≠ '/' && c ≠ '?'

/-- The name of a collection can be told from what stands behind it. -/
theorem collection_append_inj {r r' : Resource} (h : r.collection ++ r.view.text = r'.collection ++ r'.view.text) :
    r.collection = r'.collection ∧ r.view.text = r'.view.text := by
  have hname (r : Resource) : (r.collection ++ r.view.text).toList.takeWhile inName = r.collection.toList := by
    have hall : ∀ c ∈ r.collection.toList, inName c = true := by cases r <;> simp [collection] <;> decide
    have hview : r.view.text.toList.takeWhile inName = [] := by
      cases ht : r.view.text.toList with
      | nil => rfl
      | cons c t =>
        apply List.takeWhile_cons_of_neg
        rcases View.head_text r.view c (by rw [ht]; rfl) with rfl | rfl <;> decide
    rw [String.toList_append, List.takeWhile_append_of_pos hall, hview, List.append_nil]
  have hc : r.collection = r'.collection := by
    rw [← String.toList_inj, ← hname r, ← hname r', h]
  rw [hc, String.append_right_inj] at h
  exact ⟨hc, h⟩

theorem endpoint_eq_iff {r r' : Resource} :
    r.endpoint = r'.endpoint ↔ r = r' ∨ Mistaken r r' ∨ Mistaken r' r := by
  constructor
  · intro h
    rw [endpoint_eq, endpoint_eq, String.append_assoc, String.append_assoc, String.append_right_inj] at h
    obtain ⟨hc, ht⟩ := collection_append_inj h
    exact mistaken_of_text hc ht
  · rintro (rfl | h | h)
    · rfl
    · exact h.endpoint_eq
    · exact h.endpoint_eq.symm

theorem urlOf_endpoint (base : String) (r : Resource) : urlOf base r.endpoint = base ++ r.endpoint := by
  have hslash : r.endpoint.toList.head? = some '/' := by simp [endpoint_eq]
  rw [urlOf, if_pos hslash]

theorem url_eq_iff {base : String} {r r' : Resource} :
    urlOf base r.endpoint = urlOf base r'.endpoint ↔ r = r' ∨ Mistaken r r' ∨ Mistaken r' r := by
  rw [urlOf_endpoint, urlOf_endpoint, String.append_right_inj, endpoint_eq_iff]

/-- No resource is read at the login endpoint or below it. -/
theorem not_login_endpoint (base : String) (r : Resource) :
    ¬ (urlOf base loginEndpoint).toList <+: (urlOf base r.endpoint).toList := by
  have hlogin : urlOf base loginEndpoint = base ++ loginEndpoint := if_pos (by decide)
  rw [urlOf_endpoint, hlogin, String.toList_append, String.toList_append, List.prefix_append_right_inj, endpoint_eq]
  -- No collection has a name that begins as the login endpoint goes on behind its slash.
  cases r <;> simp [collection, loginEndpoint]

end Resource

/-! ## Calls -/

namespace Command

/-- What is read for an identifier, if it is not blank; blanks around it do not count. -/
def readsNamed (resource : String → Resource) (id : String) : Option Resource :=
  if isBlankText id then none else some (resource (trimText id))

/-- The resource that a command reads, if it reads one and its identifier can be used. -/
def reads? : Command → Option Resource
  | .listJobs status => some (.jobs status)
  | .getJob id => readsNamed .job id
  | .jobStatus id => readsNamed .jobStatus id
  | .jobEvents id => readsNamed .jobEvents id
  | .listInstances => some .instances
  | .getInstance id => readsNamed .instanceOf id
  | .listNodes => some .nodes
  | .getNode id => readsNamed .node id
  | .nodeHealth id => readsNamed .nodeHealth id
  | .statistics => some .statistics
  | .login _ _ | .logout | .whoami | .submitJob _ => none

end Command

namespace Client

variable {cmd cmd' : Command} {r r' : Resource} {c c' : Client}

theorem sent_withId {α : Type} {read : Bytes → Except Json.Fault α} {noun id : String} {endpoint : String → String}
    (f : Format) (show_ : α → Shown) (h : ¬ isBlankText id = true) :
    ((CommandM.withId noun id fun id => .ask f show_ (request read (endpoint id) {})).runOn c).client.sent =
      c.sent ++ [buildRequest c.base c.store.current (endpoint (trimText id)) {}] := by
  rw [CommandM.withId_of_not_blank h]
  exact sent_ask f show_ read (endpoint (trimText id)) {} c

/-- A command that reads a resource sends one request, which asks for this resource. -/
theorem sent_run_reads (h : cmd.reads? = some r) (f : Format) (clock : Clock) :
    (c.run f clock cmd).client.sent = c.sent ++ [buildRequest c.base c.store.current r.endpoint {}] := by
  cases cmd with
  | login _ _ | logout | whoami | submitJob _ => cases h
  | listJobs _ | listInstances | listNodes | statistics =>
    cases h
    exact sent_ask f _ _ _ {} c
  | getJob id | jobStatus id | jobEvents id | getInstance id | getNode id | nodeHealth id =>
    simp only [Command.reads?, Command.readsNamed, Option.ite_none_left_eq_some, Option.some.injEq] at h
    obtain ⟨hid, rfl⟩ := h
    exact sent_withId f _ hid

/-- Two commands that read resources, run by clients of one backend, each send one request. The URLs are the same
    exactly when the resources are, or when the identifier of one ends in the name of an aspect that the other asks for;
    and neither URL begins with that of the login endpoint.

    URLs are compared as the texts that are handed over to be sent. Dot segments in an identifier, as in `../nodes` or
    `../auth/login`, stand in these texts as they are, and are resolved only when the request is on its way. -/
theorem call_urls (hr : cmd.reads? = some r) (hr' : cmd'.reads? = some r') (hbase : c'.base = c.base)
    (f f' : Format) (clock clock' : Clock) :
    ∃ q q', (c.run f clock cmd).client.sent = c.sent ++ [q] ∧ (c'.run f' clock' cmd').client.sent = c'.sent ++ [q'] ∧
      (q.url = q'.url ↔ r = r' ∨ r.Mistaken r' ∨ r'.Mistaken r) ∧
      ¬ (urlOf c.base loginEndpoint).toList <+: q.url.toList ∧
      ¬ (urlOf c.base loginEndpoint).toList <+: q'.url.toList := by
  refine ⟨_, _, sent_run_reads hr f clock, sent_run_reads hr' f' clock', ?_, Resource.not_login_endpoint _ r, ?_⟩
  · rw [hbase]
    exact Resource.url_eq_iff
  · rw [hbase]
    exact Resource.not_login_endpoint _ r'

/-- Marks and slashes in an identifier, and blanks around it: still the status and the events of a job have different
    URLs. -/
theorem call_urls_marked :
    let c := create "http://centro.test/api/v1" (.memory none {}) []
    (Command.jobStatus " a/b?c#d ").reads? = some (.jobStatus "a/b?c#d") ∧
      (Command.jobEvents "a/b?c#d").reads? = some (.jobEvents "a/b?c#d") ∧
      ∃ q q', (c.run .table ⟨⟨0, 0⟩, 0⟩ (.jobStatus " a/b?c#d ")).client.sent = [q] ∧
        (c.run .json ⟨⟨0, 0⟩, 0⟩ (.jobEvents "a/b?c#d")).client.sent = [q'] ∧ q.url ≠ q'.url := by
  intro c
  have hstatus : (Command.jobStatus " a/b?c#d ").reads? = some (.jobStatus "a/b?c#d") := by decide
  have hevents : (Command.jobEvents "a/b?c#d").reads? = some (.jobEvents "a/b?c#d") := by decide
  obtain ⟨q, q', hq, hq', hurl, -⟩ :=
    call_urls hstatus hevents (rfl : c.base = c.base) .table .json ⟨⟨0, 0⟩, 0⟩ ⟨⟨0, 0⟩, 0⟩
  refine ⟨hstatus, hevents, q, q', hq, hq', ?_⟩
  intro h
  rcases hurl.1 h with h | h | h <;> cases h

/-- The job of one identifier and the status of the job of another are asked for at the same URL. -/
theorem aspect_in_identifier :
    let c := create "http://centro.test/api/v1" (.memory none {}) []
    let urls (cmd : Command) := (c.run .table ⟨⟨0, 0⟩, 0⟩ cmd).client.sent.map (·.url)
    (Command.getJob "j1/status").reads? = some (.job "j1/status") ∧
      (Command.jobStatus "j1").reads? = some (.jobStatus "j1") ∧
      urls (.getJob "j1/status") = ["http://centro.test/api/v1/jobs/j1/status"] ∧
      urls (.jobStatus "j1") = ["http://centro.test/api/v1/jobs/j1/status"] := by
  decide

end Client

end ClusterPanel
