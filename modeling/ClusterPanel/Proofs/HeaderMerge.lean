import ClusterPanel.Proofs.RequestCredential
import ClusterPanel.Text.Utf8

/- The header fields of one request. A caller puts fields together by giving a name one value or one value more
   (`Headers.ofEdits`), in any order and as often as it likes. What goes out under a name (`Headers.sentUnder`) is then
   what the caller gave it (`given`), and nothing goes out under names that the caller did not give, but for two
   (`request_headers`): `content-type` has a value of its own as long as the caller gives it none, and what stands
   under `authorization` is the credential of the session or nothing, whatever the caller gave. A token makes a
   credential exactly when its bytes are no controls (`isHeaderValue_iff`). -/
namespace ClusterPanel

open Http Text

/-! ## Sorted lists -/

namespace Keyed

variable {α : Type} {m extra : Keyed α} {k k' : String} {v : α}

theorem get?_insert_ne (h : k' ≠ k) : (m.insert k v).get? k' = m.get? k' := by
  induction m with
  | nil => simp [insert, get?, h]
  | cons p m ih =>
    obtain ⟨a, x⟩ := p
    simp only [insert]
    split
    · next hk =>
      rw [get?, if_neg h, get?, if_neg (hk ▸ h)]
    split
    · rw [get?, if_neg h]
    · simp only [get?, ih]

theorem get?_filter_of_ne (h : k' ≠ k) : Keyed.get? k' (m.filter (·.1 ≠ k)) = m.get? k' := by
  induction m with
  | nil => rfl
  | cons p m ih =>
    obtain ⟨a, x⟩ := p
    by_cases hk : a = k
    · rw [List.filter_cons_of_neg (by simpa using hk), ih, get?, if_neg (hk ▸ h)]
    · rw [List.filter_cons_of_pos (by simpa using hk), get?, get?, ih]

theorem get?_eq_none (h : ∀ p ∈ m, p.1 ≠ k) : m.get? k = none := by
  induction m with
  | nil => rfl
  | cons p m ih =>
    rw [get?, if_neg (h p List.mem_cons_self).symm]
    exact ih fun q hq => h q (List.mem_cons_of_mem _ hq)

/-- In a sorted list no key of the rest is that of the front. -/
theorem Sorted.ne_of_mem {p : String × α} (h : Sorted (p :: m)) : ∀ q ∈ m, q.1 ≠ p.1 := by
  intro q hq he
  have hbefore := List.rel_of_pairwise_cons h hq
  rw [he] at hbefore
  exact before_irrefl _ hbefore

end Keyed

namespace Http

/-! ## What a caller gives -/

/-- A caller gives a name a value: one more, or one in the stead of those that it had. -/
structure HeaderEdit where
  name : String
  value : String
  more : Bool

/-- What a name has after an edit, of what it had before. The case of letters in names does not count. -/
def HeaderEdit.gives (name : String) (had : List String) (e : HeaderEdit) : List String :=
  if e.name.map Char.toLower = name then if e.more then had ++ [e.value] else [e.value] else had

/-- What a caller gave a name, in the order in which it was given. -/
def given (name : String) (edits : List HeaderEdit) : List String := edits.foldl (HeaderEdit.gives name) []

namespace Headers

/-- One edit, if its name and its value are such as headers may have. -/
def edit (h : Headers) (e : HeaderEdit) : Except Fault Headers := do
  let field ← headerField e.name e.value
  pure (if e.more then h.append field.1 field.2 else h.set field.1 field.2)

/-- The fields that a caller put together. -/
def ofEdits (edits : List HeaderEdit) : Except Fault Headers := edits.foldlM edit []

/-- What goes out under a name, in order. -/
def sentUnder (name : String) (h : Headers) : List String := (h.fields.filter (·.1 = name)).map (·.2)

end Headers

namespace Headers

variable {name : String} {vs : List String} {h h' extra : Headers}

/-- The list has the values under the name, and does not have the name if there are none. -/
def Has (name : String) (vs : List String) (h : Headers) : Prop := h.get? name = if vs = [] then none else some vs

theorem Has.values (hv : Has name vs h) : values name h = vs := by
  unfold Headers.values
  rw [hv]
  split
  · next hnil => exact hnil.symm
  · rfl

theorem sentUnder_cons (p : String × List String) (h : Headers) :
    sentUnder name (p :: h) = (if p.1 = name then p.2 else []) ++ sentUnder name h := by
  unfold sentUnder fields
  rw [List.flatMap_cons, List.filter_append, List.map_append]
  congr 1
  split
  · next hname => simp [List.filter_map, Function.comp_def, hname]
  · next hname => simp [List.filter_map, Function.comp_def, hname]

theorem sentUnder_eq_nil (hn : ∀ p ∈ h, p.1 ≠ name) : sentUnder name h = [] := by
  induction h with
  | nil => rfl
  | cons p h ih =>
    rw [sentUnder_cons, if_neg (hn p List.mem_cons_self), ih fun q hq => hn q (List.mem_cons_of_mem _ hq)]
    rfl

/-- What goes out under a name is what stands under it. -/
theorem sentUnder_eq_values (hs : h.Sorted) : sentUnder name h = values name h := by
  induction h with
  | nil => rfl
  | cons p h ih =>
    rw [sentUnder_cons, values, Keyed.get?]
    by_cases hp : p.1 = name
    · rw [if_pos hp, if_pos hp.symm, sentUnder_eq_nil (hp ▸ hs.ne_of_mem), List.append_nil]
      rfl
    · rw [if_neg hp, if_neg (Ne.symm hp), List.nil_append]
      exact ih (List.Pairwise.of_cons hs)

theorem mem_fields {field : String × String} : field ∈ h.fields ↔ field.2 ∈ sentUnder field.1 h := by
  simp [sentUnder]

/-! ## Putting fields over others -/

theorem sorted_override (hs : h.Sorted) : (override extra h).Sorted := by
  unfold override
  induction extra generalizing h with
  | nil => exact hs
  | cons p extra ih => exact ih (hs.insert p.1 p.2)

theorem sorted_erase (hs : h.Sorted) : (h.erase name).Sorted := hs.filter _

/-- Of two lists the one that is put over the other has the say, as far as it has the name. -/
theorem get?_override (he : extra.Sorted) (h : Headers) :
    (override extra h).get? name = (extra.get? name).or (h.get? name) := by
  unfold override
  induction extra generalizing h with
  | nil => rfl
  | cons p extra ih =>
    rw [List.foldl_cons, ih (List.Pairwise.of_cons he), Keyed.get?]
    by_cases hp : name = p.1
    · rw [if_pos hp, hp, Keyed.get?_insert_self, Keyed.get?_eq_none he.ne_of_mem]
      rfl
    · rw [if_neg hp, Keyed.get?_insert_ne hp]

/-! ## Edits -/

theorem headerField_ok {name value : String} {field : String × String} (h : headerField name value = .ok field) :
    field = (name.map Char.toLower, value) := by
  unfold headerField at h
  split at h
  · cases h
  split at h
  · cases h
  · exact (Except.ok.inj h).symm

theorem edit_ok {e : HeaderEdit} (he : h.edit e = .ok h') :
    h' = if e.more then h.append (e.name.map Char.toLower) e.value else h.set (e.name.map Char.toLower) e.value := by
  unfold edit at he
  cases hfield : headerField e.name e.value with
  | error fault => rw [hfield] at he; cases he
  | ok field =>
    obtain rfl := headerField_ok hfield
    rw [hfield] at he
    exact (Except.ok.inj he).symm

/-- One edit: every name has then what the edit makes of what it had. -/
theorem Has.edit {e : HeaderEdit} (hv : Has name vs h) (he : h.edit e = .ok h') : Has name (e.gives name vs) h' := by
  rw [edit_ok he]
  unfold Has HeaderEdit.gives
  by_cases hname : e.name.map Char.toLower = name
  · rw [hname, if_pos rfl]
    cases e.more with
    | true =>
      show (h.append name e.value).get? name = if vs ++ [e.value] = [] then none else some (vs ++ [e.value])
      rw [append, Keyed.get?_insert_self, hv.values, if_neg (by simp)]
    | false =>
      show (h.set name e.value).get? name = if [e.value] = [] then none else some [e.value]
      rw [set, Keyed.get?_insert_self, if_neg (List.cons_ne_nil _ _)]
  · rw [if_neg hname]
    cases e.more with
    | true => exact (Keyed.get?_insert_ne (Ne.symm hname)).trans hv
    | false => exact (Keyed.get?_insert_ne (Ne.symm hname)).trans hv

theorem sorted_edit {e : HeaderEdit} (hs : h.Sorted) (he : h.edit e = .ok h') : h'.Sorted := by
  rw [edit_ok he]
  split
  · exact hs.insert _ _
  · exact hs.insert _ _

/-- All edits, on fields that are there already. -/
theorem foldlM_edit {edits : List HeaderEdit} (had : String → List String) (hs : h.Sorted)
    (hv : ∀ name, Has name (had name) h) (he : edits.foldlM edit h = .ok h') :
    h'.Sorted ∧ ∀ name, Has name (edits.foldl (HeaderEdit.gives name) (had name)) h' := by
  induction edits generalizing h had with
  | nil =>
    cases he
    exact ⟨hs, hv⟩
  | cons e edits ih =>
    rw [List.foldlM_cons] at he
    cases hedit : h.edit e with
    | error fault => rw [hedit] at he; cases he
    | ok h₁ =>
      rw [hedit] at he
      exact ih _ (sorted_edit hs hedit) (fun name => (hv name).edit hedit) he

/-- A caller's fields are sorted, and have under each name what the caller gave it. -/
theorem ofEdits_ok {edits : List HeaderEdit} (he : ofEdits edits = .ok h) :
    h.Sorted ∧ ∀ name, Has name (given name edits) h :=
  foldlM_edit (fun _ => []) List.Pairwise.nil (fun _ => rfl) he

end Headers

end Http

/-! ## Tokens in headers -/

/-- A byte that no header value has: a control, but for the tab, or the last of the ASCII codes, which deletes. -/
def IsControlByte (b : UInt8) : Prop := b < 0x20 ∧ b ≠ 0x09 ∨ b = 0x7F

theorem isControlByte_ofNat {n : Nat} (h : n < 256) : IsControlByte (.ofNat n) ↔ n < 32 ∧ n ≠ 9 ∨ n = 127 := by
  have hn := Utf8.toNat_ofNat h
  unfold IsControlByte
  rw [UInt8.lt_iff_toNat_lt, ne_eq, ← UInt8.toNat_inj, ← UInt8.toNat_inj, hn]
  rfl

/-- A character that needs more than one byte has no control among them. -/
theorem isValueChar_iff (c : Char) : isValueChar c = true ↔ ∀ b ∈ Utf8.encodeChar c, ¬IsControlByte b := by
  have hv : c.toNat < 0x110000 := by
    have := Utf8.toNat_isValidChar c
    simp only [Nat.isValidChar] at this
    omega
  have htab : c = '\t' ↔ c.toNat = 9 := by
    rw [← Char.toNat_inj]
    rfl
  have hc : isValueChar c = true ↔ ¬(c.toNat < 32 ∧ c.toNat ≠ 9 ∨ c.toNat = 127) := by
    simp only [isValueChar, Bool.or_eq_true, beq_iff_eq, Bool.and_eq_true, decide_eq_true_eq, htab]
    omega
  rw [hc]
  simp only [Utf8.encodeChar]
  split
  · rw [List.forall_mem_singleton, isControlByte_ofNat (by omega)]
  split
  · simp only [List.forall_mem_cons, List.not_mem_nil, false_implies, implies_true, and_true]
    rw [isControlByte_ofNat (by omega), isControlByte_ofNat (by omega)]
    omega
  split
  · simp only [List.forall_mem_cons, List.not_mem_nil, false_implies, implies_true, and_true]
    rw [isControlByte_ofNat (by omega), isControlByte_ofNat (by omega), isControlByte_ofNat (by omega)]
    omega
  · simp only [List.forall_mem_cons, List.not_mem_nil, false_implies, implies_true, and_true]
    rw [isControlByte_ofNat (by omega), isControlByte_ofNat (by omega), isControlByte_ofNat (by omega),
      isControlByte_ofNat (by omega)]
    omega

theorem isHeaderValue_iff (s : String) : isHeaderValue s = true ↔ ∀ b ∈ bytesOf s, ¬IsControlByte b := by
  unfold isHeaderValue bytesOf Utf8.encode
  rw [List.all_eq_true]
  constructor
  · intro h b hb
    obtain ⟨c, hc, hb⟩ := List.mem_flatMap.1 hb
    exact (isValueChar_iff c).1 (h c hc) b hb
  · intro h c hc
    exact (isValueChar_iff c).2 fun b hb => h b (List.mem_flatMap.2 ⟨c, hc, hb⟩)

/-- The token of the session goes with requests to the endpoint. -/
structure Presents (session : Session) (endpoint token : String) : Prop where
  notLogin : isLoginEndpoint endpoint = false
  held : session.token = some token
  nonempty : token ≠ ""
  sendable : ∀ b ∈ bytesOf token, ¬IsControlByte b

theorem credential?_of_presents {session : Session} {endpoint token : String} (h : Presents session endpoint token) :
    credential? session endpoint = some ("Bearer " ++ token) := by
  rw [credential?, h.notLogin, Session.bearer?_eq_some.2 ⟨h.held, h.nonempty⟩]
  simp [bearerValue?_eq, (isHeaderValue_iff token).2 h.sendable]

theorem presents_of_credential? {session : Session} {endpoint value : String}
    (h : credential? session endpoint = some value) : ∃ token, Presents session endpoint token := by
  unfold credential? at h
  split at h
  · cases h
  · next hlogin =>
    obtain ⟨token, hb, hvalue⟩ := Option.bind_eq_some_iff.1 h
    obtain ⟨ht, hne⟩ := Session.bearer?_eq_some.1 hb
    rw [bearerValue?_eq] at hvalue
    split at hvalue
    · next hv => exact ⟨token, by simpa using hlogin, ht, hne, (isHeaderValue_iff token).1 hv⟩
    · cases hvalue

/-! ## The fields of a request -/

/-- The value of `content-type` where the caller gives none. -/
def usualContentType : String := "application/json"

section Request

variable {edits : List HeaderEdit} {h : Headers} {session : Session} {base endpoint method name : String}
  {body : Option String}

theorem sorted_plainHeaders (h : Headers) : (plainHeaders h).Sorted :=
  Headers.sorted_erase (Headers.sorted_override (Keyed.Sorted.insert List.Pairwise.nil _ _))

theorem sorted_buildRequest : (buildRequest base session endpoint ⟨method, h, body⟩).headers.Sorted := by
  unfold buildRequest
  cases credential? session endpoint with
  | none => exact sorted_plainHeaders h
  | some value => exact (sorted_plainHeaders h).insert _ _

/-- What stands under a name other than that of the credential: what the caller gave, or else the usual. -/
theorem values_buildRequest_of_ne (hs : h.Sorted) (hn : name ≠ authorization) :
    (buildRequest base session endpoint ⟨method, h, body⟩).headers.values name =
      ((h.get? name).or (if name = contentType then some [usualContentType] else none)).getD [] := by
  have hplain : (plainHeaders h).get? name =
      (h.get? name).or (if name = contentType then some [usualContentType] else none) := by
    rw [plainHeaders, Headers.erase, Keyed.get?_filter_of_ne hn, Headers.get?_override hs]
    rfl
  unfold buildRequest Headers.values
  cases credential? session endpoint with
  | none => exact congrArg (·.getD []) hplain
  | some value =>
    dsimp only
    rw [Headers.set, Keyed.get?_insert_ne hn, hplain]

end Request

/-- A request has the caller's method and body. Under every name other than `authorization` that the caller gave values
    it has exactly these, in their order; `content-type` has the usual value, which the caller did not give, exactly
    when the caller gave it none; and no other names go out. Under `authorization` goes what the session presents at
    the endpoint and nothing else, whatever the caller gave. -/
theorem request_headers {edits : List HeaderEdit} {h : Headers} (hh : Headers.ofEdits edits = .ok h)
    (session : Session) (base endpoint method : String) (body : Option String) :
    let r := buildRequest base session endpoint ⟨method, h, body⟩
    r.method = method ∧ r.body = body ∧
      (∀ name, name ≠ authorization → given name edits ≠ [] → r.headers.sentUnder name = given name edits) ∧
      (r.headers.sentUnder contentType = [usualContentType] ∧ given contentType edits ≠ [usualContentType] ↔
        given contentType edits = []) ∧
      (∀ field ∈ r.headers.fields,
        field.1 = authorization ∨ field.1 = contentType ∨ given field.1 edits ≠ []) ∧
      (∀ token, Presents session endpoint token → r.headers.sentUnder authorization = ["Bearer " ++ token]) ∧
      ((∀ token, ¬Presents session endpoint token) → r.headers.sentUnder authorization = []) := by
  intro r
  obtain ⟨hsorted, hgiven⟩ := Headers.ofEdits_ok hh
  have hsent (name : String) : r.headers.sentUnder name = r.headers.values name :=
    Headers.sentUnder_eq_values sorted_buildRequest
  have hsay : ∀ name, name ≠ authorization → given name edits ≠ [] → r.headers.sentUnder name = given name edits := by
    intro name hn hne
    rw [hsent, values_buildRequest_of_ne hsorted hn, hgiven name, if_neg hne]
    rfl
  have hsilent : ∀ name, name ≠ authorization → given name edits = [] →
      r.headers.sentUnder name = if name = contentType then [usualContentType] else [] := by
    intro name hn hnil
    rw [hsent, values_buildRequest_of_ne hsorted hn, hgiven name, if_pos hnil]
    split <;> rfl
  have hcredential : r.headers.sentUnder authorization = (credential? session endpoint).toList :=
    (hsent authorization).trans values_buildRequest
  have htype : contentType ≠ authorization := by decide
  refine ⟨rfl, rfl, hsay, ⟨?_, ?_⟩, ?_, ?_, ?_⟩
  · intro ⟨husual, hother⟩
    by_cases hnil : given contentType edits = []
    · exact hnil
    · exact absurd ((hsay contentType htype hnil).symm.trans husual) hother
  · intro hnil
    refine ⟨(hsilent contentType htype hnil).trans (if_pos rfl), ?_⟩
    rw [hnil]
    exact (List.cons_ne_nil _ _).symm
  · intro field hfield
    by_cases hn : field.1 = authorization
    · exact .inl hn
    by_cases hnil : given field.1 edits = []
    · rw [Headers.mem_fields, hsilent field.1 hn hnil] at hfield
      split at hfield
      · next ht => exact .inr (.inl ht)
      · cases hfield
    · exact .inr (.inr hnil)
  · intro token hpresents
    rw [hcredential, credential?_of_presents hpresents]
    rfl
  · intro hnone
    rw [hcredential]
    cases hc : credential? session endpoint with
    | none => rfl
    | some value =>
      obtain ⟨token, hpresents⟩ := presents_of_credential? hc
      exact absurd hpresents (hnone token)

/-- A credential that the caller made up is dropped, values that were given one after the other stay in order, and the
    token goes out with the tab in it. -/
theorem request_headers_forged :
    let edits : List HeaderEdit :=
      [⟨"X-Tag", "a", false⟩, ⟨"AUTHORIZATION", "Bearer forged", false⟩, ⟨"x-tag", "b", true⟩]
    ∃ h, Headers.ofEdits edits = .ok h ∧
      let r := buildRequest "http://panel" { token := some "to\tken" } "/jobs" ⟨"PUT", h, none⟩
      r.headers.sentUnder "x-tag" = ["a", "b"] ∧ r.headers.sentUnder authorization = ["Bearer to\tken"] := by
  intro edits
  have hok : (Headers.ofEdits edits).toOption.isSome = true := by decide +kernel
  obtain ⟨h, hh⟩ : ∃ h, Headers.ofEdits edits = .ok h := by
    cases he : Headers.ofEdits edits with
    | ok h => exact ⟨h, rfl⟩
    | error fault => rw [he] at hok; cases hok
  obtain ⟨-, -, hsay, -, -, hpresents, -⟩ :=
    request_headers hh { token := some "to\tken" } "http://panel" "/jobs" "PUT" none
  have htag : given "x-tag" edits = ["a", "b"] := by decide +kernel
  refine ⟨h, hh, ?_, hpresents "to\tken" ⟨by decide, rfl, by decide, (isHeaderValue_iff _).1 (by decide)⟩⟩
  rw [← htag]
  exact hsay "x-tag" (by decide) (by rw [htag]; exact List.cons_ne_nil _ _)

end ClusterPanel
