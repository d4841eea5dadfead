import ClusterPanel.Proofs.RequestCredential

/- Requests that reach the login endpoint. Whether a request carries a credential is asked of the endpoint as the
   caller spelled it, while its URL is made of the base and the endpoint, with a slash between them that the caller
   may leave out. So the login endpoint has two kinds of spellings (`destination_urlOf_eq_iff`): with the slash at the
   front it is told to be a login and carries nothing; without it the request goes to the same URL and carries the
   credential of the session like any other request (`credential_at_login_url`, `login_url_with_credential`). -/
namespace ClusterPanel

open Text

/-- Where a URL leads: what stands before a question mark or number sign, without slashes at the end. -/
def destination (url : String) : List Char :=
  trimEndOf '/' (url.toList.takeWhile fun c => c ≠ '?' && c ≠ '#')

/-- A base without a question mark or number sign, so that endpoints can be put behind it. -/
def IsBase (base : String) : Prop := ∀ c ∈ base.toList, c ≠ '?' ∧ c ≠ '#'

instance (base : String) : Decidable (IsBase base) :=
  List.decidableBAll (fun c => c ≠ '?' ∧ c ≠ '#') base.toList

theorem isLoginEndpoint_iff {endpoint : String} :
    isLoginEndpoint endpoint = true ↔ destination endpoint = loginEndpoint.toList := beq_iff_eq

/-! ## Slashes at the end -/

theorem isPrefix_trimEndOf (c : Char) (s : List Char) : trimEndOf c s <+: s := by
  rw [trimEndOf, ← List.reverse_suffix, List.reverse_reverse]
  exact List.dropWhile_suffix _

theorem trimEndOf_append {c : Char} (s t : List Char) :
    trimEndOf c (s ++ t) = if trimEndOf c t = [] then trimEndOf c s else s ++ trimEndOf c t := by
  unfold trimEndOf
  rw [List.reverse_append, List.dropWhile_append]
  simp only [List.isEmpty_iff, List.reverse_eq_nil_iff]
  split
  · rfl
  · rw [List.reverse_append, List.reverse_reverse]

theorem isPrefix_destination (url : String) : destination url <+: url.toList :=
  (isPrefix_trimEndOf _ _).trans (List.takeWhile_prefix _)

/-! ## Where an endpoint leads -/

section Destination

variable {base endpoint : String}

/-- What is put behind a base leads to a place below it, unless it leads nowhere. -/
theorem destination_append (hb : IsBase base) (s : String) :
    destination (base ++ s) =
      if destination s = [] then trimEndOf '/' base.toList else base.toList ++ destination s := by
  have hall : ∀ c ∈ base.toList, (c ≠ '?' && c ≠ '#') = true := by
    intro c hc
    obtain ⟨hq, hh⟩ := hb c hc
    simp only [ne_eq, hq, hh, not_false_eq_true, decide_true, Bool.and_self]
  unfold destination
  rw [String.toList_append, List.takeWhile_append_of_pos hall, trimEndOf_append]

/-- Behind a base the login endpoint is reached by what leads to it without the base. -/
theorem destination_append_eq_iff (hb : IsBase base) (s : String) :
    destination (base ++ s) = base.toList ++ loginEndpoint.toList ↔ destination s = loginEndpoint.toList := by
  rw [destination_append hb]
  split
  · next hs =>
    -- What leads nowhere leaves at most the base, which is shorter.
    have hlogin : 0 < loginEndpoint.toList.length := by decide
    constructor
    · intro h
      have hle := (isPrefix_trimEndOf '/' base.toList).length_le
      rw [h, List.length_append] at hle
      omega
    · intro h
      rw [hs] at h
      rw [← h] at hlogin
      exact absurd hlogin (Nat.lt_irrefl 0)
  · exact List.append_right_inj base.toList

theorem head_of_isLoginEndpoint (h : isLoginEndpoint endpoint = true) : endpoint.toList.head? = some '/' := by
  obtain ⟨t, ht⟩ := isPrefix_destination endpoint
  rw [isLoginEndpoint_iff.1 h] at ht
  rw [← ht]
  rfl

/-- The spellings of the login endpoint: with the slash at the front, and without it. -/
theorem destination_urlOf_eq_iff (hb : IsBase base) :
    destination (urlOf base endpoint) = base.toList ++ loginEndpoint.toList ↔
      isLoginEndpoint endpoint = true ∨
        endpoint.toList.head? ≠ some '/' ∧ destination endpoint = loginEndpoint.toList.tail := by
  unfold urlOf
  split
  · next hslash => rw [destination_append_eq_iff hb, isLoginEndpoint_iff, or_iff_left fun h => h.1 hslash]
  · next hslash =>
    have hnot : isLoginEndpoint endpoint ≠ true := fun h => hslash (head_of_isLoginEndpoint h)
    have hcons : loginEndpoint.toList = "/".toList ++ loginEndpoint.toList.tail := by decide
    have hfront : IsBase "/" := by decide
    rw [String.append_assoc, destination_append_eq_iff hb, or_iff_right hnot, and_iff_right hslash,
      destination_append hfront]
    split
    · next hs =>
      rw [hs]
      decide
    · rw [hcons, List.append_right_inj]
      rfl

end Destination

/-! ## Credentials -/

/-- A request whose URL is that of the login endpoint carries no credential if its endpoint begins with a slash; if it
    does not, the request carries whatever credential the session has. -/
theorem credential_at_login_url {base endpoint : String} {session : Session} {o : RequestOptions} (hb : IsBase base)
    (hurl : destination (buildRequest base session endpoint o).url = base.toList ++ loginEndpoint.toList) :
    (endpoint.toList.head? = some '/' →
      (buildRequest base session endpoint o).headers.values authorization = []) ∧
    (endpoint.toList.head? ≠ some '/' →
      (buildRequest base session endpoint o).headers.values authorization =
        (session.bearer?.bind bearerValue?).toList) := by
  have hspelling := (destination_urlOf_eq_iff hb).1 hurl
  constructor
  · intro hslash
    exact values_buildRequest_login (hspelling.resolve_right fun h => h.1 hslash)
  · intro hslash
    have hnot : isLoginEndpoint endpoint ≠ true := fun h => hslash (head_of_isLoginEndpoint h)
    rw [values_buildRequest, credential?, if_neg hnot]

/-- The same place with a query behind it and with a slash at its end: told to be a login, however it is spelled there,
    as long as the slash at the front is written. -/
theorem credential_at_login_url_query :
    let request := buildRequest "http://localhost/api/v1" ⟨some "token", none, none⟩ "/auth/login/?next=#top" {}
    IsBase "http://localhost/api/v1" ∧
      destination request.url = "http://localhost/api/v1".toList ++ loginEndpoint.toList ∧
      request.headers.values authorization = [] := by
  intro request
  have hb : IsBase "http://localhost/api/v1" := by decide
  have hurl : destination request.url = "http://localhost/api/v1".toList ++ loginEndpoint.toList := by decide
  exact ⟨hb, hurl, (credential_at_login_url hb hurl).1 (by decide)⟩

/-- Without the slash at the front the token goes out to the login endpoint. -/
theorem login_url_with_credential :
    let request := buildRequest "http://localhost/api/v1" ⟨some "token", none, none⟩ "auth/login" {}
    destination request.url = "http://localhost/api/v1".toList ++ loginEndpoint.toList ∧
      request.headers.values authorization = ["Bearer token"] := by
  decide

end ClusterPanel
