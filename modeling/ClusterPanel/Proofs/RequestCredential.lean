import ClusterPanel.Client.Basic

/- The credential of one request. Whatever header fields a caller asks for, what stands under `authorization` in the
   request that is built is what the session calls for at the endpoint, and nothing else
   (`values_buildRequest`): nothing at the login endpoint (`values_buildRequest_login`), and elsewhere the token of
   the session if it has one that a header can hold (`values_buildRequest_some`, `values_buildRequest_ne_nil_iff`). -/
namespace ClusterPanel

open Http Text

/-! ## Header fields -/

theorem Keyed.get?_insert_self {α : Type} (k : String) (v : α) (m : Keyed α) : (m.insert k v).get? k = some v := by
  induction m with
  | nil => simp [Keyed.insert, Keyed.get?]
  | cons p m ih =>
    simp only [Keyed.insert]
    split
    · simp [Keyed.get?]
    · next h =>
      split
      · simp [Keyed.get?]
      · simpa [Keyed.get?, h] using ih

theorem Keyed.get?_filter_ne {α : Type} (k : String) (m : Keyed α) : Keyed.get? k (m.filter (·.1 ≠ k)) = none := by
  induction m with
  | nil => rfl
  | cons p m ih =>
    by_cases h : p.1 = k
    · simpa [h] using ih
    · rw [List.filter_cons_of_pos (by simpa using h), Keyed.get?, if_neg (Ne.symm h)]
      exact ih

namespace Http.Headers

theorem values_set (name value : String) (h : Headers) : values name (h.set name value) = [value] := by
  rw [values, set, Keyed.get?_insert_self]
  rfl

theorem values_erase (name : String) (h : Headers) : values name (h.erase name) = [] := by
  rw [values, erase, Keyed.get?_filter_ne]
  rfl

end Http.Headers

/-! ## Tokens in headers -/

/-- A token can stand behind the word that goes before it exactly when it can stand alone. -/
theorem isHeaderValue_bearer (token : String) : isHeaderValue ("Bearer " ++ token) = isHeaderValue token := by
  have h : "Bearer ".toList.all isValueChar = true := by decide
  simp only [isHeaderValue, String.toList_append, List.all_append, h, Bool.true_and]

theorem bearerValue?_eq (token : String) :
    bearerValue? token = if isHeaderValue token then some ("Bearer " ++ token) else none := by
  simp only [bearerValue?, isHeaderValue_bearer]

namespace Session

theorem bearer?_eq_some {s : Session} {token : String} :
    s.bearer? = some token ↔ s.token = some token ∧ token ≠ "" := by
  simp [bearer?, Option.filter_eq_some_iff]

theorem bearer?_empty : Session.empty.bearer? = none := rfl

theorem isAuthenticated_iff {s : Session} : s.isAuthenticated = true ↔ ∃ token, s.token = some token ∧ token ≠ "" := by
  simp only [isAuthenticated, Option.isSome_iff_exists, bearer?_eq_some]

end Session

/-! ## The credential of a request -/

section BuildRequest

variable {base endpoint : String} {session : Session} {o : RequestOptions}

/-- What stands under `authorization` is the credential of the session at the endpoint; the caller has no say. -/
theorem values_buildRequest :
    (buildRequest base session endpoint o).headers.values authorization =
      (credential? session endpoint).toList := by
  unfold buildRequest plainHeaders
  cases credential? session endpoint with
  | none => exact Headers.values_erase _ _
  | some value => exact Headers.values_set _ _ _

theorem values_buildRequest_login (h : isLoginEndpoint endpoint = true) :
    (buildRequest base session endpoint o).headers.values authorization = [] := by
  rw [values_buildRequest, credential?, if_pos h]
  rfl

theorem values_buildRequest_of_not_authenticated (h : session.bearer? = none) :
    (buildRequest base session endpoint o).headers.values authorization = [] := by
  rw [values_buildRequest, credential?, h]
  split <;> rfl

theorem values_buildRequest_some {token : String} (h : isLoginEndpoint endpoint = false)
    (ht : session.token = some token) (hne : token ≠ "") (hv : isHeaderValue token = true) :
    (buildRequest base session endpoint o).headers.values authorization = ["Bearer " ++ token] := by
  have hb : session.bearer? = some token := Session.bearer?_eq_some.2 ⟨ht, hne⟩
  rw [values_buildRequest, credential?, h, hb]
  simp [bearerValue?_eq, hv]

/-- A request that is no login carries a credential exactly when the session has a token that a header can hold. -/
theorem values_buildRequest_ne_nil_iff (h : isLoginEndpoint endpoint = false) :
    (buildRequest base session endpoint o).headers.values authorization ≠ [] ↔
      ∃ token, session.token = some token ∧ token ≠ "" ∧ isHeaderValue token = true := by
  constructor
  · intro hne
    rw [values_buildRequest, credential?, h] at hne
    cases hb : session.bearer? with
    | none => simp [hb] at hne
    | some token =>
      obtain ⟨ht, htne⟩ := Session.bearer?_eq_some.1 hb
      refine ⟨token, ht, htne, ?_⟩
      simpa [hb, bearerValue?_eq] using hne
  · rintro ⟨token, ht, hne, hv⟩
    rw [values_buildRequest_some h ht hne hv]
    exact List.cons_ne_nil _ _

end BuildRequest

end ClusterPanel
