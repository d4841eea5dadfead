import ClusterPanel.Config
import ClusterPanel.Proofs.JsonReading
import ClusterPanel.Proofs.LoginUrl

/- Where the requests of a configured client go. The base of the interface is made of two texts, a URL and a path. The
   URL is parsed and refused if it has a query or a fragment; of the path nothing is asked but a slash at its front.
   So a usable configuration puts every endpoint in the path of the URL of its request if, and only if, there is no
   question mark and no number sign in the path of the interface (`request_url_of_validate`, `base_path_with_query`).
   How a URL is read does not depend on what is put behind it until a mark (`Url.parse_extended`). -/
namespace ClusterPanel

open Text

/-- An endpoint without one slash at its front. -/
def afterSlash (endpoint : String) : String :=
  if endpoint.toList.head? = some '/' then String.ofList endpoint.toList.tail else endpoint

namespace Url

/-! ## What counts of a text -/

/-- The path, the query and the fragment of what stands in a URL behind its authority. -/
def splitMarks (s : List Char) : List Char × Option (List Char) × Option (List Char) :=
  let (rest, fragment) := splitAtFirst '#' s
  let (path, query) := splitAtFirst '?' rest
  (path, query, fragment)

/-- What counts of a text at the front of a URL. -/
def significantFront (s : List Char) : List Char := (s.dropWhile isPadding).filter fun c => !isBreak c

/-- What counts of a text at the end of a URL. -/
def significantEnd (s : List Char) : List Char :=
  ((s.reverse.dropWhile isPadding).reverse).filter fun c => !isBreak c

theorem significantEnd_append (a e : List Char) :
    significantEnd (a ++ '/' :: e) = (a.filter fun c => !isBreak c) ++ '/' :: significantEnd e := by
  have hslash : isPadding '/' = false := by decide
  have hbreak : isBreak '/' = false := by decide
  unfold significantEnd
  rw [List.reverse_append, List.reverse_cons, List.append_assoc, List.dropWhile_append]
  split
  · next hnil =>
    rw [List.isEmpty_iff.1 hnil]
    simp [hslash, hbreak]
  · simp [hbreak]

theorem significant_append (a e : List Char) :
    significant (a ++ '/' :: e) = significantFront a ++ '/' :: significantEnd e := by
  have hslash : isPadding '/' = false := by decide
  have hfront : (a ++ '/' :: e).dropWhile isPadding = a.dropWhile isPadding ++ '/' :: e := by
    rw [List.dropWhile_append]
    split
    · next hnil => rw [List.isEmpty_iff.1 hnil, List.dropWhile_cons, hslash]; rfl
    · rfl
  show significantEnd ((a ++ '/' :: e).dropWhile isPadding) = _
  rw [hfront, significantEnd_append]
  rfl

theorem mem_significant {c : Char} {s : List Char} (hpadding : isPadding c = false) (hbreak : isBreak c = false)
    (h : c ∈ s) : c ∈ significant s := by
  unfold significant
  rw [List.mem_filter, List.mem_reverse]
  refine ⟨mem_dropWhile hpadding ?_, by rw [hbreak]; rfl⟩
  rw [List.mem_reverse]
  exact mem_dropWhile hpadding h

/-! ## Splitting -/

section Split

variable {mark : Char} {a s : List Char}

/-- Nothing behind a mark stands before the first one. -/
theorem splitAtFirst_of_mem (h : mark ∈ a) : (splitAtFirst mark (a ++ s)).1 = (splitAtFirst mark a).1 := by
  have hfst (t : List Char) : (splitAtFirst mark t).1 = t.takeWhile (· ≠ mark) := by
    unfold splitAtFirst
    dsimp only
    split <;> rfl
  rw [hfst, hfst, List.takeWhile_append, if_neg]
  intro hlength
  rw [← (List.takeWhile_prefix _).eq_of_length hlength] at h
  simpa using List.all_eq_true.1 List.all_takeWhile mark h

theorem splitAtFirst_append (ha : mark ∉ a) :
    splitAtFirst mark (a ++ s) = (a ++ (splitAtFirst mark s).1, (splitAtFirst mark s).2) := by
  have hall : ∀ c ∈ a, decide (c ≠ mark) = true := fun c hc => decide_eq_true fun he => ha (he ▸ hc)
  have hdrop (t : List Char) : (a ++ s).drop (a ++ t).length = s.drop t.length := by
    rw [List.length_append, List.drop_append, List.drop_eq_nil_of_le (by omega), Nat.add_sub_cancel_left,
      List.nil_append]
  unfold splitAtFirst
  dsimp only
  rw [List.takeWhile_append_of_pos hall, hdrop]
  split <;> rfl

/-- Where no mark was found there is none. -/
theorem splitAtFirst_none (h : (splitAtFirst mark s).2 = none) : mark ∉ s ∧ (splitAtFirst mark s).1 = s := by
  unfold splitAtFirst at h ⊢
  dsimp only at h ⊢
  split at h
  · next hdrop =>
    have htake : s.takeWhile (· ≠ mark) = s := by
      have hle := List.drop_eq_nil_iff.1 hdrop
      exact (List.takeWhile_prefix _).eq_of_length (Nat.le_antisymm (List.takeWhile_prefix _).length_le hle)
    constructor
    · intro hmem
      rw [← htake] at hmem
      simpa using List.all_eq_true.1 List.all_takeWhile _ hmem
    · exact htake
  · cases h

theorem splitMarks_append (ha : ∀ c ∈ a, c ≠ '?' ∧ c ≠ '#') :
    splitMarks (a ++ s) = (a ++ (splitMarks s).1, (splitMarks s).2) := by
  have hnumber : '#' ∉ a := fun h => (ha _ h).2 rfl
  have hquestion : '?' ∉ a := fun h => (ha _ h).1 rfl
  unfold splitMarks
  rw [splitAtFirst_append hnumber]
  dsimp only
  rw [splitAtFirst_append hquestion]

/-- A slash is no mark: the marks are those of what stands behind it. -/
theorem splitMarks_slash (ha : ∀ c ∈ a, c ≠ '?' ∧ c ≠ '#') :
    splitMarks (a ++ '/' :: s) = (a ++ '/' :: (splitMarks s).1, (splitMarks s).2) := by
  have hslash : ∀ c ∈ a ++ ['/'], c ≠ '?' ∧ c ≠ '#' := by
    intro c hc
    rcases List.mem_append.1 hc with hc | hc
    · exact ha c hc
    · rw [List.mem_singleton.1 hc]
      decide
  rw [List.append_cons, splitMarks_append hslash, List.append_assoc]
  rfl

/-- Behind a mark there is no path. -/
theorem splitMarks_marked (ha : ¬ ∀ c ∈ a, c ≠ '?' ∧ c ≠ '#') : (splitMarks (a ++ s)).1 = (splitMarks a).1 := by
  show (splitAtFirst '?' (splitAtFirst '#' (a ++ s)).1).1 = (splitAtFirst '?' (splitAtFirst '#' a).1).1
  by_cases hnumber : '#' ∈ a
  · rw [splitAtFirst_of_mem hnumber]
  · have hquestion : '?' ∈ a := by
      apply Classical.byContradiction
      intro hquestion
      exact ha fun c hc => ⟨fun he => hquestion (he ▸ hc), fun he => hnumber (he ▸ hc)⟩
    have hself := splitAtFirst_append (s := []) hnumber
    rw [List.append_nil] at hself
    rw [splitAtFirst_append hnumber, hself]
    dsimp only
    rw [splitAtFirst_of_mem hquestion, splitAtFirst_of_mem hquestion]

theorem splitMarks_none (h : (splitMarks s).2 = (none, none)) :
    (∀ c ∈ s, c ≠ '?' ∧ c ≠ '#') ∧ (splitMarks s).1 = s := by
  unfold splitMarks at h ⊢
  dsimp only at h ⊢
  obtain ⟨hquery, hfragment⟩ := Prod.mk.inj h
  obtain ⟨hnumber, hfirst⟩ := splitAtFirst_none hfragment
  rw [hfirst] at hquery ⊢
  obtain ⟨hquestion, hsecond⟩ := splitAtFirst_none hquery
  exact ⟨fun c hc => ⟨fun he => hquestion (he ▸ hc), fun he => hnumber (he ▸ hc)⟩, hsecond⟩

/-- A scheme with its colon stands in front of what follows it. -/
theorem splitScheme_eq_some {scheme : String} {rest : List Char} (h : splitScheme s = some (scheme, rest)) :
    ∃ name, s = name ++ ':' :: rest ∧ (∀ c ∈ name, isSchemeChar c = true) ∧
      ∀ t, splitScheme (name ++ ':' :: t) = some (scheme, t) := by
  unfold splitScheme at h
  dsimp only at h
  split at h
  · next halpha =>
    split at h
    · next rest' hdrop =>
      obtain ⟨hscheme, rfl⟩ := Prod.mk.inj (Option.some.inj h)
      have hall : ∀ c ∈ s.takeWhile isSchemeChar, isSchemeChar c = true :=
        List.all_eq_true.1 List.all_takeWhile
      refine ⟨s.takeWhile isSchemeChar, ?_, hall, ?_⟩
      · rw [← hdrop]
        conv => lhs; rw [← List.take_append_drop (s.takeWhile isSchemeChar).length s]
        rw [(List.prefix_iff_eq_take.1 (List.takeWhile_prefix _)).symm]
      · intro t
        have htake : (s.takeWhile isSchemeChar ++ ':' :: t).takeWhile isSchemeChar = s.takeWhile isSchemeChar := by
          rw [List.takeWhile_append_of_pos hall, List.takeWhile_cons, if_neg (by decide), List.append_nil]
        unfold splitScheme
        dsimp only
        rw [htake, if_pos halpha, List.drop_left, hscheme]
        rfl
    · cases h
  · cases h

end Split

/-! ## Parsing -/

/-- A character of a host and what goes with it: none that stands for a slash. -/
def inAuthority (c : Char) : Bool := !isSlash true c

/-- The authority in what follows a scheme that names a host: slashes before it are passed over. -/
def hostPart (rest : List Char) : List Char := (rest.dropWhile (isSlash true)).takeWhile inAuthority

/-- What follows the authority. -/
def pathPart (rest : List Char) : List Char := (rest.dropWhile (isSlash true)).drop (hostPart rest).length

theorem parse_of_splitScheme {text rest : List Char} {scheme : String} (hs : namesHost scheme = true)
    (h : splitScheme (significant text) = some (scheme, rest)) :
    parse text =
      (let m := splitMarks rest
      do
        checkAuthority true ((m.2.1.isSome || m.2.2.isSome) || !(pathPart m.1).isEmpty) (hostPart m.1)
        pure
          { scheme, authority := some (hostPart m.1), path := pathPart m.1, query := m.2.1, fragment := m.2.2 }) := by
  unfold parse
  rw [h]
  simp only [hs, if_true]
  rfl

/-- There is a host in an authority of a scheme that names one, and whether more follows does not matter. -/
theorem checkAuthority_ok {followed : Bool} {s : List Char} (h : checkAuthority true followed s = .ok ()) :
    s ≠ [] ∧ ∀ followed', checkAuthority true followed' s = .ok () := by
  unfold checkAuthority at h ⊢
  dsimp only at h ⊢
  split at h
  · cases h
  split at h
  · cases h
  · next hfollowed hhost =>
    constructor
    · rintro rfl
      exact hhost (by decide)
    · intro followed'
      rw [if_neg ?_, if_neg hhost]
      · exact h
      · intro hempty
        refine hhost ?_
        simp only [Bool.and_eq_true, decide_eq_true_eq, List.isEmpty_iff] at hempty ⊢
        rw [hempty.1.2]
        exact ⟨trivial, rfl⟩

/-- A URL that was parsed has the scheme that stands in front. -/
theorem parse_ok {text : List Char} {parts : Parts} (h : parse text = .ok parts) :
    ∃ rest, splitScheme (significant text) = some (parts.scheme, rest) := by
  unfold parse at h
  split at h
  · cases h
  · next scheme rest hsplit =>
    suffices parts.scheme = scheme by rw [this]; exact ⟨rest, hsplit⟩
    -- Whatever the scheme, the parts are made with it, after the host was looked at if there is one.
    dsimp only at h
    split at h
    · obtain ⟨_, -, h⟩ := Json.bind_eq_ok h
      cases h
      rfl
    split at h
    · split at h
      · split at h
        · split at h
          · cases h
            rfl
          · obtain ⟨_, -, h⟩ := Json.bind_eq_ok h
            cases h
            rfl
        · cases h
          rfl
      · cases h
        rfl
    · split at h
      · obtain ⟨_, -, h⟩ := Json.bind_eq_ok h
        cases h
        rfl
      · cases h
        rfl

section Parts

variable {r : List Char}

theorem takeWhile_authority (d p : List Char) :
    (d ++ '/' :: p).takeWhile inAuthority = d.takeWhile inAuthority := by
  have hslash : inAuthority '/' = false := by decide
  induction d with
  | nil => rw [List.nil_append, List.takeWhile_cons, hslash]; rfl
  | cons c d ih => rw [List.cons_append, List.takeWhile_cons, List.takeWhile_cons, ih]

/-- There is more than slashes where there is a host. -/
theorem dropWhile_of_hostPart (h : hostPart r ≠ []) (p : List Char) :
    (r ++ p).dropWhile (isSlash true) = r.dropWhile (isSlash true) ++ p := by
  rw [List.dropWhile_append, if_neg]
  intro hempty
  rw [List.isEmpty_iff] at hempty
  refine h ?_
  rw [hostPart, hempty]
  rfl

/-- A slash ends a host, if it has not ended before. -/
theorem hostPart_slash (h : hostPart r ≠ []) (p : List Char) : hostPart (r ++ '/' :: p) = hostPart r := by
  rw [hostPart, dropWhile_of_hostPart h, takeWhile_authority]
  rfl

/-- A host does not vanish when more is put behind it. -/
theorem hostPart_append (h : hostPart r ≠ []) (p : List Char) : hostPart (r ++ p) ≠ [] := by
  rw [hostPart, dropWhile_of_hostPart h, List.takeWhile_append]
  split
  · intro hnil
    refine h ?_
    rw [hostPart, (List.append_eq_nil_iff.1 hnil).1]
    rfl
  · exact h

theorem pathPart_slash (h : hostPart r ≠ []) (p : List Char) :
    pathPart (r ++ '/' :: p) = pathPart r ++ '/' :: p := by
  have hle : (hostPart r).length ≤ (r.dropWhile (isSlash true)).length := (List.takeWhile_prefix _).length_le
  rw [pathPart, hostPart_slash h, dropWhile_of_hostPart h, List.drop_append_of_le_length hle]
  rfl

theorem hostPart_slashes (r : List Char) (k : Nat) : hostPart (r ++ List.replicate k '/') = hostPart r := by
  cases k with
  | zero => rw [List.replicate_zero, List.append_nil]
  | succ k =>
    by_cases h : (r.dropWhile (isSlash true)).isEmpty
    · have hslashes : (List.replicate (k + 1) '/').dropWhile (isSlash true) = [] :=
        dropWhile_eq_nil_iff.2 fun c hc => by rw [List.eq_of_mem_replicate hc]; rfl
      rw [hostPart, hostPart, List.dropWhile_append, if_pos h, hslashes, List.isEmpty_iff.1 h]
    · rw [hostPart, List.dropWhile_append, if_neg h]
      exact takeWhile_authority _ _

end Parts

/-- Slashes at the end of a text with a colon in it stand behind the colon. -/
theorem behind_colon {a name rest : List Char} {k : Nat} (h : a ++ List.replicate k '/' = name ++ ':' :: rest) :
    ∃ r, a = name ++ ':' :: r ∧ rest = r ++ List.replicate k '/' := by
  have hcolon : ':' ∉ List.replicate k '/' := fun hc => absurd (List.eq_of_mem_replicate hc) (by decide)
  rcases List.append_eq_append_iff.1 h with ⟨b, -, hslashes⟩ | ⟨b, hname, hrest⟩
  · rw [hslashes] at hcolon
    exact absurd (by simp) hcolon
  · cases b with
    | nil =>
      rw [List.nil_append] at hrest
      rw [← hrest] at hcolon
      exact absurd List.mem_cons_self hcolon
    | cons c r =>
      obtain ⟨rfl, hr⟩ := List.cons.inj hrest
      exact ⟨r, hname, hr⟩

/-- What a text is read as behind a host and the front of a path, with a slash before it: the host must be one, and the
    rest of the path, the query and the fragment are those of the text. -/
def behind (scheme : String) (host front t : List Char) : Except Fault Parts := do
  checkAuthority true true host
  pure { scheme, authority := some host, path := front ++ '/' :: (splitMarks t).1, query := (splitMarks t).2.1,
         fragment := (splitMarks t).2.2 }

/-- What is put behind a URL without query and fragment, the slashes at its end left out and one slash put there, and
    blanks at its end left in: the scheme stays as it is, the path grows, and query and fragment are those of what is
    put behind. The host is that of the URL unless there are blanks, and whether it is one does not depend on what is
    put behind. -/
theorem parse_extended {text a blanks : List Char} {parts : Parts} {k : Nat} (h : parse text = .ok parts)
    (hs : namesHost parts.scheme = true) (hq : parts.query = none) (hf : parts.fragment = none)
    (ha : a ++ List.replicate k '/' = significant text ++ blanks) (hblanks : ∀ c ∈ blanks, isPadding c = true) :
    ∃ host front, (blanks = [] → parts.authority = some host ∧ checkAuthority true true host = .ok ()) ∧
      ∀ text' t, significant text' = a ++ '/' :: t → parse text' = behind parts.scheme host front t := by
  obtain ⟨rest, hsplit⟩ := parse_ok h
  obtain ⟨name, hname, -, hscheme⟩ := splitScheme_eq_some hsplit
  rw [hname, List.append_assoc, List.cons_append] at ha
  obtain ⟨r, rfl, hr⟩ := behind_colon ha
  rw [parse_of_splitScheme hs hsplit] at h
  obtain ⟨_, hcheck, h⟩ := Json.bind_eq_ok h
  have hparts := Except.ok.inj h
  have hnone : (splitMarks rest).2 = (none, none) := by
    rw [← hparts] at hq hf
    exact Prod.ext hq hf
  obtain ⟨hmarks, hpath⟩ := splitMarks_none hnone
  rw [hpath] at hcheck hparts
  obtain ⟨hhost, hfollowed⟩ := checkAuthority_ok hcheck
  have hsame : hostPart r = hostPart (rest ++ blanks) := by rw [hr, hostPart_slashes]
  have hhost' : hostPart r ≠ [] := by
    rw [hsame]
    exact hostPart_append hhost blanks
  have hmarks' : ∀ c ∈ r, c ≠ '?' ∧ c ≠ '#' := by
    intro c hc
    have hmem : c ∈ rest ++ blanks := hr ▸ List.mem_append_left _ hc
    rcases List.mem_append.1 hmem with hc | hc
    · exact hmarks c hc
    · constructor
      · rintro rfl
        exact absurd (hblanks _ hc) (by decide)
      · rintro rfl
        exact absurd (hblanks _ hc) (by decide)
  refine ⟨hostPart r, pathPart r, ?_, ?_⟩
  · rintro rfl
    rw [hsame, List.append_nil]
    exact ⟨by rw [← hparts], hfollowed true⟩
  · intro text' t ht
    have hsplit' : splitScheme (significant text') = some (parts.scheme, r ++ '/' :: t) := by
      rw [ht, List.append_assoc, List.cons_append]
      exact hscheme _
    have hmore : (!(pathPart r ++ '/' :: (splitMarks t).1).isEmpty) = true := by simp
    rw [parse_of_splitScheme hs hsplit']
    simp only [splitMarks_slash hmarks', hostPart_slash hhost', pathPart_slash hhost', hmore, Bool.or_true]
    rfl

section Behind

variable {scheme : String} {host front a t : List Char}

/-- What has no mark moves to the front of the path. -/
theorem behind_slash (ha : ∀ c ∈ a, c ≠ '?' ∧ c ≠ '#') :
    behind scheme host front (a ++ '/' :: t) = behind scheme host (front ++ '/' :: a) t := by
  unfold behind
  rw [splitMarks_slash ha, List.append_assoc, List.cons_append]

/-- Nothing behind a mark is in the path. -/
theorem path_behind_marked (ha : ¬ ∀ c ∈ a, c ≠ '?' ∧ c ≠ '#') {parts : Parts}
    (h : behind scheme host front (a ++ t) = .ok parts) : parts.path = front ++ '/' :: (splitMarks a).1 := by
  obtain ⟨_, -, h⟩ := Json.bind_eq_ok h
  cases h
  show front ++ '/' :: (splitMarks (a ++ t)).1 = _
  rw [splitMarks_marked ha]

end Behind

/-- A URL that was parsed without query and fragment has no mark anywhere. -/
theorem parse_unmarked {text : List Char} {parts : Parts} (h : parse text = .ok parts)
    (hs : namesHost parts.scheme = true) (hq : parts.query = none) (hf : parts.fragment = none) :
    ∀ c ∈ text, c ≠ '?' ∧ c ≠ '#' := by
  obtain ⟨rest, hsplit⟩ := parse_ok h
  obtain ⟨name, hname, hall, -⟩ := splitScheme_eq_some hsplit
  rw [parse_of_splitScheme hs hsplit] at h
  obtain ⟨_, -, h⟩ := Json.bind_eq_ok h
  have hparts := Except.ok.inj h
  have hnone : (splitMarks rest).2 = (none, none) := by
    rw [← hparts] at hq hf
    exact Prod.ext hq hf
  obtain ⟨hmarks, -⟩ := splitMarks_none hnone
  -- A mark would count; but it is neither in the scheme nor its colon, and there is none behind.
  have hcounts : ∀ c ∈ significant text, c ≠ '?' ∧ c ≠ '#' := by
    intro c hc
    rw [hname] at hc
    rcases List.mem_append.1 hc with hc | hc
    · constructor
      · rintro rfl
        exact absurd (hall _ hc) (by decide)
      · rintro rfl
        exact absurd (hall _ hc) (by decide)
    · rcases List.mem_cons.1 hc with rfl | hc
      · decide
      · exact hmarks c hc
  intro c hc
  constructor
  · rintro rfl
    exact (hcounts _ (mem_significant (by decide) (by decide) hc)).1 rfl
  · rintro rfl
    exact (hcounts _ (mem_significant (by decide) (by decide) hc)).2 rfl

/-- Slashes at the end of a text count. -/
theorem significantFront_slashes (a : List Char) (k : Nat) :
    significantFront (a ++ List.replicate k '/') = significantFront a ++ List.replicate k '/' := by
  have hslashes : (List.replicate k '/').dropWhile isPadding = List.replicate k '/' := by
    cases k with
    | zero => rfl
    | succ k => rfl
  have hdrop : (a ++ List.replicate k '/').dropWhile isPadding = a.dropWhile isPadding ++ List.replicate k '/' := by
    rw [List.dropWhile_append]
    split
    · next hnil => rw [List.isEmpty_iff.1 hnil, hslashes]; rfl
    · rfl
  unfold significantFront
  rw [hdrop, List.filter_append, List.filter_replicate_of_pos (by decide)]

/-- What counts of a text at the front of a URL may have blanks at its end that do not count elsewhere. -/
theorem significantFront_eq (s : List Char) :
    ∃ blanks, significantFront s = significant s ++ blanks ∧ (∀ c ∈ blanks, isPadding c = true) ∧
      ((∀ c ∈ s.getLast?, isPadding c = false) → blanks = []) := by
  have hsplit : s.dropWhile isPadding = ((s.dropWhile isPadding).reverse.dropWhile isPadding).reverse ++
      ((s.dropWhile isPadding).reverse.takeWhile isPadding).reverse := by
    rw [← List.reverse_append, List.takeWhile_append_dropWhile, List.reverse_reverse]
  refine ⟨((s.dropWhile isPadding).reverse.takeWhile isPadding).reverse.filter fun c => !isBreak c, ?_, ?_, ?_⟩
  · unfold significantFront significant
    conv => lhs; rw [hsplit]
    rw [List.filter_append]
  · intro c hc
    exact List.all_eq_true.1 List.all_takeWhile c (List.mem_reverse.1 (List.mem_filter.1 hc).1)
  · intro hlast
    obtain ⟨front, hfront⟩ := List.dropWhile_suffix (l := s) isPadding
    cases hd : (s.dropWhile isPadding).reverse with
    | nil => rfl
    | cons c t =>
      have hc : s.getLast? = some c := by
        rw [← hfront, List.getLast?_append, List.getLast?_eq_head?_reverse, hd]
        rfl
      rw [List.takeWhile_cons, hlast c hc]
      rfl

end Url

/-! ## The base of the interface -/

theorem exists_slashes (s : List Char) : ∃ k, s = trimEndOf '/' s ++ List.replicate k '/' := by
  have hslashes : s.reverse.takeWhile (· == '/') = List.replicate (s.reverse.takeWhile (· == '/')).length '/' :=
    List.eq_replicate_of_mem fun c hc => by simpa using List.all_eq_true.1 List.all_takeWhile c hc
  refine ⟨(s.reverse.takeWhile (· == '/')).length, ?_⟩
  conv => lhs; rw [← List.reverse_reverse s, ← List.takeWhile_append_dropWhile (p := (· == '/')) (l := s.reverse)]
  rw [List.reverse_append, hslashes, List.reverse_replicate]
  simp [trimEndOf]

theorem getLast?_trimEndOf (c : Char) (s : List Char) : (trimEndOf c s).getLast? ≠ some c := by
  unfold trimEndOf
  rw [List.getLast?_reverse]
  have h := List.head?_dropWhile_not (· == c) s.reverse
  intro hc
  rw [hc] at h
  simp at h

theorem trimEndOf_of_getLast? {c : Char} {s : List Char} (h : s.getLast? ≠ some c) : trimEndOf c s = s := by
  rw [List.getLast?_eq_head?_reverse] at h
  unfold trimEndOf
  cases hs : s.reverse with
  | nil => rw [List.reverse_eq_nil_iff.1 hs]; rfl
  | cons a t =>
    rw [hs] at h
    have ha : (a == c) = false := by simpa using h
    rw [List.dropWhile_cons, ha, if_neg Bool.false_ne_true, ← hs, List.reverse_reverse]

section Config

variable {c : Config}

/-- What a configuration that is usable went through. -/
theorem Config.validate_ok (h : c.validate = .ok ()) :
    ∃ parts, Url.parse c.baseUrl.toList = .ok parts ∧ (parts.scheme = "http" ∨ parts.scheme = "https") ∧
      parts.query = none ∧ parts.fragment = none ∧ c.basePath.toList.head? = some '/' := by
  unfold Config.validate at h
  split at h
  · cases h
  · next hfault =>
    split at h
    · cases h
    · next hslash =>
      unfold Config.urlFault? at hfault
      split at hfault
      · cases hfault
      split at hfault
      · cases hfault
      · next parts hparse =>
        split at hfault
        · cases hfault
        · next hscheme =>
          split at hfault
          · cases hfault
          · next hmarks =>
            refine ⟨parts, hparse, ?_, ?_, ?_, by simpa using hslash⟩
            · by_cases hhttp : parts.scheme = "http"
              · exact .inl hhttp
              · exact .inr (by simpa [hhttp] using hscheme)
            · cases hq : parts.query with
              | none => rfl
              | some q => simp [hq] at hmarks
            · cases hf : parts.fragment with
              | none => rfl
              | some q => simp [hf] at hmarks

theorem toList_apiBase (c : Config) :
    c.apiBase.toList = trimEndOf '/' c.baseUrl.toList ++ trimEndOf '/' c.basePath.toList := by
  rw [Config.apiBase, String.toList_ofList]

theorem getLast?_apiBase (c : Config) : c.apiBase.toList.getLast? ≠ some '/' := by
  rw [toList_apiBase, List.getLast?_append]
  cases hpath : (trimEndOf '/' c.basePath.toList).getLast? with
  | none => exact getLast?_trimEndOf '/' _
  | some ch =>
    have hlast := getLast?_trimEndOf '/' c.basePath.toList
    rw [hpath] at hlast
    exact hlast

/-- The base of the interface is the base of the requests: no slashes are left at its end. -/
theorem base_create (c : Config) (s : Storage) (replies : List Http.Reply) :
    (Client.create c.apiBase s replies).base = c.apiBase := by
  show String.ofList (trimEndOf '/' c.apiBase.toList) = c.apiBase
  rw [trimEndOf_of_getLast? (getLast?_apiBase c), String.ofList_toList]

/-- Marks are not trimmed away. -/
theorem isBase_trimEndOf_iff (s : String) : (∀ ch ∈ trimEndOf '/' s.toList, ch ≠ '?' ∧ ch ≠ '#') ↔ IsBase s := by
  constructor
  · intro hbase ch hch
    obtain ⟨k, hk⟩ := exists_slashes s.toList
    rw [hk] at hch
    rcases List.mem_append.1 hch with hch | hch
    · exact hbase ch hch
    · rw [List.eq_of_mem_replicate hch]
      decide
  · intro hpath ch hch
    exact hpath ch ((isPrefix_trimEndOf _ _).subset hch)

theorem isBase_apiBase_iff (h : IsBase c.baseUrl) : IsBase c.apiBase ↔ IsBase c.basePath := by
  rw [← isBase_trimEndOf_iff c.basePath]
  unfold IsBase
  rw [toList_apiBase]
  constructor
  · intro hbase ch hch
    exact hbase ch (List.mem_append_right _ hch)
  · intro hpath ch hch
    rcases List.mem_append.1 hch with hch | hch
    · exact h ch ((isPrefix_trimEndOf _ _).subset hch)
    · exact hpath ch hch

theorem urlOf_eq (base endpoint : String) : urlOf base endpoint = base ++ "/" ++ afterSlash endpoint := by
  unfold urlOf afterSlash
  split
  · next hslash =>
    obtain ⟨t, ht⟩ := List.head?_eq_some_iff.1 hslash
    have hcons : endpoint = "/" ++ String.ofList endpoint.toList.tail := by
      rw [← String.toList_inj, String.toList_append, ht, List.tail_cons]
      simp
    rw [String.append_assoc, ← hcons]
  · rfl

/-- What stands before the first mark of a URL ends with the path of the endpoint, if there is no mark in the base. -/
theorem endpointPath_urlOf_iff {base endpoint : String} :
    endpointPath (urlOf base endpoint) = base.toList ++ '/' :: endpointPath (afterSlash endpoint) ↔ IsBase base := by
  have hurl : (urlOf base endpoint).toList = base.toList ++ '/' :: (afterSlash endpoint).toList := by
    rw [urlOf_eq, String.toList_append, String.toList_append, List.append_assoc]
    rfl
  unfold endpointPath
  rw [hurl]
  constructor
  · intro h ch hch
    have hmem : ch ∈ (base.toList ++ '/' :: (afterSlash endpoint).toList).takeWhile fun c => c ≠ '?' && c ≠ '#' := by
      rw [h]
      exact List.mem_append_left _ hch
    simpa using List.all_eq_true.1 List.all_takeWhile ch hmem
  · intro hbase
    have hall : ∀ ch ∈ base.toList, (ch ≠ '?' && ch ≠ '#') = true := by
      intro ch hch
      simpa using hbase ch hch
    rw [List.takeWhile_append_of_pos hall]
    rfl

theorem toList_urlOf (c : Config) (endpoint : String) : (urlOf c.apiBase endpoint).toList =
    trimEndOf '/' c.baseUrl.toList ++ (trimEndOf '/' c.basePath.toList ++ '/' :: (afterSlash endpoint).toList) := by
  rw [urlOf_eq, String.toList_append, String.toList_append, toList_apiBase, List.append_assoc, List.append_assoc]
  rfl

/-- A path that begins with a slash, without those at its end. -/
theorem trimEndOf_path (hslash : c.basePath.toList.head? = some '/') :
    trimEndOf '/' c.basePath.toList = [] ∨ ∃ p, trimEndOf '/' c.basePath.toList = '/' :: p := by
  obtain ⟨t, ht⟩ := isPrefix_trimEndOf '/' c.basePath.toList
  cases hp : trimEndOf '/' c.basePath.toList with
  | nil => exact .inl rfl
  | cons ch p =>
    rw [← ht, hp] at hslash
    obtain rfl : ch = '/' := Option.some.inj hslash
    exact .inr ⟨p, rfl⟩

section Usable

variable {parts : Url.Parts} (hparse : Url.parse c.baseUrl.toList = .ok parts)
    (hscheme : Url.namesHost parts.scheme = true) (hq : parts.query = none) (hf : parts.fragment = none)

include hparse hscheme hq hf

/-- What is put behind the URL of a backend and a slash. -/
theorem parse_behind :
    ∃ host front,
      ((∀ ch ∈ c.baseUrl.toList.getLast?, Url.isPadding ch = false) →
        parts.authority = some host ∧ Url.checkAuthority true true host = .ok ()) ∧
      ∀ s, Url.parse (trimEndOf '/' c.baseUrl.toList ++ '/' :: s) =
        Url.behind parts.scheme host front (Url.significantEnd s) := by
  obtain ⟨k, hk⟩ := exists_slashes c.baseUrl.toList
  obtain ⟨blanks, hblanks, hpadding, hclean⟩ := Url.significantFront_eq c.baseUrl.toList
  have ha : Url.significantFront (trimEndOf '/' c.baseUrl.toList) ++ List.replicate k '/' =
      Url.significant c.baseUrl.toList ++ blanks := by
    rw [← hblanks, ← Url.significantFront_slashes, ← hk]
  obtain ⟨host, front, hhost, hfront⟩ := Url.parse_extended hparse hscheme hq hf ha hpadding
  exact ⟨host, front, fun hend => hhost (hclean hend), fun s => hfront _ _ (Url.significant_append _ s)⟩

variable (hslash : c.basePath.toList.head? = some '/')

include hslash

/-- The URLs of the requests, read as URLs, if there is no mark in the path of the interface: the configuration
    determines the scheme, the host and the front of the path, and the endpoint the rest. -/
theorem parse_urlOf (hpath : IsBase c.basePath) :
    ∃ host front,
      ((∀ ch ∈ c.baseUrl.toList.getLast?, Url.isPadding ch = false) →
        parts.authority = some host ∧ Url.checkAuthority true true host = .ok ()) ∧
      ∀ endpoint, Url.parse (urlOf c.apiBase endpoint).toList =
        Url.behind parts.scheme host front (Url.significantEnd (afterSlash endpoint).toList) := by
  obtain ⟨host, front, hhost, hfront⟩ := parse_behind hparse hscheme hq hf
  rcases trimEndOf_path hslash with hp | ⟨p, hp⟩
  · refine ⟨host, front, hhost, ?_⟩
    intro endpoint
    rw [toList_urlOf, hp]
    exact hfront _
  · have hmarks : ∀ ch ∈ p.filter fun ch => !Url.isBreak ch, ch ≠ '?' ∧ ch ≠ '#' := by
      intro ch hch
      exact hpath ch ((isPrefix_trimEndOf _ _).subset (hp ▸ List.mem_cons_of_mem _ (List.mem_filter.1 hch).1))
    refine ⟨host, front ++ '/' :: p.filter fun ch => !Url.isBreak ch, hhost, ?_⟩
    intro endpoint
    rw [toList_urlOf, hp, List.cons_append, hfront, Url.significantEnd_append, Url.behind_slash hmarks]

/-- The same if there is a mark in it: no endpoint is in the path of its URL, which is the same for all of them. -/
theorem path_urlOf (hpath : ¬ IsBase c.basePath) :
    ∃ path, ∀ endpoint parts', Url.parse (urlOf c.apiBase endpoint).toList = .ok parts' → parts'.path = path := by
  obtain ⟨host, front, -, hfront⟩ := parse_behind hparse hscheme hq hf
  rw [← isBase_trimEndOf_iff] at hpath
  rcases trimEndOf_path hslash with hp | ⟨p, hp⟩
  · rw [hp] at hpath
    exact absurd (fun ch hch => absurd hch List.not_mem_nil) hpath
  · have hmarks : ¬ ∀ ch ∈ p.filter fun ch => !Url.isBreak ch, ch ≠ '?' ∧ ch ≠ '#' := by
      intro hnone
      refine hpath ?_
      rw [hp]
      intro ch hch
      rcases List.mem_cons.1 hch with rfl | hch
      · decide
      · constructor
        · rintro rfl
          exact (hnone '?' (List.mem_filter.2 ⟨hch, by decide⟩)).1 rfl
        · rintro rfl
          exact (hnone '#' (List.mem_filter.2 ⟨hch, by decide⟩)).2 rfl
    refine ⟨front ++ '/' :: (Url.splitMarks (p.filter fun ch => !Url.isBreak ch)).1, ?_⟩
    intro endpoint parts' h
    rw [toList_urlOf, hp, List.cons_append, hfront, Url.significantEnd_append] at h
    exact Url.path_behind_marked hmarks h

end Usable

/-- Where the requests of a usable configuration go. The URL of a request is the base of the interface, which does not
    end in a slash, a slash, and the endpoint without one slash at its front. If there is no mark in the path of the
    interface, which is checked for nothing but the slash at its front, there is none in the base: what stands before
    the first mark of a URL then ends with the path of the endpoint, and the URL, read as one, has this path behind
    that of the interface, and the query and the fragment of the endpoint. If there is one, no endpoint is in the
    path. -/
theorem request_url_of_validate (h : c.validate = .ok ()) (s : Storage) (replies : List Http.Reply) :
    let url (endpoint : String) (o : RequestOptions) := ((Client.create c.apiBase s replies).build endpoint o).1.url
    (c.apiBase.toList.getLast? ≠ some '/' ∧ ∀ endpoint o, url endpoint o = c.apiBase ++ "/" ++ afterSlash endpoint) ∧
    (IsBase c.apiBase ↔ IsBase c.basePath) ∧
    ((∀ endpoint o, endpointPath (url endpoint o) = c.apiBase.toList ++ '/' :: endpointPath (afterSlash endpoint)) ↔
      IsBase c.basePath) ∧
    (IsBase c.basePath → ∃ parts host front, Url.parse c.baseUrl.toList = .ok parts ∧
      ((∀ ch ∈ c.baseUrl.toList.getLast?, Url.isPadding ch = false) →
        parts.authority = some host ∧ Url.checkAuthority true true host = .ok ()) ∧
      ∀ endpoint o, Url.parse (url endpoint o).toList =
        Url.behind parts.scheme host front (Url.significantEnd (afterSlash endpoint).toList)) ∧
    (¬ IsBase c.basePath → ∃ path, ∀ endpoint o parts,
      Url.parse (url endpoint o).toList = .ok parts → parts.path = path) := by
  intro url
  have hurl (endpoint : String) (o : RequestOptions) : url endpoint o = urlOf c.apiBase endpoint := by
    show urlOf (Client.create c.apiBase s replies).base endpoint = _
    rw [base_create]
  obtain ⟨parts, hparse, hscheme, hq, hf, hslash⟩ := Config.validate_ok h
  have hhost : Url.namesHost parts.scheme = true := by
    rcases hscheme with hscheme | hscheme
    · rw [hscheme]
      decide
    · rw [hscheme]
      decide
  have hbase : IsBase c.apiBase ↔ IsBase c.basePath :=
    isBase_apiBase_iff (Url.parse_unmarked hparse hhost hq hf)
  refine ⟨⟨getLast?_apiBase c, ?_⟩, hbase, ?_, ?_, ?_⟩
  · intro endpoint o
    rw [hurl, urlOf_eq]
  · rw [← hbase]
    constructor
    · intro hpath
      have hempty := hpath "" {}
      rw [hurl] at hempty
      exact endpointPath_urlOf_iff.1 hempty
    · intro hb endpoint o
      rw [hurl]
      exact endpointPath_urlOf_iff.2 hb
  · intro hb
    obtain ⟨host, front, hclean, hfront⟩ := parse_urlOf hparse hhost hq hf hslash hb
    refine ⟨parts, host, front, hparse, hclean, ?_⟩
    intro endpoint o
    rw [hurl]
    exact hfront endpoint
  · intro hb
    obtain ⟨path, hpath⟩ := path_urlOf hparse hhost hq hf hslash hb
    refine ⟨path, ?_⟩
    intro endpoint o parts' h'
    rw [hurl] at h'
    exact hpath endpoint parts' h'

theorem eq_ok_of_toOption {ε α : Type} {x : Except ε α} {a : α} (h : x.toOption = some a) : x = .ok a := by
  cases x with
  | error e => cases h
  | ok b => rw [Option.some.inj h]

/-- The usual URL, with an interface at a path of its own. -/
theorem request_url_of_subpath :
    let c : Config := { basePath := "/cluster/v1/" }
    c.validate = .ok () ∧ IsBase c.apiBase ∧
      ((Client.create c.apiBase (.memory none {}) []).build "/jobs?limit=5" {}).1.url =
        "http://localhost:8080/cluster/v1/jobs?limit=5" := by
  intro c
  have h : c.validate = .ok () := eq_ok_of_toOption (by decide +kernel)
  have hpath : IsBase c.basePath := by decide
  obtain ⟨⟨-, hurl⟩, hbase, -⟩ := request_url_of_validate h (.memory none {}) []
  exact ⟨h, hbase.2 hpath, (hurl "/jobs?limit=5" {}).trans (by decide)⟩

/-- A path of the interface with a query in it is taken, and an endpoint becomes the end of the query. -/
theorem base_path_with_query :
    let c : Config := { basePath := "/v1?tenant=a" }
    let url := ((Client.create c.apiBase (.memory none {}) []).build "/jobs" {}).1.url
    c.validate = .ok () ∧ '?' ∈ c.apiBase.toList ∧ Url.parse url.toList = .ok
      { scheme := "http", authority := some "localhost:8080".toList, path := "/v1".toList,
        query := some "tenant=a/jobs".toList } := by
  intro c url
  have h : c.validate = .ok () := eq_ok_of_toOption (by decide +kernel)
  exact ⟨h, by decide, eq_ok_of_toOption (by decide +kernel)⟩

end Config

end ClusterPanel
