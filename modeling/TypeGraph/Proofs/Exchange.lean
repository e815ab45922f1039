import TypeGraph.Proofs.Address
import TypeGraph.Failure

/-!
# Exchanges with the rendering server

An exchange is a chain of requests, each of which may be answered by a redirect to the next.  An
end that a user can be told about is an image, a refusal that can be read, or a failure of the
transport; anything else is an error of the exchange itself.  Against a server whose redirects stay
on the server and whose refusals can be read, every chain has an end of the first kind: one request
keeps the exchange on the server, and so does the whole chain.
-/

namespace TypeGraph

open Url

/-! ## Cookies -/

theorem Cookie.exists_isWelcome (cookie : Cookie) {origin : CookieOrigin}
    (h : origin.hasAuthority = true) : ∃ isWelcome, cookie.isWelcome origin = .ok isWelcome := by
  rw [Cookie.isWelcome]
  split
  · exact ⟨_, rfl⟩
  · split
    · exact ⟨_, rfl⟩
    · rw [h]
      exact ⟨_, rfl⟩

theorem exists_foldlM_ok {ε σ α : Type} {f : σ → α → Except ε σ}
    (h : ∀ s a, ∃ s', f s a = .ok s') (as : List α) (s : σ) : ∃ s', as.foldlM f s = .ok s' := by
  induction as generalizing s with
  | nil => exact ⟨s, rfl⟩
  | cons a as ih =>
      obtain ⟨s', hs'⟩ := h s a
      rw [List.foldlM_cons, hs']
      exact ih s'

/-- A jar takes any cookies from an origin with an authority. -/
theorem CookieJar.exists_receive (jar : CookieJar) {origin : CookieOrigin}
    (h : origin.hasAuthority = true) (plain quoted : List String) :
    ∃ jar', jar.receive origin plain quoted = .ok jar' := by
  rw [CookieJar.receive]
  split
  · exact ⟨jar, rfl⟩
  · refine exists_foldlM_ok (fun jar cookie => ?_) _ _
    obtain ⟨isWelcome, hwelcome⟩ := cookie.exists_isWelcome h
    rw [hwelcome]
    exact ⟨_, rfl⟩

/-! ## Addresses on the server -/

/-- An address on the server, with a plain path and no fragment. -/
def Url.OnServer (u : Url) : Prop :=
  ∃ path query, IsPlain path ∧ (∀ q ∈ query, '#' ∉ q.toList) ∧ u = atServer path query

theorem Url.text_atServer (path : List Char) (query : Option String) :
    (atServer path query).text.toList =
      serverText ++ (path ++ ((query.map ("?" ++ ·)).getD "").toList) := by
  have htext : (atServer path query).text =
      "https:" ++ "//mermaid.ink" ++ String.ofList ('/' :: path) ++
        (query.map ("?" ++ ·)).getD "" := by
    rw [text, authority_atServer]
    simp [atServer]
  have hserver : serverText = "https:".toList ++ "//mermaid.ink".toList ++ ['/'] := by decide
  rw [htext, hserver]
  simp only [String.toList_append, String.toList_ofList, List.append_assoc, List.cons_append,
    List.nil_append]

namespace Url.OnServer

variable {u : Url} (h : u.OnServer)

include h

theorem exists_text : ∃ rest, '#' ∉ rest ∧ u.text.toList = serverText ++ rest := by
  obtain ⟨path, query, hpath, hquery, rfl⟩ := h
  refine ⟨_, ?_, text_atServer path query⟩
  rw [List.mem_append, not_or]
  refine ⟨hpath.not_mem_hash, ?_⟩
  cases query with
  | none => simp
  | some q => simpa using hquery q rfl

theorem hostOf : u.hostOf = .ok "mermaid.ink" := by
  obtain ⟨path, query, -, -, rfl⟩ := h
  have hform : Host.startsForm (Text.CodePoints.ofString (atServer path query).host) = false := by
    show Host.startsForm (Text.CodePoints.ofString "mermaid.ink") = false
    decide +kernel
  rw [Url.hostOf, shownHost, hform]
  rfl

theorem checkPlace : u.checkPlace = .ok () := by
  obtain ⟨path, query, -, -, rfl⟩ := h
  have hplace : (atServer path query).place = "mermaid.ink" := by simp [place, atServer]
  rw [Url.checkPlace, hplace]
  decide

theorem isRelative : u.isRelative = false := by
  obtain ⟨path, query, -, -, rfl⟩ := h
  simp [Url.isRelative, atServer]

theorem shownFragment : u.shownFragment = "" := by
  obtain ⟨path, query, -, -, rfl⟩ := h
  show percentDecode "".toList = ""
  decide +kernel

theorem hasAuthority : (CookieOrigin.ofUrl u).hasAuthority = true := by
  obtain ⟨rest, -, htext⟩ := h.exists_text
  show (CookieOrigin.authorityOf? u.text).isSome = true
  rw [CookieOrigin.authorityOf?, htext]
  rfl

theorem namesType : u.namesType = true := by
  obtain ⟨rest, hrest, htext⟩ := h.exists_text
  have hserver : '#' ∉ serverText := by decide
  have hhash : u.text.toList.contains '#' = false := by
    rw [htext, List.contains_eq_mem, decide_eq_false_iff_not, List.mem_append, not_or]
    exact ⟨hserver, hrest⟩
  rw [Url.namesType, hhash, htext]
  rfl

theorem checkSent : u.checkSent = .ok () := by
  obtain ⟨rest, -, htext⟩ := h.exists_text
  have hauthority : (Reference.ofText "" u.text).authority = "mermaid.ink" := by
    rw [Reference.ofText, htext]
    rfl
  have hbrackets : Reference.checkBrackets "mermaid.ink".toList = .ok () := by decide
  rw [Url.checkSent, h.namesType, Reference.read, hauthority, hbrackets]
  rfl

theorem checkCookies (jar : CookieJar) : u.checkCookies jar = .ok () := by
  have hport : jar.lacksPort (.ofUrl u) = false := by
    rw [CookieJar.lacksPort, h.hasAuthority]
    rfl
  rw [Url.checkCookies, h.checkSent, hport]
  split <;> rfl

end Url.OnServer

/-! ## Redirects -/

/-- A redirect to an absolute address leads there if there is no fragment to take along. -/
theorem Url.redirect_of_absolute {u target : Url} {location host : String}
    (hparse : parse location = .ok target) (habsolute : target.isRelative = false)
    (hhost : target.hostOf = .ok host) (hne : host ≠ "") (hplace : target.checkPlace = .ok ())
    (hfragment : u.shownFragment = "") : u.redirect location = .ok target := by
  have hscheme : target.scheme ≠ "" := by
    intro hscheme
    simp [isRelative, hscheme] at habsolute
  have hok {α β : Type} (a : α) (f : α → Except FetchError β) : (Except.ok a >>= f) = f a := rfl
  simp [redirect, hparse, hscheme, hhost, hne, habsolute, hfragment, hplace, hok]

/-- A redirect to the server leads to the server; one that is too long fails the transport. -/
theorem Url.OnServer.redirect {u : Url} (h : u.OnServer) {location : String} {path : List Char}
    (hpath : IsPlain path) (hlocation : location.toList = serverText ++ path) :
    (∃ text, u.redirect location = .error (.transport text)) ∨
      ∃ target : Url, target.OnServer ∧ u.redirect location = .ok target := by
  by_cases hlong : maxLength < location.length
  · left
    rw [Url.redirect, parse_of_isPlain hpath hlocation, if_pos hlong]
    exact ⟨_, rfl⟩
  · have htarget : (atServer path none).OnServer := ⟨path, none, hpath, by simp, rfl⟩
    have hparse := parse_of_isPlain hpath hlocation
    rw [if_neg hlong] at hparse
    exact Or.inr ⟨_, htarget, redirect_of_absolute hparse htarget.isRelative htarget.hostOf
      (by decide) htarget.checkPlace h.shownFragment⟩

/-- The address that an answer redirects to, as it is written. -/
def Answer.target? (answer : Answer) : Option String :=
  if isRedirect answer.status then answer.location else none

theorem Url.OnServer.exists_follow_none {u : Url} (h : u.OnServer) (jar : CookieJar)
    {answer : Answer} (hend : answer.target? = none) :
    ∃ jar', u.follow jar answer = .ok (jar', none) := by
  obtain ⟨jar', hjar⟩ := jar.exists_receive h.hasAuthority answer.cookies answer.quotedCookies
  rw [Answer.target?] at hend
  refine ⟨jar', ?_⟩
  rw [follow, h.checkSent, hjar]
  simp only [hend]
  rfl

theorem Url.OnServer.exists_follow_some {u : Url} (h : u.OnServer) (jar : CookieJar)
    {answer : Answer} {location : String} {path : List Char}
    (htarget : answer.target? = some location) (hpath : IsPlain path)
    (hlocation : location.toList = serverText ++ path) :
    (∃ text, u.follow jar answer = .error (.transport text)) ∨
      ∃ (jar' : CookieJar) (target : Url), target.OnServer ∧
        u.follow jar answer = .ok (jar', some target) := by
  obtain ⟨jar', hjar⟩ := jar.exists_receive h.hasAuthority answer.cookies answer.quotedCookies
  rw [Answer.target?] at htarget
  rw [follow, h.checkSent, hjar]
  simp only [htarget]
  rcases h.redirect hpath hlocation with ⟨text, hredirect⟩ | ⟨target, htarget, hredirect⟩
  · refine Or.inl ⟨text, ?_⟩
    rw [hredirect]
    rfl
  · refine Or.inr ⟨jar', target, htarget, ?_⟩
    rw [hredirect]
    show (target.checkCookies jar' >>= fun _ => _) = _
    rw [htarget.checkCookies]
    rfl

/-! ## Ends of an exchange -/

/-- What a user is told of the end of an exchange: nothing if there is an image, else the failure.
Of an answer that cannot be read and of an error of the exchange itself, nothing can be told. -/
inductive Reported : Except FetchError Answer → Option Failure → Prop
  | image {answer : Answer} (h : answer.status = 200) : Reported (.ok answer) none
  | refusal {answer : Answer} {message : String} (h : answer.status ≠ 200)
      (hmessage : refusalMessage answer = .ok message) :
      Reported (.ok answer) (some ⟨.rendering, some message⟩)
  | transport (text : String) :
      Reported (.error (.transport text))
        (some ⟨.rendering, some ("renderer request failed: " ++ text)⟩)

/-- A reply that keeps an exchange in hand: a failure of the transport, an answer that ends the
exchange with something to tell, or a redirect to a plain path on the server. -/
inductive Reply.Tame : Reply → Prop
  | failure (text : String) : Tame (.failure text)
  | ending {answer : Answer} (hend : answer.target? = none)
      (hreport : ∃ report, Reported (.ok answer) report) : Tame (.answer answer)
  | redirect {answer : Answer} {location : String} {path : List Char}
      (htarget : answer.target? = some location) (hpath : IsPlain path)
      (hlocation : location.toList = serverText ++ path) : Tame (.answer answer)

/-- One request to the server: the exchange ends with something to tell, or goes on from another
address on the server with one redirect less. -/
theorem fetchFrom_step {server : Server} (hreply : (server 0).Tame) (left : Nat) (jar : CookieJar)
    {u : Url} (hu : u.OnServer) :
    (∃ report, Reported (fetchFrom server left jar u).result report) ∨
      ∃ (rest : Nat) (jar' : CookieJar) (target : Url), left = rest + 1 ∧ target.OnServer ∧
        (fetchFrom server left jar u).result =
          (fetchFrom (server.after 1) rest jar' target).result := by
  cases hserver : server 0 with
  | failure text =>
      left
      rw [fetchFrom, hu.hostOf, hserver]
      exact ⟨_, .transport text⟩
  | unsendable text =>
      rw [hserver] at hreply
      cases hreply
  | answer answer =>
      rw [hserver] at hreply
      cases hreply with
      | ending hend hreport =>
          obtain ⟨jar', hfollow⟩ := hu.exists_follow_none jar hend
          left
          rw [fetchFrom, hu.hostOf, hserver]
          simp only [hfollow]
          exact hreport
      | redirect htarget hpath hlocation =>
          rcases hu.exists_follow_some jar htarget hpath hlocation with
            ⟨text, hfollow⟩ | ⟨jar', target, htarget, hfollow⟩
          · left
            rw [fetchFrom, hu.hostOf, hserver]
            simp only [hfollow]
            exact ⟨_, .transport text⟩
          · cases left with
            | zero =>
                left
                rw [fetchFrom, hu.hostOf, hserver]
                simp only [hfollow]
                exact ⟨_, .transport tooManyRedirects⟩
            | succ rest =>
                refine Or.inr ⟨rest, jar', target, rfl, htarget, ?_⟩
                rw [fetchFrom, hu.hostOf, hserver]
                simp only [hfollow]

theorem exists_reported_fetchFrom {server : Server} (hserver : ∀ i, (server i).Tame) (left : Nat)
    (jar : CookieJar) {u : Url} (hu : u.OnServer) :
    ∃ report, Reported (fetchFrom server left jar u).result report := by
  induction left generalizing server jar u with
  | zero =>
      rcases fetchFrom_step (hserver 0) 0 jar hu with h | ⟨rest, jar', target, hleft, -⟩
      · exact h
      · exact absurd hleft.symm (Nat.succ_ne_zero rest)
  | succ left ih =>
      rcases fetchFrom_step (hserver 0) (left + 1) jar hu with
        h | ⟨rest, jar', target, hleft, htarget, hresult⟩
      · exact h
      · rw [hresult, ← Nat.succ.inj hleft]
        exact ih (fun i => hserver (1 + i)) jar' htarget

/-- **Every exchange with a tame server has an end that a user can be told about.** -/
theorem exists_reported_fetch {server : Server} (hserver : ∀ i, (server i).Tame) {u : Url}
    (hu : u.OnServer) : ∃ report, Reported (fetch server u).result report := by
  rw [fetch, hu.checkPlace]
  exact exists_reported_fetchFrom hserver maxRedirects [] hu

end TypeGraph
