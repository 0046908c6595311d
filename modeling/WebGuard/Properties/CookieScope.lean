import WebGuard.Crawler.Authentication
import WebGuard.Properties.FindingIdentity

/-!
# The scope of session cookies

A cookie is bound to a host, a port and a path; to a scheme only if it is secure. What is attached to
a request is decided by `cookieMatchesRequest`, one cookie after the other.
-/

namespace WebGuard.SessionCookies

open PyJson UrlParse FindingContract Atomic List
open ScanPermits (asciiLibrary)

/-! ## Scopes -/

/-- Scheme, host and port of a request. -/
def RequestPlace.origin (place : RequestPlace) : Text × PyText × Nat :=
  (place.scheme, place.hostname, place.port)

/-- A path is that of a cookie, or lies below it. -/
def WholeSegments (cookiePath path : PyText) : Prop :=
  cookiePath = [47] ∨ path = cookiePath ∨
    ∃ rest, path = cookiePath ++ rest ∧ (cookiePath.getLast? = some 47 ∨ rest.head? = some 47)

section

variable [LowerTable]

/-- The request is within the scope of the cookie. -/
structure InScope (cookie : SessionCookie) (place : RequestPlace) : Prop where
  host : place.hostname = LowerTable.lower cookie.domain
  port : (place.port : Int) = cookie.port
  secure : cookie.secure = true → place.scheme = https
  path : WholeSegments cookie.path place.path

/-- The host, the port and the security of a request are those of a cookie. -/
structure Bound (cookie : SessionCookie) (place : RequestPlace) : Prop where
  host : place.hostname = LowerTable.lower cookie.domain
  port : (place.port : Int) = cookie.port
  secure : cookie.secure = true → place.scheme = https

/-- The path of a cookie, as text, is in front of that of a request. -/
def InFront (cookie : SessionCookie) (place : RequestPlace) : Prop :=
  cookie.path = [47] ∨ cookie.path <+: place.path

theorem matchesPlace_iff {cookie : SessionCookie} {place : RequestPlace} :
    cookie.matchesPlace place = true ↔ Bound cookie place ∧ InFront cookie place := by
  unfold SessionCookie.matchesPlace InFront
  simp only [Bool.and_eq_true, decide_eq_true_eq, Bool.not_eq_true', Bool.and_eq_false_iff,
    decide_eq_false_iff_not, not_not, Bool.not_eq_false', isPrefixOf_iff_prefix]
  constructor
  · rintro ⟨⟨⟨hhost, hport⟩, hsecure⟩, hpath⟩
    refine ⟨⟨hhost, hport, fun h => ?_⟩, hpath⟩
    rcases hsecure with hnot | hscheme
    · rw [h] at hnot
      cases hnot
    · exact hscheme
  · rintro ⟨⟨hhost, hport, hsecure⟩, hpath⟩
    refine ⟨⟨⟨hhost, hport⟩, ?_⟩, hpath⟩
    cases h : cookie.secure with
    | false => exact .inl rfl
    | true => exact .inr (hsecure h)

variable [StandardLibrary]

/-! ## The cookies of a request -/

variable {now : Nat} {url : PyText} {cookies sent : List SessionCookie}

theorem mem_matchingCookies (h : matchingCookies url now cookies = .ok sent)
    {cookie : SessionCookie} :
    cookie ∈ sent ↔ cookie ∈ cookies ∧ cookie.isExpired now = false ∧
      ∃ place, requestPlace url = .ok place ∧ cookie.matchesPlace place = true := by
  induction cookies generalizing sent with
  | nil =>
    cases h
    simp
  | cons first rest ih =>
    unfold matchingCookies at h
    obtain ⟨found, hfound, h⟩ := bind_ok h
    obtain ⟨others, hothers, h⟩ := bind_ok h
    cases h
    have hmatch : found = true ↔ first.isExpired now = false ∧
        ∃ place, requestPlace url = .ok place ∧ first.matchesPlace place = true := by
      unfold cookieMatchesRequest at hfound
      cases hexpired : first.isExpired now with
      | true =>
        rw [hexpired] at hfound
        cases hfound
        simp
      | false =>
        rw [hexpired] at hfound
        obtain ⟨place, hplace, hfound⟩ := bind_ok hfound
        cases hfound
        simp [hplace]
    cases found with
    | true =>
      rw [if_pos rfl, mem_cons, mem_cons, ih hothers]
      constructor
      · rintro (rfl | h)
        · exact ⟨.inl rfl, hmatch.mp rfl⟩
        · exact ⟨.inr h.1, h.2⟩
      · rintro ⟨rfl | hmem, h⟩
        · exact .inl rfl
        · exact .inr ⟨hmem, h⟩
    | false =>
      rw [if_neg Bool.false_ne_true, mem_cons, ih hothers]
      constructor
      · rintro ⟨hmem, h⟩
        exact ⟨.inr hmem, h⟩
      · rintro ⟨rfl | hmem, hplaces⟩
        · exact absurd (hmatch.mpr hplaces) Bool.false_ne_true
        · exact ⟨hmem, hplaces⟩

/-- The cookies that the headers of a request carry. -/
structure Carries (url : PyText) (material : AuthenticationMaterial) (now : Nat)
    (headers : List (String × PyText)) (sent : List SessionCookie) : Prop where
  matched : matchingCookies url now material.cookies = .ok sent
  header : ∀ value, ("Cookie", value) ∈ headers ↔ sent ≠ [] ∧ value = cookieHeader sent

variable {material : AuthenticationMaterial} {headers : List (String × PyText)}

omit [LowerTable] [StandardLibrary] in
theorem not_cookie_of_authorization (h : authorizationHeader material = .ok headers)
    (value : PyText) : ("Cookie", value) ∉ headers := by
  unfold authorizationHeader at h
  split at h
  · cases h
    simp
  · cases h
    simp
  · split at h
    · cases h
    · cases h
      simp

theorem carries_of_apply (h : applyAuthentication url (some material) now = .ok headers) :
    ∃ sent, Carries url material now headers sent := by
  unfold applyAuthentication at h
  obtain ⟨authorization, hauthorization, h⟩ := bind_ok h
  obtain ⟨sent, hsent, h⟩ := bind_ok h
  obtain ⟨_, -, h⟩ := bind_ok h
  cases h
  refine ⟨sent, hsent, fun value => ?_⟩
  rw [mem_append]
  have hnot := not_cookie_of_authorization hauthorization value
  cases sent with
  | nil => simp [hnot]
  | cons cookie rest => simp [hnot]

/-! ## The scope of two requests -/

/-- The cookies of two requests stay within their scopes, and none is sent to two origins. -/
structure KeepsScope (first second : PyText) (sent sent' : List SessionCookie) : Prop where
  one : ∀ cookie ∈ sent, ∀ place, requestPlace first = .ok place → InScope cookie place
  other : ∀ cookie ∈ sent', ∀ place, requestPlace second = .ok place → InScope cookie place
  origins : ∀ cookie ∈ sent, cookie ∈ sent' → ∀ place place', requestPlace first = .ok place →
    requestPlace second = .ok place' → place.origin = place'.origin

/-- No cookie of the host and the port of a request has a path that ends inside a segment. -/
def NoneSplits (cookies : List SessionCookie) (now : Nat) (place : RequestPlace) : Prop :=
  ∀ cookie ∈ cookies, cookie.isExpired now = false → Bound cookie place →
    InFront cookie place → WholeSegments cookie.path place.path

/-- A cookie that is not secure would go to both schemes of a host and a port. -/
def Downgrades (cookies : List SessionCookie) (now : Nat) (place place' : RequestPlace) : Prop :=
  place.scheme ≠ place'.scheme ∧ place.hostname = place'.hostname ∧ place.port = place'.port ∧
    ∃ cookie ∈ cookies, cookie.isExpired now = false ∧ cookie.secure = false ∧
      place.hostname = LowerTable.lower cookie.domain ∧ (place.port : Int) = cookie.port ∧
      InFront cookie place ∧ InFront cookie place'

theorem none_splits_iff (h : matchingCookies url now cookies = .ok sent) :
    (∀ cookie ∈ sent, ∀ place, requestPlace url = .ok place → InScope cookie place) ↔
      ∀ place, requestPlace url = .ok place → NoneSplits cookies now place := by
  constructor
  · intro hscope place hplace cookie hmem hlive hbound hfront
    have hsent : cookie ∈ sent := (mem_matchingCookies h).mpr
      ⟨hmem, hlive, place, hplace, matchesPlace_iff.mpr ⟨hbound, hfront⟩⟩
    exact (hscope cookie hsent place hplace).path
  · intro hnone cookie hsent place hplace
    obtain ⟨hmem, hlive, found, hfound, hmatch⟩ := (mem_matchingCookies h).mp hsent
    rw [hplace] at hfound
    cases hfound
    obtain ⟨hbound, hfront⟩ := matchesPlace_iff.mp hmatch
    exact ⟨hbound.host, hbound.port, hbound.secure,
      hnone place hplace cookie hmem hlive hbound hfront⟩

theorem origins_iff {first second : PyText} {sent' : List SessionCookie}
    (hfirst : matchingCookies first now cookies = .ok sent)
    (hsecond : matchingCookies second now cookies = .ok sent') :
    (∀ cookie ∈ sent, cookie ∈ sent' → ∀ place place', requestPlace first = .ok place →
      requestPlace second = .ok place' → place.origin = place'.origin) ↔
      ∀ place place', requestPlace first = .ok place → requestPlace second = .ok place' →
        ¬Downgrades cookies now place place' := by
  constructor
  · rintro horigins place place' hplace hplace'
      ⟨hscheme, hhost, hport, cookie, hmem, hlive, hplain, hdomain, hnumber, hfront, hfront'⟩
    have hsent : cookie ∈ sent := by
      refine (mem_matchingCookies hfirst).mpr ⟨hmem, hlive, place, hplace,
        matchesPlace_iff.mpr ⟨⟨hdomain, hnumber, fun h => ?_⟩, hfront⟩⟩
      rw [hplain] at h
      cases h
    have hsent' : cookie ∈ sent' := by
      refine (mem_matchingCookies hsecond).mpr ⟨hmem, hlive, place', hplace',
        matchesPlace_iff.mpr ⟨⟨hhost ▸ hdomain, hport ▸ hnumber, fun h => ?_⟩, hfront'⟩⟩
      rw [hplain] at h
      cases h
    have horigin := horigins cookie hsent hsent' place place' hplace hplace'
    exact hscheme (congrArg Prod.fst horigin)
  · intro hnone cookie hsent hsent' place place' hplace hplace'
    obtain ⟨hmem, hlive, found, hfound, hmatch⟩ := (mem_matchingCookies hfirst).mp hsent
    obtain ⟨-, -, found', hfound', hmatch'⟩ := (mem_matchingCookies hsecond).mp hsent'
    rw [hplace] at hfound
    rw [hplace'] at hfound'
    cases hfound
    cases hfound'
    obtain ⟨hbound, hfront⟩ := matchesPlace_iff.mp hmatch
    obtain ⟨hbound', hfront'⟩ := matchesPlace_iff.mp hmatch'
    have hhost : place.hostname = place'.hostname := hbound.host.trans hbound'.host.symm
    have hport : place.port = place'.port := by
      have h := hbound.port.trans hbound'.port.symm
      exact_mod_cast h
    have hscheme : place.scheme = place'.scheme := by
      cases hsecure : cookie.secure with
      | true => rw [hbound.secure hsecure, hbound'.secure hsecure]
      | false =>
        by_contra hne
        exact hnone place place' hplace hplace' ⟨hne, hhost, hport, cookie, hmem, hlive, hsecure,
          hbound.host, hbound.port, hfront, hfront'⟩
    unfold RequestPlace.origin
    rw [hscheme, hhost, hport]

/--
**When the cookie headers of two requests stay within the scopes of their cookies.**

Exactly if no path of a cookie ends inside a segment, and no cookie that is not secure goes to both
schemes of its host and port.
-/
theorem cookie_scope {first second : PyText} {material : AuthenticationMaterial} {now : Nat}
    {headers headers' : List (String × PyText)}
    (hfirst : applyAuthentication first (some material) now = .ok headers)
    (hsecond : applyAuthentication second (some material) now = .ok headers') :
    ∃ sent sent', Carries first material now headers sent ∧
      Carries second material now headers' sent' ∧
      (KeepsScope first second sent sent' ↔
        (∀ place, requestPlace first = .ok place → NoneSplits material.cookies now place) ∧
        (∀ place, requestPlace second = .ok place → NoneSplits material.cookies now place) ∧
        ∀ place place', requestPlace first = .ok place → requestPlace second = .ok place' →
          ¬Downgrades material.cookies now place place') := by
  obtain ⟨sent, hsent⟩ := carries_of_apply hfirst
  obtain ⟨sent', hsent'⟩ := carries_of_apply hsecond
  refine ⟨sent, sent', hsent, hsent', ?_⟩
  have hone := none_splits_iff hsent.matched
  have htwo := none_splits_iff hsent'.matched
  have hboth := origins_iff hsent.matched hsent'.matched
  constructor
  · intro h
    exact ⟨hone.mp h.one, htwo.mp h.other, hboth.mp h.origins⟩
  · rintro ⟨hsplit, hsplit', hnone⟩
    exact ⟨hone.mpr hsplit, htwo.mpr hsplit', hboth.mpr hnone⟩

end

def applicationCookie : SessionCookie where
  name := ofString "session"
  value := ofString "secret"
  domain := ofString "app.example"
  port := 8443
  path := ofString "/app"
  secure := false
  expiresAt := none

def sampleMaterial : AuthenticationMaterial := ⟨none, [applicationCookie], none, none⟩

def applicationUrl : PyText := ofString "http://app.example:8443/app/page"

def siblingUrl : PyText := ofString "https://app.example:8443/application"

def sampleHeaders : List (String × PyText) := [("Cookie", ofString "session=secret")]

theorem apply_application : letI := asciiLower; letI := asciiLibrary;
    applyAuthentication applicationUrl (some sampleMaterial) 0 = .ok sampleHeaders := by
  decide +kernel

theorem apply_sibling : letI := asciiLower; letI := asciiLibrary;
    applyAuthentication siblingUrl (some sampleMaterial) 0 = .ok sampleHeaders := by
  decide +kernel

theorem cookie_scope_sample :
    letI := asciiLower; letI := asciiLibrary
    ∃ sent sent', Carries applicationUrl sampleMaterial 0 sampleHeaders sent ∧
      Carries siblingUrl sampleMaterial 0 sampleHeaders sent' ∧
      (KeepsScope applicationUrl siblingUrl sent sent' ↔
        (∀ place, requestPlace applicationUrl = .ok place →
          NoneSplits sampleMaterial.cookies 0 place) ∧
        (∀ place, requestPlace siblingUrl = .ok place →
          NoneSplits sampleMaterial.cookies 0 place) ∧
        ∀ place place', requestPlace applicationUrl = .ok place →
          requestPlace siblingUrl = .ok place' →
            ¬Downgrades sampleMaterial.cookies 0 place place') := by
  let _ := asciiLower
  let _ := asciiLibrary
  exact cookie_scope apply_application apply_sibling

/-- **A cookie goes to a sibling path and to the other scheme.** -/
theorem cookie_leaves_scope :
    letI := asciiLower; letI := asciiLibrary
    ∃ sent sent', Carries applicationUrl sampleMaterial 0 sampleHeaders sent ∧
      Carries siblingUrl sampleMaterial 0 sampleHeaders sent' ∧
      ¬KeepsScope applicationUrl siblingUrl sent sent' := by
  let _ := asciiLower
  let _ := asciiLibrary
  obtain ⟨sent, hsent⟩ := carries_of_apply apply_application
  obtain ⟨sent', hsent'⟩ := carries_of_apply apply_sibling
  have hplace : requestPlace siblingUrl = .ok ⟨https, ofString "app.example", 8443,
      ofString "/application"⟩ := by decide
  have hmatch : applicationCookie.matchesPlace ⟨https, ofString "app.example", 8443,
      ofString "/application"⟩ = true := by decide
  have hmem : applicationCookie ∈ sent' := (mem_matchingCookies hsent'.matched).mpr
    ⟨mem_singleton.mpr rfl, rfl, _, hplace, hmatch⟩
  refine ⟨sent, sent', hsent, hsent', fun h => ?_⟩
  obtain hroot | hsame | ⟨rest, happend, hends⟩ := (h.other _ hmem _ hplace).path
  · exact absurd hroot (by decide)
  · exact absurd hsame (by decide)
  · have hrest : rest = ofString "lication" := by
      have h := congrArg (drop 4) happend
      have hdrop : drop 4 (applicationCookie.path ++ rest) = rest := by
        simp [applicationCookie, ofString]
      rw [hdrop] at h
      exact h.symm
    rw [hrest] at hends
    exact absurd hends (by decide)

end WebGuard.SessionCookies
