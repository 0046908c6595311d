import WebGuard.Crawler.SafeHttp
import WebGuard.Properties.CheckpointUrls

/-!
# Hostile responses

Which of the answers that a server can give make an exception escape from `fetch_once`: a length that
`isdigit` takes for a number and `int` does not, and an exception of `read` that is not one of the
transport. In every other case a response within the limit is returned or a `SafeRequestError` is
raised.
-/

namespace WebGuard

namespace SafeHttp

open PyJson UrlParse StandardLibrary NetworkLibrary HttpLibrary Atomic

/-! ## Lengths -/

variable {error : ClientError} {n : Nat}

section

variable [StandardLibrary] [HttpLibrary] {response : HttpResponse}

/-- A token that `int` makes a number of. -/
def IsCount (token : Text) : Prop :=
  (∀ c ∈ token, isAsciiDigit c = true) ∧ token.length ≤ maximumDigits

/-- A token is refused, or each one is a number. -/
def Countable (response : HttpResponse) : Prop :=
  (∃ token ∈ lengthTokens response, isdigit token = false) ∨
    ∀ token ∈ lengthTokens response, IsCount token

/-- No length, or one that is within the limit. -/
def Admits (response : HttpResponse) (maximumBodyBytes : Int) : Prop :=
  ∀ token ∈ lengthTokens response, token ≠ [] ∧ IsCount token ∧
    (digitsValue token : Int) ≤ maximumBodyBytes ∧
      ∀ other ∈ lengthTokens response, digitsValue other = digitsValue token

omit [StandardLibrary] in
theorem intOfDigits_eq_some {token : Text} :
    intOfDigits token = some n ↔ IsCount token ∧ digitsValue token = n := by
  unfold intOfDigits IsCount
  rw [← List.all_eq_true]
  by_cases hall : token.all isAsciiDigit = true <;>
    by_cases hlength : token.length ≤ maximumDigits <;> simp [hall, hlength]

omit [StandardLibrary] [HttpLibrary] in
theorem isdigit_of_count {token : Text} (hne : token ≠ [])
    (h : ∀ c ∈ token, isAsciiDigit c = true) : isdigit token = true := by
  unfold isdigit
  rw [Bool.and_eq_true, List.all_eq_true]
  refine ⟨by simpa using hne, ?_⟩
  intro c hc
  simp [h c hc]

omit [HttpLibrary] in
theorem lengthTokens_eq_nil : lengthTokens response = [] ↔ contentLengths response = [] := by
  unfold lengthTokens
  rw [List.flatMap_eq_nil_iff]
  constructor
  · intro h
    cases hvalues : contentLengths response with
    | nil => rfl
    | cons value rest =>
      have hempty := h value (by simp [hvalues])
      rw [List.map_eq_nil_iff] at hempty
      exact absurd hempty (split_ne_nil _ _)
  · intro h value hvalue
    rw [h] at hvalue
    cases hvalue

omit [StandardLibrary] in
theorem mapM_intOfDigits_eq_some {tokens : List Text} {values : List Nat} :
    tokens.mapM intOfDigits = some values ↔
      (∀ token ∈ tokens, IsCount token) ∧ values = tokens.map digitsValue := by
  induction tokens generalizing values with
  | nil => simp [eq_comm]
  | cons token rest ih =>
    rw [List.mapM_cons, List.forall_mem_cons, Option.bind_eq_bind, Option.bind_eq_some_iff]
    constructor
    · rintro ⟨n, hn, h⟩
      obtain ⟨hcount, rfl⟩ := intOfDigits_eq_some.mp hn
      obtain ⟨others, hothers, h⟩ := Option.bind_eq_some_iff.mp h
      obtain ⟨hrest, rfl⟩ := ih.mp hothers
      cases h
      exact ⟨⟨hcount, hrest⟩, rfl⟩
    · rintro ⟨⟨hcount, hrest⟩, rfl⟩
      refine ⟨_, intOfDigits_eq_some.mpr ⟨hcount, rfl⟩, ?_⟩
      rw [Option.bind_eq_bind, ih.mpr ⟨hrest, rfl⟩]
      rfl

omit [StandardLibrary] in
theorem mapM_intOfDigits_eq_none {tokens : List Text} :
    tokens.mapM intOfDigits = none ↔ ¬ ∀ token ∈ tokens, IsCount token := by
  constructor
  · intro hnone hall
    rw [mapM_intOfDigits_eq_some.mpr ⟨hall, rfl⟩] at hnone
    cases hnone
  · intro hnot
    cases hvalues : tokens.mapM intOfDigits with
    | none => rfl
    | some values => exact absurd (mapM_intOfDigits_eq_some.mp hvalues).1 hnot

omit [StandardLibrary] [HttpLibrary] in
theorem dedup_eq_singleton {l : List Nat} : l.dedup = [n] ↔ l ≠ [] ∧ ∀ a ∈ l, a = n := by
  constructor
  · intro h
    refine ⟨?_, fun a ha => ?_⟩
    · rintro rfl
      cases h
    · rw [← List.mem_dedup, h, List.mem_singleton] at ha
      exact ha
  · rintro ⟨hne, hall⟩
    rw [List.eq_replicate_of_mem hall, List.replicate_dedup]
    simpa using hne

theorem declaredContentLength_client :
    declaredContentLength response = .error (.client error) ↔
      error = .other "ValueError" ∧ ¬ Countable response := by
  unfold declaredContentLength Countable
  by_cases hvalues : contentLengths response = []
  · have htokens := lengthTokens_eq_nil.mpr hvalues
    simp [hvalues, htokens]
  have htokens : lengthTokens response ≠ [] := fun h => hvalues (lengthTokens_eq_nil.mp h)
  rw [if_neg (by simpa using hvalues)]
  dsimp only
  by_cases hdigits : ∃ token ∈ lengthTokens response, isdigit token = false
  · rw [if_pos (by simpa [htokens] using hdigits)]
    simp [hdigits]
  · rw [if_neg (by simpa [htokens] using hdigits)]
    by_cases hcounts : ∀ token ∈ lengthTokens response, IsCount token
    · have hcountable : ¬ (error = .other "ValueError" ∧
          ¬ ((∃ token ∈ lengthTokens response, isdigit token = false) ∨
            ∀ token ∈ lengthTokens response, IsCount token)) := fun h => h.2 (Or.inr hcounts)
      rw [mapM_intOfDigits_eq_some.mpr ⟨hcounts, rfl⟩]
      dsimp only
      split <;> simpa using hcountable
    · have hnot : ¬ ((∃ token ∈ lengthTokens response, isdigit token = false) ∨
          ∀ token ∈ lengthTokens response, IsCount token) := by
        rw [not_or]
        exact ⟨hdigits, hcounts⟩
      rw [mapM_intOfDigits_eq_none.mpr hcounts]
      dsimp only
      constructor
      · intro h
        cases h
        exact ⟨rfl, hnot⟩
      · rintro ⟨rfl, -⟩
        rfl

theorem declaredContentLength_admits {maximumBodyBytes : Int} :
    (∃ declared, declaredContentLength response = .ok declared ∧
        declared.all (fun length : Nat => (length : Int) ≤ maximumBodyBytes) = true) ↔
      Admits response maximumBodyBytes := by
  unfold declaredContentLength Admits
  by_cases hvalues : contentLengths response = []
  · have htokens := lengthTokens_eq_nil.mpr hvalues
    simp [hvalues, htokens]
  have htokens : lengthTokens response ≠ [] := fun h => hvalues (lengthTokens_eq_nil.mp h)
  obtain ⟨first, rest, hfirst⟩ := List.exists_cons_of_ne_nil htokens
  rw [if_neg (by simpa using hvalues)]
  dsimp only
  constructor
  · rintro ⟨declared, h, hsmall⟩
    split at h
    · cases h
    next hdigits =>
    split at h
    · cases h
    next values hmap =>
    split at h
    · next length hdedup =>
      cases h
      obtain ⟨hcounts, rfl⟩ := mapM_intOfDigits_eq_some.mp hmap
      have hvalue : ∀ token ∈ lengthTokens response, digitsValue token = length := fun token htoken =>
        (dedup_eq_singleton.mp hdedup).2 _ (List.mem_map_of_mem htoken)
      intro token htoken
      refine ⟨?_, hcounts token htoken, ?_, ?_⟩
      · rintro rfl
        rw [Bool.or_eq_true, not_or] at hdigits
        exact hdigits.2 (List.any_eq_true.mpr ⟨[], htoken, rfl⟩)
      · simpa [hvalue token htoken] using hsmall
      · intro other hother
        rw [hvalue token htoken, hvalue other hother]
    · cases h
  · intro h
    have hcounts : ∀ token ∈ lengthTokens response, IsCount token := fun token htoken =>
      (h token htoken).2.1
    have hnone : ¬ ((lengthTokens response).isEmpty ||
        (lengthTokens response).any (!isdigit ·)) = true := by
      simp only [Bool.or_eq_true, List.any_eq_true, not_or, not_exists, not_and]
      refine ⟨by simpa using htokens, ?_⟩
      intro token htoken
      simp [isdigit_of_count (h token htoken).1 (hcounts token htoken).1]
    have hmem : first ∈ lengthTokens response := by simp [hfirst]
    have hdedup : ((lengthTokens response).map digitsValue).dedup = [digitsValue first] := by
      refine dedup_eq_singleton.mpr ⟨by simpa using htokens, ?_⟩
      intro a ha
      obtain ⟨token, htoken, rfl⟩ := List.mem_map.mp ha
      exact (h first hmem).2.2.2 token htoken
    rw [if_neg hnone, mapM_intOfDigits_eq_some.mpr ⟨hcounts, rfl⟩]
    dsimp only
    rw [hdedup]
    exact ⟨_, rfl, by simpa using (h first hmem).2.2.1⟩

end

/-! ## Bodies -/

section

variable {response : HttpResponse} {maximumBodyBytes : Int}

/-- After some calls of `read` the loop has some bytes, and goes on. -/
inductive Reading (response : HttpResponse) (maximumBodyBytes : Int) : Nat → Nat → Prop where
  | start : Reading response maximumBodyBytes 0 0
  | more {n total : Nat} {chunk : Bytes} (h : Reading response maximumBodyBytes n total)
      (hchunk : response.read n (probeSize maximumBodyBytes total) = .ok chunk) (hne : chunk ≠ [])
      (hle : (total : Int) + chunk.length ≤ maximumBodyBytes) :
      Reading response maximumBodyBytes (n + 1) (total + chunk.length)

/-- A call of `read` that the loop makes raises an exception. -/
def ReadRaises (response : HttpResponse) (maximumBodyBytes : Int) (error : ClientError) : Prop :=
  ∃ n total, Reading response maximumBodyBytes n total ∧ (total : Int) ≤ maximumBodyBytes ∧
    response.read n (probeSize maximumBodyBytes total) = .error error

theorem readLoop_reading {total : Nat} (h : Reading response maximumBodyBytes n total) :
    ∃ front : Bytes, front.length = total ∧
      readLoop response maximumBodyBytes 0 0
        = (readLoop response maximumBodyBytes n total).map (front ++ ·) := by
  induction h with
  | start =>
    refine ⟨[], rfl, ?_⟩
    cases readLoop response maximumBodyBytes 0 0 <;> rfl
  | @more n total chunk h hchunk hne hle ih =>
    obtain ⟨front, hfront, heq⟩ := ih
    obtain ⟨byte, bytes, rfl⟩ := List.exists_cons_of_ne_nil hne
    refine ⟨front ++ byte :: bytes, by simp [hfront], ?_⟩
    have hroom : ¬ maximumBodyBytes + 1 - total ≤ 0 := by
      rw [List.length_cons] at hle
      omega
    rw [heq, readLoop, if_neg hroom, hchunk]
    dsimp only
    rw [if_neg (by omega)]
    cases readLoop response maximumBodyBytes (n + 1) (total + (byte :: bytes).length) with
    | error raised => rfl
    | ok rest => simp [Except.map]

theorem readLoop_cases {total : Nat} (h : Reading response maximumBodyBytes n total) :
    (∃ rest, readLoop response maximumBodyBytes n total = .ok rest ∧
        (total : Int) + rest.length ≤ maximumBodyBytes) ∨
      readLoop response maximumBodyBytes n total = .error bodyTooLarge ∨
        ∃ error, readLoop response maximumBodyBytes n total = .error (.client error) ∧
          ReadRaises response maximumBodyBytes error := by
  induction hsize : (maximumBodyBytes + 1 - total).toNat using Nat.strongRecOn
    generalizing n total with
  | _ size ih =>
    rw [readLoop]
    split
    · exact Or.inr (Or.inl rfl)
    next hroom =>
    have htotal : (total : Int) ≤ maximumBodyBytes := by omega
    split
    · next error herror => exact Or.inr (Or.inr ⟨error, rfl, n, total, h, htotal, herror⟩)
    · exact Or.inl ⟨[], rfl, by simpa using htotal⟩
    · next byte bytes hchunk =>
      split
      · exact Or.inr (Or.inl rfl)
      next hsmall =>
      have hmore := h.more hchunk (by simp) (by omega)
      have hless : (maximumBodyBytes + 1 - (total + (byte :: bytes).length : Nat)).toNat < size := by
        simp only [List.length_cons] at hsmall ⊢
        omega
      rcases ih _ hless hmore rfl with ⟨rest, heq, hle⟩ | heq | ⟨error, heq, hraises⟩
      · refine Or.inl ⟨byte :: bytes ++ rest, by rw [heq]; rfl, ?_⟩
        simp only [List.length_append, List.length_cons] at hle ⊢
        omega
      · exact Or.inr (Or.inl (by rw [heq]; rfl))
      · exact Or.inr (Or.inr ⟨error, by rw [heq]; rfl, hraises⟩)

theorem readLoop_ok {body : Bytes} (h : readLoop response maximumBodyBytes 0 0 = .ok body) :
    (body.length : Int) ≤ maximumBodyBytes := by
  have hstart : Reading response maximumBodyBytes 0 0 := .start
  rcases readLoop_cases hstart with ⟨rest, heq, hle⟩ | heq | ⟨error, heq, -⟩
  · rw [h] at heq
    cases heq
    simpa using hle
  · rw [h] at heq
    cases heq
  · rw [h] at heq
    cases heq

theorem readLoop_client :
    readLoop response maximumBodyBytes 0 0 = .error (.client error) ↔
      ReadRaises response maximumBodyBytes error := by
  constructor
  · intro h
    have hstart : Reading response maximumBodyBytes 0 0 := .start
    rcases readLoop_cases hstart with ⟨rest, heq, -⟩ | heq | ⟨error', heq, hraises⟩
    · rw [h] at heq
      cases heq
    · rw [h] at heq
      cases heq
    · rw [h] at heq
      cases heq
      exact hraises
  · rintro ⟨n, total, hreading, htotal, herror⟩
    obtain ⟨front, -, heq⟩ := readLoop_reading hreading
    rw [heq, readLoop, if_neg (by omega), herror]
    rfl

end

section

variable [StandardLibrary] [HttpLibrary] {response : HttpResponse} {maximumBodyBytes : Int}

/-- What comes out of the body of a response as another exception: that of `int`, or one of `read`. -/
def Breaks (response : HttpResponse) (maximumBodyBytes : Int) (error : ClientError) : Prop :=
  (error = .other "ValueError" ∧ ¬ Countable response) ∨
    (Admits response maximumBodyBytes ∧ ReadRaises response maximumBodyBytes error)

theorem readBoundedBody_ok {body : Bytes}
    (h : readBoundedBody response maximumBodyBytes = .ok body) :
    (body.length : Int) ≤ maximumBodyBytes := by
  unfold readBoundedBody at h
  obtain ⟨declared, -, h⟩ := bind_ok h
  obtain ⟨_, -, h⟩ := bind_ok h
  exact readLoop_ok h

theorem readBoundedBody_client :
    readBoundedBody response maximumBodyBytes = .error (.client error) ↔
      Breaks response maximumBodyBytes error := by
  unfold readBoundedBody Breaks
  rw [← declaredContentLength_client, ← declaredContentLength_admits, ← readLoop_client]
  cases hdeclared : declaredContentLength response with
  | error raised => simp [bind, Except.bind]
  | ok declared =>
    by_cases hsmall : declared.all (fun length : Nat => (length : Int) ≤ maximumBodyBytes) = true
    · simp [bind, Except.bind, demand, hsmall]
    · simp [bind, Except.bind, demand, hsmall]

end

/-! ## Connections -/

section

variable [StandardLibrary] [HttpLibrary] {response : HttpResponse} {method : Text}
  {policy : FetchPolicy} {allowRedirectStatus : Bool}

/-- The responses of which the body is read. -/
structure HasBody (response : HttpResponse) (method : Text) (policy : FetchPolicy)
    (allowRedirectStatus : Bool) : Prop where
  count : (response.headers.length : Int) ≤ policy.maximumHeaderCount
  size : (headerSize response.getheaders response.reason : Int) ≤ policy.maximumHeaderBytes
  status : allowRedirectStatus = false →
    response.status < 300 ∨ 400 ≤ response.status ∨ response.status = 304
  method : method ≠ "HEAD".toList

theorem acceptResponse_client :
    acceptResponse response method policy allowRedirectStatus = .error (.client error) ↔
      HasBody response method policy allowRedirectStatus ∧
        Breaks response policy.maximumBodyBytes error := by
  have hlength : response.getheaders.length = response.headers.length := List.length_map ..
  unfold acceptResponse
  rw [← readBoundedBody_client]
  dsimp only
  rw [hlength]
  by_cases hcount : (response.headers.length : Int) ≤ policy.maximumHeaderCount
  case neg =>
    simp only [demand, hcount, bind, Except.bind, decide_false, Bool.false_eq_true, if_false]
    exact ⟨(fun h => by cases h), fun h => absurd h.1.count hcount⟩
  by_cases hsize : (headerSize response.getheaders response.reason : Int) ≤ policy.maximumHeaderBytes
  case neg =>
    simp only [demand, hcount, hsize, bind, Except.bind, decide_true, decide_false,
      Bool.false_eq_true, if_true, if_false]
    exact ⟨(fun h => by cases h), fun h => absurd h.1.size hsize⟩
  by_cases hredirect : (300 ≤ response.status && response.status < 400 && response.status ≠ 304
      && !allowRedirectStatus) = true
  case pos =>
    simp only [demand, hcount, hsize, hredirect, bind, Except.bind, decide_true, Bool.not_true,
      Bool.false_eq_true, if_true, if_false]
    refine ⟨(fun h => by cases h), fun h => ?_⟩
    simp only [Bool.and_eq_true, decide_eq_true_eq, Bool.not_eq_true'] at hredirect
    obtain ⟨⟨⟨hlow, hhigh⟩, hmodified⟩, hallow⟩ := hredirect
    have := h.1.status hallow
    omega
  have hstatus : allowRedirectStatus = false →
      response.status < 300 ∨ 400 ≤ response.status ∨ response.status = 304 := by
    intro hallow
    simp only [Bool.and_eq_true, decide_eq_true_eq, Bool.not_eq_true', not_and] at hredirect
    by_contra hnot
    rw [not_or, not_or] at hnot
    exact hredirect ⟨⟨by omega, by omega⟩, by omega⟩ hallow
  rw [Bool.not_eq_true] at hredirect
  simp only [demand, hcount, hsize, hredirect, bind, Except.bind, decide_true, Bool.not_false,
    if_true]
  by_cases hmethod : method = "HEAD".toList
  · rw [if_pos hmethod]
    exact ⟨(fun h => by cases h), fun h => absurd hmethod h.1.method⟩
  · rw [if_neg hmethod]
    exact ⟨fun h => ⟨⟨hcount, hsize, hstatus, hmethod⟩, h⟩, And.right⟩

theorem acceptResponse_ok (hlimit : 0 ≤ policy.maximumBodyBytes) {body : Bytes}
    (h : acceptResponse response method policy allowRedirectStatus = .ok body) :
    (body.length : Int) ≤ policy.maximumBodyBytes := by
  unfold acceptResponse at h
  obtain ⟨_, -, h⟩ := bind_ok h
  obtain ⟨_, -, h⟩ := bind_ok h
  obtain ⟨_, -, h⟩ := bind_ok h
  split at h
  · cases h
    exact hlimit
  · exact readBoundedBody_ok h

end

section

variable [StandardLibrary] [NetworkLibrary] [HttpLibrary] {Tls : Type} {connection : Connection Tls}
  {target : PyTarget} {address method : Text} {path : PyText} {policy : FetchPolicy} {body : Bytes}
  {contentType : Text} {extraHeaders : List (Text × Text)} {allowRedirectStatus : Bool}

/-- A connection over which a response comes. -/
structure Answers (connection : Connection Tls) (scheme : Text) (response : HttpResponse) : Prop where
  made : connection.make = .ok ()
  sent : connection.endheaders = .ok ()
  tls : scheme = https → ∃ tls, connection.tls = .ok tls
  response : connection.getresponse = .ok response

/-- A connection that ends with an exception of the transport before a response is there. -/
def Drops (connection : Connection Tls) (scheme : Text) (failure : TransportFailure) : Prop :=
  connection.make = .error failure ∨
    (connection.make = .ok () ∧ connection.endheaders = .error failure) ∨
    (connection.make = .ok () ∧ connection.endheaders = .ok () ∧
      (scheme = https → ∃ tls, connection.tls = .ok tls) ∧ connection.getresponse = .error failure)

/-- How a connection ends with an exception other than `SafeRequestError`. -/
def Fails (connection : Connection Tls) (scheme method : Text) (policy : FetchPolicy)
    (allowRedirectStatus : Bool) (error : ClientError) : Prop :=
  (scheme = http ∨ scheme = https) ∧
    ((∃ failure, error = .transport failure ∧ Drops connection scheme failure) ∨
      ∃ response, Answers connection scheme response ∧
        HasBody response method policy allowRedirectStatus ∧
          Breaks response policy.maximumBodyBytes error)

section

omit [StandardLibrary] [NetworkLibrary] [HttpLibrary]

variable {α : Type} {result : Except TransportFailure α}

theorem raising_transport_client :
    raising (result.mapError .transport) = .error (.client error) ↔
      ∃ failure, error = .transport failure ∧ result = .error failure := by
  cases result with
  | ok a => simp [raising, Atomic.mapError_ok]
  | error failure =>
    constructor
    · intro h
      cases h
      exact ⟨failure, rfl, rfl⟩
    · rintro ⟨_, rfl, h⟩
      cases h
      rfl

theorem raising_transport_ok {a : α} :
    raising (result.mapError .transport) = .ok a ↔ result = .ok a := by
  cases result <;> simp [raising, Atomic.mapError_ok, Atomic.mapError_error]

theorem connectionInfo_cases (connection : Connection Tls) (scheme : Text) :
    (∀ error, connectionInfo connection scheme ≠ .error (.client error)) ∧
      ((∃ info, connectionInfo connection scheme = .ok info) ↔
        (scheme = https → ∃ tls, connection.tls = .ok tls)) := by
  unfold connectionInfo
  by_cases hscheme : scheme = https
  · rw [if_pos hscheme]
    cases htls : connection.tls <;> simp [hscheme]
  · rw [if_neg hscheme]
    simp [hscheme]

end

theorem performRequest_client
    (hwrite : writeRequest target method path body contentType extraHeaders = .ok ()) :
    performRequest connection target address method path policy body contentType extraHeaders
        allowRedirectStatus = .error (.client error) ↔
      Fails connection target.scheme method policy allowRedirectStatus error := by
  obtain ⟨hquiet, hinfo⟩ := connectionInfo_cases connection target.scheme
  unfold performRequest Fails makeConnection
  by_cases hscheme : target.scheme = http ∨ target.scheme = https
  case neg =>
    rw [if_neg (by simpa using hscheme)]
    refine ⟨nofun, fun h => absurd h.1 hscheme⟩
  rw [if_pos (by simpa using hscheme), hwrite]
  simp only [bind_error_iff, raising_transport_client, raising_transport_ok,
    acceptResponse_client, hquiet, reduceCtorEq, false_or]
  constructor
  · rintro (⟨failure, rfl, hmake⟩ | ⟨_, hmake, _, -, ⟨failure, rfl, hsent⟩ | ⟨_, hsent, info, htls,
      ⟨failure, rfl, hlost⟩ | ⟨response, hresponse, hbody | ⟨content, -, h⟩⟩⟩⟩)
    · exact ⟨hscheme, Or.inl ⟨failure, rfl, Or.inl hmake⟩⟩
    · exact ⟨hscheme, Or.inl ⟨failure, rfl, Or.inr (Or.inl ⟨hmake, hsent⟩)⟩⟩
    · have htls := hinfo.mp ⟨info, htls⟩
      exact ⟨hscheme, Or.inl ⟨failure, rfl, Or.inr (Or.inr ⟨hmake, hsent, htls, hlost⟩)⟩⟩
    · have htls := hinfo.mp ⟨info, htls⟩
      exact ⟨hscheme, Or.inr ⟨response, ⟨hmake, hsent, htls, hresponse⟩, hbody⟩⟩
    · cases h
  · rintro ⟨-, ⟨failure, rfl, hmake | ⟨hmake, hsent⟩ | ⟨hmake, hsent, htls, hlost⟩⟩ |
      ⟨response, hanswers, hbody⟩⟩
    · exact Or.inl ⟨failure, rfl, hmake⟩
    · exact Or.inr ⟨(), hmake, (), trivial, Or.inl ⟨failure, rfl, hsent⟩⟩
    · obtain ⟨info, hok⟩ := hinfo.mpr htls
      exact Or.inr ⟨(), hmake, (), trivial,
        Or.inr ⟨(), hsent, info, hok, Or.inl ⟨failure, rfl, hlost⟩⟩⟩
    · obtain ⟨info, hok⟩ := hinfo.mpr hanswers.tls
      exact Or.inr ⟨(), hanswers.made, (), trivial, Or.inr ⟨(), hanswers.sent, info, hok,
        Or.inr ⟨response, hanswers.response, Or.inl hbody⟩⟩⟩

theorem performRequest_of_unwritten {raised : Raised} (hmake : connection.make = .ok ())
    (hscheme : target.scheme = http ∨ target.scheme = https)
    (hwrite : writeRequest target method path body contentType extraHeaders = .error raised) :
    performRequest connection target address method path policy body contentType extraHeaders
        allowRedirectStatus = .error raised := by
  unfold performRequest makeConnection
  rw [if_pos (by simpa using hscheme), hmake, hwrite]
  rfl

theorem performRequest_ok (hlimit : 0 ≤ policy.maximumBodyBytes) {response : FetchedResponse Tls}
    (h : performRequest connection target address method path policy body contentType extraHeaders
      allowRedirectStatus = .ok response) :
    (response.body.length : Int) ≤ policy.maximumBodyBytes := by
  unfold performRequest at h
  obtain ⟨_, -, h⟩ := bind_ok h
  obtain ⟨_, -, h⟩ := bind_ok h
  obtain ⟨_, -, h⟩ := bind_ok h
  obtain ⟨tls, -, h⟩ := bind_ok h
  obtain ⟨answer, -, h⟩ := bind_ok h
  obtain ⟨content, hcontent, h⟩ := bind_ok h
  cases h
  exact acceptResponse_ok hlimit hcontent

end

/-! ## Fetches -/

section

variable [StandardLibrary] [NetworkLibrary] [HttpLibrary] {Tls : Type}

/-- What `fetch_once` asks for before it looks at the target. -/
structure Permitted (policy : FetchPolicy) (method : Text) (body : Bytes) : Prop where
  limits : validatePolicy policy = .ok ()
  allowed : method ∈ policy.allowedMethods
  small : body = [] ∨ (body.length : Int) ≤ policy.maximumRequestBodyBytes

omit [StandardLibrary] [NetworkLibrary] [HttpLibrary] in
theorem validatePolicy_ne_client {policy : FetchPolicy} :
    validatePolicy policy ≠ .error (.client error) := by
  unfold validatePolicy
  simp only [ne_eq, bind_error_iff, demand_ne_client, or_self, exists_false, and_false,
    not_false_eq_true]

omit [StandardLibrary] [NetworkLibrary] [HttpLibrary] in
theorem bodyLimit_of_validatePolicy {policy : FetchPolicy} (h : validatePolicy policy = .ok ()) :
    0 ≤ policy.maximumBodyBytes := by
  unfold validatePolicy at h
  obtain ⟨_, -, h⟩ := bind_ok h
  obtain ⟨_, hlimit, -⟩ := bind_ok h
  simpa using demand_eq_ok.mp hlimit

section

omit [HttpLibrary]

variable {addresses : List Text}

theorem collectAddresses_ne_client {canonical : List Text} :
    collectAddresses addresses canonical ≠ .error (.client error) := by
  induction addresses generalizing canonical with
  | nil => rw [collectAddresses]; simp
  | cons first rest ih =>
    rw [collectAddresses]
    split
    · simp
    · exact ih

theorem canonicalAddresses_ne_client : canonicalAddresses addresses ≠ .error (.client error) := by
  unfold canonicalAddresses
  simp only [ne_eq, bind_error_iff, collectAddresses_ne_client, demand_ne_client, false_or,
    not_exists, not_and, pure, Except.pure, reduceCtorEq, and_false, not_false_eq_true, implies_true]

theorem canonicalAddresses_ne_nil {canonical : List Text}
    (h : canonicalAddresses addresses = .ok canonical) : canonical ≠ [] := by
  unfold canonicalAddresses at h
  obtain ⟨collected, -, h⟩ := bind_ok h
  obtain ⟨_, hdemand, h⟩ := bind_ok h
  cases h
  simpa using demand_eq_ok.mp hdemand

theorem demandHeaders_of_written {target : PyTarget} {method : Text} {path : PyText} {body : Bytes}
    {contentType : Text} {extraHeaders : List (Text × Text)}
    (h : writeRequest target method path body contentType extraHeaders = .ok ()) :
    extraHeaders.forM (fun (name, _) => demandHeader name) = .ok () := by
  have hloop : extraHeaders.forM (fun (name, value) => do
      demandHeader name
      raising (putheader name value)) = .ok () := by
    unfold writeRequest at h
    obtain ⟨_, -, h⟩ := bind_ok h
    obtain ⟨_, -, h⟩ := bind_ok h
    obtain ⟨_, -, h⟩ := bind_ok h
    obtain ⟨_, -, h⟩ := bind_ok h
    obtain ⟨_, -, h⟩ := bind_ok h
    obtain ⟨_, -, h⟩ := bind_ok h
    obtain ⟨_, hloop, -⟩ := bind_ok h
    exact hloop
  clear h
  induction extraHeaders with
  | nil => rfl
  | cons first rest ih =>
    rw [List.forM] at hloop ⊢
    obtain ⟨_, hfirst, hrest⟩ := bind_ok hloop
    obtain ⟨_, hdemand, -⟩ := bind_ok hfirst
    exact bind_ok_iff.mpr ⟨(), hdemand, ih hrest⟩

end

variable {network : Text → Connection Tls} {target : PyTarget} {method : Text}
    {policy : FetchPolicy} {body : Bytes} {contentType : Text} {extraHeaders : List (Text × Text)}
    {allowRedirectStatus : Bool} {path : PyText}

theorem fetchOnce_closed {property : FetchedResponse Tls → Prop}
    (hpath : requestPath target = .ok path)
    (hheaders : extraHeaders.forM (fun (name, _) => demandHeader name) = .ok ()) :
    Closed property (fetchOnce network target method policy body contentType extraHeaders
        allowRedirectStatus) ↔
      (Permitted policy (upper method) body → ∀ addresses,
        canonicalAddresses target.resolvedAddresses = .ok addresses →
          Closed property (tryAddresses (fun address => performRequest (network address) target address
            (upper method) path policy body contentType extraHeaders allowRedirectStatus)
            addresses [])) := by
  unfold fetchOnce
  cases hpolicy : validatePolicy policy with
  | error raised =>
    cases raised with
    | safeRequest code message =>
      refine ⟨fun _ hpermitted => ?_, fun _ => trivial⟩
      rw [hpermitted.limits] at hpolicy
      cases hpolicy
    | client error => exact absurd hpolicy validatePolicy_ne_client
  | ok _ =>
  by_cases hmethod : upper method ∈ policy.allowedMethods
  case neg =>
    refine ⟨fun _ hpermitted => absurd hpermitted.allowed hmethod, fun _ => ?_⟩
    simp [demand, hmethod, bind, Except.bind, Closed]
  by_cases hsmall : body = [] ∨ (body.length : Int) ≤ policy.maximumRequestBodyBytes
  case neg =>
    refine ⟨fun _ hpermitted => absurd hpermitted.small hsmall, fun _ => ?_⟩
    have hlarge : (body.isEmpty || decide ((body.length : Int) ≤ policy.maximumRequestBodyBytes))
        = false := by simpa using hsmall
    simp [demand, hmethod, hlarge, bind, Except.bind, Closed]
  have hpermitted : Permitted policy (upper method) body := ⟨hpolicy, hmethod, hsmall⟩
  have hsmall : (body.isEmpty || decide ((body.length : Int) ≤ policy.maximumRequestBodyBytes))
      = true := by simpa using hsmall
  have hpaths : (requestPath target).mapError ofContract = .ok path := by rw [hpath]; rfl
  simp only [demand, List.contains_iff_mem.mpr hmethod, hsmall, hheaders, hpaths, bind, Except.bind,
    if_true, hpermitted, forall_const]
  cases haddresses : canonicalAddresses target.resolvedAddresses with
  | error raised =>
    cases raised with
    | safeRequest code message => exact ⟨(fun _ _ h => by cases h), fun _ => trivial⟩
    | client error => exact absurd haddresses canonicalAddresses_ne_client
  | ok addresses => simp

/--
**Responses are handled under hostile servers, but for two exceptions.**

A length is read or refused exactly if each token is refused by `isdigit` or accepted by `int`. The
reading of a body ends within its limit. A fetch returns such a response or raises a
`SafeRequestError` exactly if no connection that it comes to ends with an exception of another kind:
a length that is not countable, or an exception of `read` that is not one of the transport.
-/
theorem response_handling_iff (hpath : requestPath target = .ok path)
    (hwrite : writeRequest target (upper method) path body contentType extraHeaders = .ok ()) :
    (∀ response, Closed (fun _ => True) (declaredContentLength response) ↔ Countable response) ∧
      (∀ response maximumBodyBytes,
        (∀ content, readBoundedBody response maximumBodyBytes = .ok content →
          (content.length : Int) ≤ maximumBodyBytes) ∧
        ∀ error, readBoundedBody response maximumBodyBytes = .error (.client error) ↔
          Breaks response maximumBodyBytes error) ∧
      (Closed (fun response => (response.body.length : Int) ≤ policy.maximumBodyBytes)
        (fetchOnce network target method policy body contentType extraHeaders allowRedirectStatus) ↔
      (Permitted policy (upper method) body → ∀ before address after,
        canonicalAddresses target.resolvedAddresses = .ok (before ++ address :: after) →
          (∀ earlier ∈ before, ∃ failure, Fails (network earlier) target.scheme (upper method) policy
            allowRedirectStatus (.transport failure)) →
            ∀ exceptionName, ¬ Fails (network address) target.scheme (upper method) policy
              allowRedirectStatus (.other exceptionName))) := by
  refine ⟨?_, ?_, ?_⟩
  · intro response
    cases hdeclared : declaredContentLength response with
    | ok declared =>
      refine ⟨fun _ => ?_, fun _ => trivial⟩
      by_contra hnot
      rw [declaredContentLength_client.mpr ⟨rfl, hnot⟩] at hdeclared
      cases hdeclared
    | error raised =>
      cases raised with
      | safeRequest code message =>
        refine ⟨fun _ => ?_, fun _ => trivial⟩
        by_contra hnot
        rw [declaredContentLength_client.mpr ⟨rfl, hnot⟩] at hdeclared
        cases hdeclared
      | client error => exact ⟨False.elim, (declaredContentLength_client.mp hdeclared).2⟩
  · intro response maximumBodyBytes
    exact ⟨fun content => readBoundedBody_ok, fun error => readBoundedBody_client⟩
  · rw [fetchOnce_closed hpath (demandHeaders_of_written hwrite)]
    refine forall_congr' fun hpermitted => ?_
    have hlimit := bodyLimit_of_validatePolicy hpermitted.limits
    constructor
    · intro h before address after haddresses
      have hclosed := (tryAddresses_closed_iff (fun address response => performRequest_ok hlimit)
        (before ++ address :: after) []).mp (h _ haddresses) before address after rfl
      simpa only [performRequest_client hwrite, ne_eq] using hclosed
    · intro h addresses haddresses
      rw [tryAddresses_closed_iff fun address response => performRequest_ok hlimit]
      rintro before address after rfl
      simpa only [performRequest_client hwrite, ne_eq] using h before address after haddresses

end

/-! ## A small server -/

/-- ASCII in upper case, and the usual limit of `int`. -/
@[reducible] def asciiUpper : HttpLibrary where
  upper := List.map Char.toUpper
  maximumDigits := 4300
  upper_ascii := fun _ _ => rfl

def addressedTarget : PyTarget where
  originalUrl := codePoints "http://h/".toList
  normalisedUrl := codePoints "http://h/".toList
  scheme := http
  hostname := "h".toList
  port := 80
  resolvedAddresses := ["8.8.8.8".toList]

def answeringWith (name value : Bytes) (body : Bytes) : Connection Unit where
  make := .ok ()
  endheaders := .ok ()
  tls := .ok ()
  getresponse := .ok {
    status := 200
    reason := "OK".toList
    headers := [(name, value)]
    read := fun n _ => .ok (if n = 0 then body else []) }
  elapsedMilliseconds := 1

/-- `Content-Length`. -/
def contentLengthName : Bytes :=
  [67, 111, 110, 116, 101, 110, 116, 45, 76, 101, 110, 103, 116, 104]

/-- A body of two bytes with its length. -/
theorem response_handling_counted :
    letI := addressLibrary
    letI := publicNetwork
    letI := asciiUpper
    Closed (fun response => (response.body.length : Int) ≤ FetchPolicy.usual.maximumBodyBytes)
      (fetchOnce (fun _ => answeringWith contentLengthName [50] [104, 105]) addressedTarget
        "get".toList FetchPolicy.usual [] [] [] false) := by
  let _ := addressLibrary
  let _ := publicNetwork
  let _ := asciiUpper
  have hpath : requestPath addressedTarget = .ok (codePoints ['/']) := by decide
  have hwrite : writeRequest addressedTarget (upper "get".toList) (codePoints ['/']) [] [] []
      = .ok () := by decide
  refine (response_handling_iff hpath hwrite).2.2.mpr ?_
  rintro - before address after - - exceptionName ⟨-, ⟨failure, h, -⟩ |
    ⟨response, hanswers, -, ⟨-, hcount⟩ | ⟨-, n, total, -, -, hread⟩⟩⟩
  · cases h
  · cases hanswers.response
    refine hcount (Or.inr fun token htoken => ?_)
    have htokens : lengthTokens ⟨200, "OK".toList, [(contentLengthName, [50])],
        fun n _ => .ok (if n = 0 then [104, 105] else [])⟩ = [['2']] := by decide
    rw [htokens, List.mem_singleton] at htoken
    subst htoken
    exact ⟨List.all_eq_true.mp (by decide), by decide⟩
  · cases hanswers.response
    cases hread

/-- **A length of "²"** is a digit and no number. -/
theorem superscript_escapes :
    letI := addressLibrary
    letI := publicNetwork
    letI := asciiUpper
    fetchOnce (fun _ => answeringWith contentLengthName [0xB2] [104, 105]) addressedTarget
      "GET".toList FetchPolicy.usual [] [] [] false = .error (.client (.other "ValueError")) := by
  let _ := addressLibrary
  let _ := publicNetwork
  let _ := asciiUpper
  decide

end SafeHttp

end WebGuard
