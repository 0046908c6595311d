import WebGuard.Crawler.Fetch
import WebGuard.Crawler.Targets

/-!
# One bounded request

`fetch_once` of `safe_http.py`. What `http.client` checks of a request before it is sent is part of
the model. What comes of a connection to an address is not: a `Connection` says what raises, and what
the server answers. The header fields of a response are bytes, which `http.client` decodes as
Latin-1; `read` gives what it gives, or raises.
-/

namespace WebGuard

open PyJson UrlParse StandardLibrary NetworkLibrary

/-- More of the standard library. -/
class HttpLibrary where
  /-- `str.upper`. -/
  upper : Text → Text
  /-- `sys.get_int_max_str_digits()`. -/
  maximumDigits : Nat
  upper_ascii : ∀ t : Text, (∀ c ∈ t, c.toNat < 128) → upper t = t.map Char.toUpper

namespace SafeHttp

open HttpLibrary

abbrev Bytes := List UInt8

/-! ## Exceptions -/

/-- The `errno` of an `OSError`, as far as a name of it is used. -/
inductive ErrorNumber where
  | econnrefused
  | etimedout
  | econnreset
  | econnaborted
  | epipe
  | enetunreach
  | ehostunreach
  | enetdown
  | ehostdown
  | other
  deriving DecidableEq

/-- The kinds that `_connection_error_code` tells apart, by its first `isinstance` that holds. -/
inductive TransportKind where
  | certificateVerification
  | ssl
  | timeout
  | refused
  | interrupted
  | httpException
  | osError (number : ErrorNumber)
  deriving DecidableEq

/-- An `OSError`, an `ssl.SSLError` or an `http.client.HTTPException`. -/
structure TransportFailure where
  kind : TransportKind
  exceptionName : String
  deriving DecidableEq

/-- What `http.client` can raise. -/
inductive ClientError where
  | transport (failure : TransportFailure)
  | other (exceptionName : String)
  deriving DecidableEq

inductive Raised where
  | safeRequest (code : RequestErrorCode) (message : String)
  | client (error : ClientError)
  deriving DecidableEq

/-- `if not condition: raise SafeRequestError(code, message)`. -/
def demand (condition : Bool) (code : RequestErrorCode) (message : String) : Except Raised Unit :=
  if condition then .ok () else .error (.safeRequest code message)

def connectionErrorCode (failure : TransportFailure) : RequestErrorCode :=
  match failure.kind with
  | .certificateVerification => .tlsCertificateInvalid
  | .ssl => .tlsHandshakeFailed
  | .timeout => .connectionTimeout
  | .refused => .connectionRefused
  | .interrupted => .connectionInterrupted
  | .httpException => .httpProtocolError
  | .osError .econnrefused => .connectionRefused
  | .osError .etimedout => .connectionTimeout
  | .osError .econnreset => .connectionInterrupted
  | .osError .econnaborted => .connectionInterrupted
  | .osError .epipe => .connectionInterrupted
  | .osError .enetunreach => .networkUnreachable
  | .osError .ehostunreach => .networkUnreachable
  | .osError .enetdown => .networkUnreachable
  | .osError .ehostdown => .networkUnreachable
  | .osError .other => .connectionFailed

structure ConnectionFailure where
  address : Text
  code : RequestErrorCode
  exceptionName : String

def retryableConnectionCodes : List RequestErrorCode :=
  [.connectionTimeout, .connectionRefused, .connectionInterrupted, .networkUnreachable,
    .connectionFailed]

def aggregateConnectionErrorCode (failures : List ConnectionFailure) : RequestErrorCode :=
  match (failures.map (·.code)).dedup with
  | [code] => code
  | codes =>
    if !codes.isEmpty && codes.all retryableConnectionCodes.contains then .connectionFailed
    else .connectionFailedMixed

/-! ## Policies and targets -/

structure FetchPolicy where
  timeoutSeconds : ℚ
  maximumBodyBytes : Int
  maximumHeaderBytes : Int
  maximumHeaderCount : Int
  allowedMethods : List Text
  maximumRequestBodyBytes : Int

/-- `FetchPolicy()`. -/
def FetchPolicy.usual : FetchPolicy where
  timeoutSeconds := 10
  maximumBodyBytes := 1048576
  maximumHeaderBytes := 65536
  maximumHeaderCount := 100
  allowedMethods := ["GET".toList, "HEAD".toList]
  maximumRequestBodyBytes := 65536

def validatePolicy (policy : FetchPolicy) : Except Raised Unit := do
  demand (0 < policy.timeoutSeconds) .timeoutInvalid
    "The request timeout must be greater than zero."
  demand (0 ≤ policy.maximumBodyBytes) .bodyLimitInvalid
    "The response-body limit cannot be negative."
  demand (0 < policy.maximumHeaderBytes) .headerLimitInvalid
    "The response-header limit must be greater than zero."
  demand (0 < policy.maximumHeaderCount) .headerCountInvalid
    "The response header-count limit must be greater than zero."
  demand (0 ≤ policy.maximumRequestBodyBytes) .requestBodyLimitInvalid
    "The request-body limit cannot be negative."

def forbiddenRequestHeaders : List Text :=
  ["host".toList, "content-length".toList, "transfer-encoding".toList, "connection".toList,
    "forwarded".toList, "x-forwarded-host".toList, "x-forwarded-for".toList]

variable [StandardLibrary] [NetworkLibrary] [HttpLibrary]

/-- The check of the extra headers, which is made twice. -/
def demandHeader (name : Text) : Except Raised Unit :=
  demand (!forbiddenRequestHeaders.contains (lower name)) .forbiddenRequestHeader
    ("Header " ++ quoted name ++ " cannot be set through extra_headers.")

/-- The loop of `_canonical_addresses`, with the addresses it has. -/
def collectAddresses : List Text → List Text → Except Raised (List Text)
  | [], canonical => .ok canonical
  | addressText :: rest, canonical =>
    match ipAddress addressText with
    | none =>
      .error (.safeRequest .validatedAddressInvalid
        ("Invalid approved address " ++ quoted addressText ++ "."))
    | some address =>
      collectAddresses rest (if canonical.contains address.compressed then canonical
        else canonical ++ [address.compressed])

def canonicalAddresses (addresses : List Text) : Except Raised (List Text) := do
  let canonical ← collectAddresses addresses []
  demand (!canonical.isEmpty) .validatedAddressesEmpty
    "The validated target has no approved addresses."
  return canonical

/-- `_authority`, which is the code of `_format_netloc` once more. -/
def hostHeader (hostname : Text) (port : Nat) (scheme : Text) : Text :=
  formatNetloc hostname port scheme

/-- The exception of `_request_path`. -/
def ofContract (error : ContractError) : Raised :=
  if error.code = "ValueError" then .client (.other "ValueError")
  else if error.code = "fragment_not_allowed" then .safeRequest .fragmentNotAllowed error.message
  else .safeRequest .validatedTargetMismatch error.message

/-! ## What `http.client` checks of a request -/

/-- `putrequest`: `_validate_method`, `_validate_path` and `_encode_request`. -/
def putrequest (method : Text) (path : PyText) : Except ClientError Unit :=
  let url := if path.isEmpty then [47] else path
  if method.any (·.toNat < 32) then .error (.other "ValueError")
  else if url.any fun n => n ≤ 32 || n = 127 then
    .error (.transport ⟨.httpException, "InvalidURL"⟩)
  else if !method.all (·.toNat < 128) || !url.all (· < 128) then
    .error (.other "UnicodeEncodeError")
  else .ok ()

/-- `[^:\s][^:\r\n]*` on bytes. -/
def isLegalHeaderName (name : Text) : Bool :=
  match name with
  | [] => false
  | c :: rest =>
    c ≠ ':' && !((9 ≤ c.toNat && c.toNat ≤ 13) || c.toNat = 32) &&
      rest.all fun d => d ≠ ':' && d ≠ '\r' && d ≠ '\n'

/-- `\n(?![ \t])|\r(?![ \t\n])` somewhere in a value. -/
def isIllegalHeaderValue : Text → Bool
  | [] => false
  | c :: rest =>
    (c = '\n' && !(rest.head?.any fun d => d = ' ' || d = '\t')) ||
      (c = '\r' && !(rest.head?.any fun d => d = ' ' || d = '\t' || d = '\n')) ||
      isIllegalHeaderValue rest

def putheader (header value : Text) : Except ClientError Unit :=
  if !header.all (·.toNat < 128) then .error (.other "UnicodeEncodeError")
  else if !isLegalHeaderName header then .error (.other "ValueError")
  else if !value.all (·.toNat < 256) then .error (.other "UnicodeEncodeError")
  else if isIllegalHeaderValue value then .error (.other "ValueError")
  else .ok ()

/-- An exception of `http.client` passes. -/
def raising {α : Type} : Except ClientError α → Except Raised α
  | .ok a => .ok a
  | .error error => .error (.client error)

/-- The headers of a request with a body. -/
def writeBodyHeaders (body : Bytes) (contentType : Text) : Except ClientError Unit :=
  if body.isEmpty then .ok ()
  else do
    putheader "Content-Type".toList
      (if contentType.isEmpty then "application/octet-stream".toList else contentType)
    putheader "Content-Length".toList (Nat.toDigits 10 body.length)

/-- The part of `_perform_request` in front of `endheaders`. -/
def writeRequest (target : PyTarget) (method : Text) (path : PyText) (body : Bytes)
    (contentType : Text) (extraHeaders : List (Text × Text)) : Except Raised Unit := do
  raising (putrequest method path)
  raising (putheader "Host".toList (hostHeader target.hostname target.port target.scheme))
  raising (putheader "User-Agent".toList "OpenHuntX-WebGuard/0.1".toList)
  raising (putheader "Accept".toList "*/*".toList)
  raising (putheader "Accept-Encoding".toList "identity".toList)
  raising (writeBodyHeaders body contentType)
  extraHeaders.forM fun (name, value) => do
    demandHeader name
    raising (putheader name value)
  raising (putheader "Connection".toList "close".toList)

/-! ## Responses -/

section

omit [StandardLibrary] [NetworkLibrary] [HttpLibrary]

structure HttpResponse where
  status : Nat
  reason : Text
  headers : List (Bytes × Bytes)
  /-- What `read` gives at its n-th call, for a size. -/
  read : Nat → Nat → Except ClientError Bytes

/-- `bytes.decode("iso-8859-1")`. -/
def latin1 (bytes : Bytes) : Text := bytes.map fun b => Char.ofNat b.toNat

def HttpResponse.getheaders (response : HttpResponse) : List (Text × Text) :=
  response.headers.map fun (name, value) => (latin1 name, latin1 value)

/-- `_header_size`. With `errors="replace"` each character is one byte. -/
def headerSize (headers : List (Text × Text)) (reason : Text) : Nat :=
  let statusLineSize := reason.length + 16
  let fieldsSize := (headers.map fun (name, value) => name.length + value.length + 4).sum
  statusLineSize + fieldsSize + 2

/-- `str.isdigit` on Latin-1, where three characters are digits and no decimal ones. -/
def isdigit (token : Text) : Bool :=
  !token.isEmpty && token.all fun c => isAsciiDigit c || c = '²' || c = '³' || c = '¹'

end

/-- `int` of a text of digits; `none` is a `ValueError`. -/
def intOfDigits (token : Text) : Option Nat :=
  if token.all isAsciiDigit && token.length ≤ maximumDigits then some (digitsValue token) else none

/-- `response.msg.get_all("Content-Length", [])`. -/
def contentLengths (response : HttpResponse) : List Text :=
  (response.getheaders.filter fun (name, _) => lower name = "content-length".toList).map Prod.snd

/-- The tokens of `_declared_content_length`. -/
def lengthTokens (response : HttpResponse) : List Text :=
  (contentLengths response).flatMap fun value => (split ',' value).map stripped

def declaredContentLength (response : HttpResponse) : Except Raised (Option Nat) :=
  if (contentLengths response).isEmpty then .ok none
  else
    let tokens := lengthTokens response
    if tokens.isEmpty || tokens.any (!isdigit ·) then
      .error (.safeRequest .contentLengthInvalid "The server returned an invalid Content-Length.")
    else
      match tokens.mapM intOfDigits with
      | none => .error (.client (.other "ValueError"))
      | some values =>
        match values.dedup with
        | [length] => .ok (some length)
        | _ =>
          .error (.safeRequest .contentLengthAmbiguous
            "The server returned conflicting Content-Length values.")

section

omit [StandardLibrary] [NetworkLibrary] [HttpLibrary]

def bodyTooLarge : Raised :=
  .safeRequest .responseBodyTooLarge "The response body exceeds the configured limit."

/-- The size that the loop of `_read_bounded_body` asks for. -/
def probeSize (maximumBodyBytes : Int) (total : Nat) : Nat :=
  (min 65536 (maximumBodyBytes + 1 - total)).toNat

/-- The loop of `_read_bounded_body`, before its n-th call of `read`. -/
def readLoop (response : HttpResponse) (maximumBodyBytes : Int) (n total : Nat) :
    Except Raised Bytes :=
  if maximumBodyBytes + 1 - total ≤ 0 then .error bodyTooLarge
  else
    match response.read n (probeSize maximumBodyBytes total) with
    | .error error => .error (.client error)
    | .ok [] => .ok []
    | .ok (byte :: bytes) =>
      if maximumBodyBytes < total + (byte :: bytes).length then .error bodyTooLarge
      else (readLoop response maximumBodyBytes (n + 1) (total + (byte :: bytes).length)).map
        ((byte :: bytes) ++ ·)
termination_by (maximumBodyBytes + 1 - total).toNat
decreasing_by
  simp only [List.length_cons] at *
  omega

end

def readBoundedBody (response : HttpResponse) (maximumBodyBytes : Int) : Except Raised Bytes := do
  let declaredLength ← declaredContentLength response
  demand (declaredLength.all fun (length : Nat) => (length : Int) ≤ maximumBodyBytes)
    .responseBodyTooLarge "The declared response body exceeds the limit."
  readLoop response maximumBodyBytes 0 0

/-! ## `fetch_once` -/

/-- `SafeHttpResponse`, with its body. -/
structure FetchedResponse (Tls : Type) where
  status : Nat
  reason : Text
  headers : List (Text × Text)
  body : Bytes
  connectedAddress : Text
  elapsedMilliseconds : Nat
  tls : Option Tls
  deriving DecidableEq

/-- What comes of a connection to an address. -/
structure Connection (Tls : Type) where
  /-- `HTTPConnection`, and the TLS context of an HTTPS one. -/
  make : Except TransportFailure Unit
  /-- `endheaders`: the connection is made and the request is sent. -/
  endheaders : Except TransportFailure Unit
  /-- `_tls_connection_info`. -/
  tls : Except (RequestErrorCode × String) Tls
  getresponse : Except TransportFailure HttpResponse
  elapsedMilliseconds : Nat

variable {Tls : Type}

section

omit [StandardLibrary] [NetworkLibrary] [HttpLibrary]

def makeConnection (connection : Connection Tls) (scheme : Text) : Except Raised Unit :=
  if scheme = http || scheme = https then raising (connection.make.mapError .transport)
  else .error (.safeRequest .schemeNotAllowed "Only HTTP and HTTPS requests are supported.")

/-- The metadata of a TLS connection. -/
def connectionInfo (connection : Connection Tls) (scheme : Text) : Except Raised (Option Tls) :=
  if scheme = https then
    match connection.tls with
    | .ok tls => .ok (some tls)
    | .error (code, message) => .error (.safeRequest code message)
  else .ok none

end

/-- The part of `_perform_request` behind `getresponse`. -/
def acceptResponse (response : HttpResponse) (method : Text) (policy : FetchPolicy)
    (allowRedirectStatus : Bool) : Except Raised Bytes := do
  let headers := response.getheaders
  demand (headers.length ≤ policy.maximumHeaderCount) .responseHeadersTooMany
    "The response contains too many headers."
  demand (headerSize headers response.reason ≤ policy.maximumHeaderBytes) .responseHeadersTooLarge
    "The response headers exceed the limit."
  demand (!(300 ≤ response.status && response.status < 400 && response.status ≠ 304
      && !allowRedirectStatus)) .redirectBlocked
    "Automatic redirect following is disabled."
  if method = "HEAD".toList then return []
  else readBoundedBody response policy.maximumBodyBytes

/-- `_perform_request`. What closing the connection raises is dropped. -/
def performRequest (connection : Connection Tls) (target : PyTarget) (address method : Text)
    (path : PyText) (policy : FetchPolicy) (body : Bytes) (contentType : Text)
    (extraHeaders : List (Text × Text)) (allowRedirectStatus : Bool) :
    Except Raised (FetchedResponse Tls) := do
  makeConnection connection target.scheme
  writeRequest target method path body contentType extraHeaders
  raising (connection.endheaders.mapError .transport)
  let tls ← connectionInfo connection target.scheme
  let response ← raising (connection.getresponse.mapError .transport)
  let content ← acceptResponse response method policy allowRedirectStatus
  return {
    status := response.status
    reason := response.reason
    headers := response.getheaders
    body := content
    connectedAddress := address
    elapsedMilliseconds := connection.elapsedMilliseconds
    tls := tls }

section

omit [StandardLibrary] [NetworkLibrary] [HttpLibrary]

/-- The error of a fetch whose connections have all failed. -/
def allFailed (failures : List ConnectionFailure) : Raised :=
  .safeRequest (aggregateConnectionErrorCode failures)
    ("All approved destination addresses failed: " ++ ", ".intercalate
      (failures.map fun failure => String.ofList failure.address ++ ": " ++ failure.exceptionName))

/-- The loop of `fetch_once`, with the failures it has. -/
def tryAddresses (perform : Text → Except Raised (FetchedResponse Tls)) :
    List Text → List ConnectionFailure → Except Raised (FetchedResponse Tls)
  | [], failures => .error (allFailed failures)
  | address :: rest, failures =>
    match perform address with
    | .ok response => .ok response
    | .error (.safeRequest code message) => .error (.safeRequest code message)
    | .error (.client (.transport failure)) =>
      tryAddresses perform rest
        (failures ++ [⟨address, connectionErrorCode failure, failure.exceptionName⟩])
    | .error (.client (.other exceptionName)) => .error (.client (.other exceptionName))

end

def fetchOnce (network : Text → Connection Tls) (target : PyTarget) (method : Text)
    (policy : FetchPolicy) (body : Bytes) (contentType : Text)
    (extraHeaders : List (Text × Text)) (allowRedirectStatus : Bool) :
    Except Raised (FetchedResponse Tls) := do
  validatePolicy policy
  let normalisedMethod := upper method
  demand (policy.allowedMethods.contains normalisedMethod) .methodNotAllowed
    ("HTTP method " ++ quoted normalisedMethod ++ " is prohibited.")
  demand (body.isEmpty || (body.length : Int) ≤ policy.maximumRequestBodyBytes) .requestBodyTooLarge
    "The request body exceeds the configured limit."
  extraHeaders.forM fun (name, _) => demandHeader name
  let path ← (requestPath target).mapError ofContract
  let addresses ← canonicalAddresses target.resolvedAddresses
  tryAddresses (fun address => performRequest (network address) target address normalisedMethod path
    policy body contentType extraHeaders allowRedirectStatus) addresses []

/-! ## Controlled ends -/

section

omit [StandardLibrary] [NetworkLibrary] [HttpLibrary]

/-- A result with a property, or a `SafeRequestError`. -/
def Closed {α : Type} (property : α → Prop) : Except Raised α → Prop
  | .ok result => property result
  | .error (.safeRequest _ _) => True
  | .error (.client _) => False

@[simp] theorem raising_eq_ok {α : Type} {result : Except ClientError α} {a : α} :
    raising result = .ok a ↔ result = .ok a := by
  cases result <;> simp [raising]

variable {condition : Bool} {code : RequestErrorCode} {message : String}

theorem demand_eq_ok {u : Unit} :
    demand condition code message = .ok u ↔ condition = true := by
  cases condition <;> simp [demand]

theorem demand_ne_client {error : ClientError} : demand condition code message ≠ .error
    (.client error) := by
  cases condition <;> simp [demand]

theorem tryAddresses_closed_iff {perform : Text → Except Raised (FetchedResponse Tls)}
    {property : FetchedResponse Tls → Prop}
    (hproperty : ∀ address response, perform address = .ok response → property response)
    (addresses : List Text) (failures : List ConnectionFailure) :
    Closed property (tryAddresses perform addresses failures) ↔
      ∀ before address after, addresses = before ++ address :: after →
        (∀ earlier ∈ before, ∃ failure, perform earlier = .error (.client (.transport failure))) →
          ∀ exceptionName, perform address ≠ .error (.client (.other exceptionName)) := by
  induction addresses generalizing failures with
  | nil =>
    rw [tryAddresses, allFailed]
    constructor
    · intro _ before address after heq
      cases before <;> cases heq
    · intro _
      trivial
  | cons first rest ih =>
    rw [tryAddresses]
    cases hfirst : perform first with
    | ok response =>
      refine ⟨?_, fun _ => hproperty first response hfirst⟩
      rintro - before address after heq hbefore exceptionName hescape
      cases before with
      | nil =>
        cases heq
        rw [hfirst] at hescape
        cases hescape
      | cons earlier more =>
        cases heq
        obtain ⟨failure, hfailure⟩ := hbefore _ List.mem_cons_self
        rw [hfirst] at hfailure
        cases hfailure
    | error raised =>
      cases raised with
      | safeRequest code message =>
        refine ⟨?_, fun _ => trivial⟩
        rintro - before address after heq hbefore exceptionName hescape
        cases before with
        | nil =>
          cases heq
          rw [hfirst] at hescape
          cases hescape
        | cons earlier more =>
          cases heq
          obtain ⟨failure, hfailure⟩ := hbefore _ List.mem_cons_self
          rw [hfirst] at hfailure
          cases hfailure
      | client error =>
        cases error with
        | transport failure =>
          dsimp only
          rw [ih]
          constructor
          · intro hrest before address after heq hbefore
            cases before with
            | nil =>
              cases heq
              rw [hfirst]
              nofun
            | cons earlier more =>
              cases heq
              exact hrest more address after rfl fun other hother =>
                hbefore other (List.mem_cons_of_mem _ hother)
          · intro hall before address after heq hbefore
            refine hall (first :: before) address after (by rw [heq]; rfl) ?_
            intro earlier hearlier
            rcases List.mem_cons.mp hearlier with rfl | hearlier
            · exact ⟨failure, hfirst⟩
            · exact hbefore earlier hearlier
        | other exceptionName =>
          refine ⟨False.elim, ?_⟩
          intro hall
          exact hall [] first rest rfl (by simp) exceptionName hfirst

end

end SafeHttp

end WebGuard
