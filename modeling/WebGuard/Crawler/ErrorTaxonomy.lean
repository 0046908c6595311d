import WebGuard.Crawler.Crawl
import WebGuard.Crawler.SafeHttp

/-!
# The error taxonomy

The tables of `error_taxonomy.py`, which say of a stage and a code whether a retry is safe, and the
code that `fetch_once` chooses when every address of a target has failed.
-/

namespace WebGuard

namespace ErrorTaxonomy

open PyJson UrlParse StandardLibrary List
open SafeHttp

/-! ## Codes and policies -/

/-- The text of a code. -/
def codeText : RequestErrorCode → Text
  | .timeoutInvalid => "timeout_invalid".toList
  | .bodyLimitInvalid => "body_limit_invalid".toList
  | .headerLimitInvalid => "header_limit_invalid".toList
  | .requestBodyLimitInvalid => "request_body_limit_invalid".toList
  | .headerCountInvalid => "header_count_invalid".toList
  | .validatedAddressInvalid => "validated_address_invalid".toList
  | .validatedAddressesEmpty => "validated_addresses_empty".toList
  | .validatedTargetMismatch => "validated_target_mismatch".toList
  | .fragmentNotAllowed => "fragment_not_allowed".toList
  | .schemeNotAllowed => "scheme_not_allowed".toList
  | .methodNotAllowed => "method_not_allowed".toList
  | .proxyTunnelNotAllowed => "proxy_tunnel_not_allowed".toList
  | .connectionTimeout => "connection_timeout".toList
  | .connectionRefused => "connection_refused".toList
  | .connectionInterrupted => "connection_interrupted".toList
  | .networkUnreachable => "network_unreachable".toList
  | .connectionFailed => "connection_failed".toList
  | .tlsCertificateInvalid => "tls_certificate_invalid".toList
  | .tlsHandshakeFailed => "tls_handshake_failed".toList
  | .tlsContextInsecure => "tls_context_insecure".toList
  | .tlsMetadataUnavailable => "tls_metadata_unavailable".toList
  | .tlsCertificateMetadataInvalid => "tls_certificate_metadata_invalid".toList
  | .tlsCertificateMetadataTooLarge => "tls_certificate_metadata_too_large".toList
  | .httpProtocolError => "http_protocol_error".toList
  | .connectionFailedMixed => "connection_failed_mixed".toList
  | .redirectBlocked => "redirect_blocked".toList
  | .responseBodyTooLarge => "response_body_too_large".toList
  | .responseHeadersTooMany => "response_headers_too_many".toList
  | .responseHeadersTooLarge => "response_headers_too_large".toList
  | .requestBodyTooLarge => "request_body_too_large".toList
  | .forbiddenRequestHeader => "forbidden_request_header".toList
  | .contentLengthInvalid => "content_length_invalid".toList
  | .contentLengthAmbiguous => "content_length_ambiguous".toList

inductive ErrorCategory where
  | configuration
  | targetIntegrity
  | networkTransient
  | tls
  | httpProtocol
  | responsePolicy
  | responseLimit
  | responseFormat
  | requestLimit
  | analysis
  | mixed
  | unknown
  deriving DecidableEq

structure ErrorPolicy where
  category : ErrorCategory
  retryable : Bool
  deriving DecidableEq

def requestPolicies : List (Text × ErrorPolicy) :=
  [("timeout_invalid".toList, ⟨.configuration, false⟩),
    ("body_limit_invalid".toList, ⟨.configuration, false⟩),
    ("header_limit_invalid".toList, ⟨.configuration, false⟩),
    ("request_body_limit_invalid".toList, ⟨.configuration, false⟩),
    ("header_count_invalid".toList, ⟨.configuration, false⟩),
    ("validated_address_invalid".toList, ⟨.targetIntegrity, false⟩),
    ("validated_addresses_empty".toList, ⟨.targetIntegrity, false⟩),
    ("validated_target_mismatch".toList, ⟨.targetIntegrity, false⟩),
    ("fragment_not_allowed".toList, ⟨.targetIntegrity, false⟩),
    ("scheme_not_allowed".toList, ⟨.targetIntegrity, false⟩),
    ("method_not_allowed".toList, ⟨.targetIntegrity, false⟩),
    ("proxy_tunnel_not_allowed".toList, ⟨.targetIntegrity, false⟩),
    ("connection_timeout".toList, ⟨.networkTransient, true⟩),
    ("connection_refused".toList, ⟨.networkTransient, true⟩),
    ("connection_interrupted".toList, ⟨.networkTransient, true⟩),
    ("network_unreachable".toList, ⟨.networkTransient, true⟩),
    ("connection_failed".toList, ⟨.networkTransient, true⟩),
    ("tls_certificate_invalid".toList, ⟨.tls, false⟩),
    ("tls_handshake_failed".toList, ⟨.tls, false⟩),
    ("tls_context_insecure".toList, ⟨.tls, false⟩),
    ("tls_metadata_unavailable".toList, ⟨.tls, false⟩),
    ("tls_certificate_metadata_invalid".toList, ⟨.tls, false⟩),
    ("tls_certificate_metadata_too_large".toList, ⟨.tls, false⟩),
    ("http_protocol_error".toList, ⟨.httpProtocol, false⟩),
    ("connection_failed_mixed".toList, ⟨.mixed, false⟩),
    ("redirect_blocked".toList, ⟨.responsePolicy, false⟩),
    ("response_body_too_large".toList, ⟨.responseLimit, false⟩),
    ("response_headers_too_many".toList, ⟨.responseLimit, false⟩),
    ("response_headers_too_large".toList, ⟨.responseLimit, false⟩),
    ("request_body_too_large".toList, ⟨.requestLimit, false⟩),
    ("forbidden_request_header".toList, ⟨.configuration, false⟩),
    ("content_length_invalid".toList, ⟨.responseFormat, false⟩),
    ("content_length_ambiguous".toList, ⟨.responseFormat, false⟩)]

def analysisPolicies : List (Text × ErrorPolicy) :=
  [("validated_target_mismatch".toList, ⟨.analysis, false⟩),
    ("tls_metadata_missing".toList, ⟨.analysis, false⟩),
    ("tls_metadata_inconsistent".toList, ⟨.analysis, false⟩),
    ("tls_certificate_time_invalid".toList, ⟨.analysis, false⟩),
    ("tls_target_not_https".toList, ⟨.analysis, false⟩)]

def unknownPolicy : ErrorPolicy := ⟨.unknown, false⟩

def requestStage : Text := "request".toList

def analysisStage : Text := "analysis".toList

section

variable [StandardLibrary]

def classifyError (stage code : Text) : ErrorPolicy :=
  let normalisedStage := lower (stripped stage)
  let normalisedCode := lower (stripped code)
  if normalisedStage = requestStage then
    (requestPolicies.lookup normalisedCode).getD unknownPolicy
  else if normalisedStage = analysisStage then
    (analysisPolicies.lookup normalisedCode).getD unknownPolicy
  else unknownPolicy

/-- `is_retryable_error`. -/
def isRetryable (stage code : Text) : Bool := (classifyError stage code).retryable

/-! ## Retryable codes -/

omit [StandardLibrary] in
theorem normalised_codeText (code : RequestErrorCode) :
    stripped (codeText code) = codeText code ∧
      (codeText code).map Char.toLower = codeText code ∧
      (codeText code).all (·.toNat < 128) = true := by
  cases code <;> decide

theorem isRetryable_codeText (code : RequestErrorCode) :
    isRetryable requestStage (codeText code) = isRetryableError code := by
  obtain ⟨hstripped, hlower, hascii⟩ := normalised_codeText code
  have hcode : lower (stripped (codeText code)) = codeText code := by
    rw [hstripped, lower_ascii _ (by simpa using hascii), hlower]
  have hstage : lower (stripped requestStage) = requestStage := by
    have hstripped : stripped requestStage = requestStage := by decide
    have hascii : requestStage.all (·.toNat < 128) = true := by decide
    rw [hstripped, lower_ascii _ (by simpa using hascii)]
    decide
  have htable : ((requestPolicies.lookup (codeText code)).getD unknownPolicy).retryable =
      isRetryableError code := by
    cases code <;> decide
  unfold isRetryable classifyError
  dsimp only
  rw [hcode, hstage, if_pos rfl, htable]

omit [StandardLibrary] in
theorem mem_retryableConnectionCodes {code : RequestErrorCode} :
    code ∈ retryableConnectionCodes ↔ isRetryableError code = true := by
  cases code <;> decide

/-! ## The code of several failures -/

variable {failures : List ConnectionFailure}

omit [StandardLibrary] in
theorem aggregate_cases (hne : failures ≠ []) :
    (∃ code, (∀ failure ∈ failures, failure.code = code) ∧
      aggregateConnectionErrorCode failures = code) ∨
    ((∀ failure ∈ failures, failure.code ∈ retryableConnectionCodes) ∧
      aggregateConnectionErrorCode failures = .connectionFailed) ∨
    ((∃ failure ∈ failures, failure.code ∉ retryableConnectionCodes) ∧
      aggregateConnectionErrorCode failures = .connectionFailedMixed) := by
  have hcodes : ∀ code, code ∈ (failures.map (·.code)).dedup ↔ ∃ failure ∈ failures,
      failure.code = code := by
    intro code
    rw [mem_dedup, mem_map]
  unfold aggregateConnectionErrorCode
  generalize (failures.map (·.code)).dedup = codes at hcodes ⊢
  match codes with
  | [] =>
    obtain ⟨failure, hfailure⟩ := exists_mem_of_ne_nil failures hne
    cases (hcodes failure.code).mpr ⟨failure, hfailure, rfl⟩
  | [code] =>
    exact .inl ⟨code, fun failure hfailure =>
      mem_singleton.mp ((hcodes failure.code).mpr ⟨failure, hfailure, rfl⟩), rfl⟩
  | first :: second :: rest =>
    dsimp only
    by_cases hall : (first :: second :: rest).all retryableConnectionCodes.contains = true
    · rw [hall]
      refine .inr (.inl ⟨fun failure hfailure => ?_, rfl⟩)
      have hcode := (hcodes failure.code).mpr ⟨failure, hfailure, rfl⟩
      simpa using all_eq_true.mp hall _ hcode
    · rw [Bool.eq_false_of_not_eq_true hall]
      refine .inr (.inr ⟨?_, rfl⟩)
      by_contra hnone
      refine hall (all_eq_true.mpr fun code hcode => ?_)
      obtain ⟨failure, hfailure, rfl⟩ := (hcodes code).mp hcode
      by_contra hother
      exact hnone ⟨failure, hfailure, by simpa using hother⟩

omit [StandardLibrary] in
theorem aggregate_isRetryableError (hne : failures ≠ []) :
    isRetryableError (aggregateConnectionErrorCode failures) = true ↔
      ∀ failure ∈ failures, isRetryableError failure.code = true := by
  rcases aggregate_cases hne with ⟨code, hsame, hcode⟩ | ⟨hall, hcode⟩ | ⟨⟨failure, hmem, hnot⟩, hcode⟩
  · rw [hcode]
    obtain ⟨failure, hfailure⟩ := exists_mem_of_ne_nil failures hne
    constructor
    · intro hretry other hother
      rwa [hsame other hother]
    · intro hretry
      rw [← hsame failure hfailure]
      exact hretry failure hfailure
  · rw [hcode]
    exact ⟨fun _ failure hfailure => mem_retryableConnectionCodes.mp (hall failure hfailure),
      fun _ => rfl⟩
  · rw [hcode]
    constructor
    · intro hretry
      cases hretry
    · intro hretry
      exact absurd (mem_retryableConnectionCodes.mpr (hretry failure hmem)) hnot

/-! ## A fetch without an answer -/

/-- `_ConnectionFailure` of an exception. -/
def failureAt (address : Text) (failure : TransportFailure) : ConnectionFailure :=
  ⟨address, connectionErrorCode failure, failure.exceptionName⟩

omit [StandardLibrary] in
theorem tryAddresses_of_failed {Tls : Type} {perform : Text → Except Raised (FetchedResponse Tls)}
    {addresses : List Text} {failures : List TransportFailure}
    (h : List.Forall₂
      (fun address failure => perform address = .error (.client (.transport failure)))
      addresses failures) (earlier : List ConnectionFailure) :
    tryAddresses perform addresses earlier =
      .error (allFailed (earlier ++ zipWith failureAt addresses failures)) := by
  induction h generalizing earlier with
  | nil => rw [tryAddresses, zipWith_nil_left, append_nil]
  | @cons address failure rest others hfirst _ ih =>
    rw [tryAddresses, hfirst]
    dsimp only
    rw [ih, append_assoc, zipWith_cons_cons]
    rfl

/--
**The code of a fetch that no address has answered is retryable exactly if each failure is.**

It holds of every list of failures, and so of those that a fetch collects.
-/
theorem aggregate_retryable_iff {Tls : Type} :
    (∀ failures : List ConnectionFailure, failures ≠ [] →
      (isRetryable requestStage (codeText (aggregateConnectionErrorCode failures)) = true ↔
        ∀ failure ∈ failures, isRetryable requestStage (codeText failure.code) = true)) ∧
    ∀ (perform : Text → Except Raised (FetchedResponse Tls)) (addresses : List Text)
      (failures : List TransportFailure), addresses ≠ [] →
      List.Forall₂ (fun address failure => perform address = .error (.client (.transport failure)))
        addresses failures →
      ∃ code message, tryAddresses perform addresses [] = .error (.safeRequest code message) ∧
        (isRetryable requestStage (codeText code) = true ↔
          ∀ failure ∈ failures,
            isRetryable requestStage (codeText (connectionErrorCode failure)) = true) := by
  have hlist : ∀ failures : List ConnectionFailure, failures ≠ [] →
      (isRetryable requestStage (codeText (aggregateConnectionErrorCode failures)) = true ↔
        ∀ failure ∈ failures, isRetryable requestStage (codeText failure.code) = true) := by
    intro failures hne
    simp only [isRetryable_codeText]
    exact aggregate_isRetryableError hne
  refine ⟨hlist, ?_⟩
  intro perform addresses failures hne hfailed
  have hlength := hfailed.length_eq
  have hcollected : zipWith failureAt addresses failures ≠ [] := by
    rw [← length_pos_iff, length_zipWith, ← hlength, Nat.min_self, length_pos_iff]
    exact hne
  refine ⟨_, _, tryAddresses_of_failed hfailed [], ?_⟩
  rw [nil_append, hlist _ hcollected]
  constructor
  · intro hretry failure hfailure
    obtain ⟨index, hindex, rfl⟩ := getElem_of_mem hfailure
    have haddress : index < addresses.length := hlength ▸ hindex
    have hzip : index < (zipWith failureAt addresses failures).length := by
      rw [length_zipWith]
      omega
    have hat := hretry _ (getElem_mem hzip)
    rw [getElem_zipWith] at hat
    exact hat
  · intro hretry collected hcollected
    obtain ⟨index, hindex, rfl⟩ := getElem_of_mem hcollected
    rw [length_zipWith] at hindex
    rw [getElem_zipWith]
    exact hretry _ (getElem_mem _)

end

/-! ## A sample -/

def refusedThenUntrusted (address : Text) : Except Raised (FetchedResponse Unit) :=
  .error (.client (.transport (if address = "192.0.2.1".toList
    then ⟨.refused, "ConnectionRefusedError"⟩
    else ⟨.certificateVerification, "SSLCertVerificationError"⟩)))

theorem aggregate_retryable_untrusted :
    letI := sampleLibrary
    isRetryable requestStage (codeText (aggregateConnectionErrorCode
      [⟨"192.0.2.1".toList, .connectionRefused, "ConnectionRefusedError"⟩,
        ⟨"192.0.2.2".toList, .connectionTimeout, "TimeoutError"⟩])) = true ∧
    ∃ code message, tryAddresses refusedThenUntrusted ["192.0.2.1".toList, "192.0.2.2".toList] [] =
        .error (.safeRequest code message) ∧
      isRetryable requestStage (codeText code) = false := by
  let _ := sampleLibrary
  obtain ⟨hlist, hfetch⟩ := @aggregate_retryable_iff sampleLibrary Unit
  constructor
  · exact (hlist _ (by simp)).mpr (forall_mem_cons.mpr
      ⟨by decide, forall_mem_singleton.mpr (by decide)⟩)
  · obtain ⟨code, message, hcode, hretry⟩ := hfetch refusedThenUntrusted
      ["192.0.2.1".toList, "192.0.2.2".toList]
      [⟨.refused, "ConnectionRefusedError"⟩,
        ⟨.certificateVerification, "SSLCertVerificationError"⟩] (by simp)
      (.cons (by rfl) (.cons (by rfl) .nil))
    refine ⟨code, message, hcode, ?_⟩
    by_contra hnot
    have hall := hretry.mp (by simpa using hnot)
    exact absurd (hall ⟨.certificateVerification, "SSLCertVerificationError"⟩ (by simp)) (by decide)

end ErrorTaxonomy

end WebGuard
