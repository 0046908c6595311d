import WebGuard.Contracts.PermitDocuments

/-!
# What comes out of the permit loader

The errors of the constructors are turned into errors of the loader, up to one: the rate of a permit
is converted to a float, and an integer that is too large for one overflows. The comparisons at the
end are not guarded at all, so a text that cannot be encoded shows as an error of the contract.
-/

namespace WebGuard.ScanPermits

open PyJson Atomic

/-- Every error of an answer is of some kind. -/
def OnlyRaises {α : Type} (kind : Escape → Prop) (answer : Raises α) : Prop :=
  ∀ e, answer = .error e → kind e

/-- The errors that `except ValueError` turns into one of the loader. -/
def Escape.IsValue (e : Escape) : Prop := e ≠ .recursion ∧ e ≠ .overflow

def Escape.IsLoad (e : Escape) : Prop := ∃ c, e = .load c

variable {e : Escape}

theorem Escape.IsLoad.isValue (h : e.IsLoad) : e.IsValue := by
  obtain ⟨c, rfl⟩ := h
  constructor <;> simp

/-- An answer that `except ValueError` guards. -/
abbrev Caught {α : Type} (answer : Raises α) : Prop := OnlyRaises Escape.IsValue answer

abbrev OnlyLoads {α : Type} (answer : Raises α) : Prop := OnlyRaises Escape.IsLoad answer

section Errors

variable {α β : Type} {kind : Escape → Prop}

theorem onlyRaises_ok (a : α) : OnlyRaises kind (.ok a) := by
  intro e h
  cases h

theorem onlyRaises_error (h : kind e) : OnlyRaises kind (.error e : Raises α) := by
  intro e' he
  cases he
  exact h

variable {x answer : Raises α} {f : α → Raises β}

theorem OnlyRaises.mono {kind' : Escape → Prop} (h : OnlyRaises kind x)
    (hkind : ∀ e, kind e → kind' e) : OnlyRaises kind' x := fun e he => hkind e (h e he)

theorem bind_eq_error : (x >>= f) = .error e ↔ x = .error e ∨ ∃ a, x = .ok a ∧ f a = .error e := by
  cases x with
  | error e' => simp [bind, Except.bind]
  | ok a => simp [bind, Except.bind]

/-- Steps raise what each of them raises. -/
theorem OnlyRaises.bind (hx : OnlyRaises kind x) (hf : ∀ a, OnlyRaises kind (f a)) :
    OnlyRaises kind (x >>= f) := by
  intro e h
  rcases bind_eq_error.mp h with h | ⟨a, -, h⟩
  · exact hx e h
  · exact hf a e h

theorem OnlyRaises.map (h : OnlyRaises kind x) (f : α → β) : OnlyRaises kind (x.map f) := by
  cases x with
  | ok a => exact onlyRaises_ok (f a)
  | error e => exact onlyRaises_error (h e rfl)

theorem onlyLoads_refuseLoad (code message : String) :
    OnlyLoads (refuseLoad (α := α) code message) := onlyRaises_error ⟨_, rfl⟩

theorem caught_refuse (code message : String) : Caught (refuse (α := α) code message) :=
  onlyRaises_error ⟨by simp, by simp⟩

theorem caught_demand (condition : Bool) (code message : String) :
    Caught (demand condition code message) := by
  cases condition
  · exact caught_refuse code message
  · exact onlyRaises_ok ()

/-- Behind a step whose errors are caught, an overflow is one of the next step. -/
theorem Caught.overflow_iff (hx : Caught x) :
    (x >>= f) = .error .overflow ↔ ∃ a, x = .ok a ∧ f a = .error .overflow := by
  rw [bind_eq_error]
  constructor
  · rintro (h | h)
    · exact absurd rfl (hx _ h).2
    · exact h
  · exact Or.inr

theorem asLoadError_eq_ok {a : α} : asLoadError answer = .ok a ↔ answer = .ok a := by
  unfold asLoadError
  split <;> simp [refuseLoad]

/-- The `except` clause lets through what is no `ValueError`. -/
theorem asLoadError_eq_error (h : asLoadError answer = .error e) :
    e.IsLoad ∨ answer = .error e ∧ ¬ e.IsValue := by
  unfold asLoadError at h
  split at h
  · cases h
    exact Or.inl ⟨_, rfl⟩
  · cases h
    exact Or.inl ⟨_, rfl⟩
  · cases e with
    | load c => exact Or.inl ⟨c, rfl⟩
    | validation c => simp_all
    | value => simp_all
    | recursion => exact Or.inr ⟨h, fun hvalue => hvalue.1 rfl⟩
    | overflow => exact Or.inr ⟨h, fun hvalue => hvalue.2 rfl⟩

/-- With it, only the errors of the loader are left. -/
theorem onlyLoads_asLoadError (h : Caught answer) : OnlyLoads (asLoadError answer) := by
  intro e he
  rcases asLoadError_eq_error he with hload | ⟨herror, hvalue⟩
  · exact hload
  · exact absurd (h e herror) hvalue

theorem asLoadError_overflow :
    asLoadError answer = .error .overflow ↔ answer = .error .overflow := by
  unfold asLoadError
  split <;> simp [refuseLoad]

end Errors

section Fields

variable {φ : Type}

variable (value : Json PyText φ) (fieldName : String)

theorem caught_uuidField :
    Caught (uuidField value fieldName) := by
  unfold uuidField
  split
  · split
    · exact onlyRaises_ok _
    · exact onlyRaises_error ⟨by simp, by simp⟩
  · exact caught_refuse _ _

theorem caught_optionalUuidField :
    Caught (optionalUuidField value fieldName) := by
  unfold optionalUuidField
  split
  · exact onlyRaises_ok _
  · exact (caught_uuidField _ _).map some

theorem caught_sha256Field :
    Caught (sha256Field value fieldName) := by
  unfold sha256Field
  split
  · split
    · exact onlyRaises_ok _
    · exact caught_refuse _ _
  · exact caught_refuse _ _

theorem caught_targetField [UrlParse.StandardLibrary] [NetworkLibrary] (value : Json PyText φ) :
    Caught (targetField value) := by
  unfold targetField
  split
  · split
    · exact onlyRaises_ok _
    · exact onlyRaises_error ⟨by simp, by simp⟩
  · exact caught_refuse _ _

theorem caught_positiveInteger (maximum : Int) :
    Caught (positiveInteger value fieldName maximum) := by
  unfold positiveInteger
  split
  · split
    · exact onlyRaises_ok _
    · exact caught_refuse _ _
  · exact caught_refuse _ _

theorem caught_modesField (value : List ScanJobMode) : Caught (modesField value) :=
  (caught_demand _ _ _).bind fun _ => (caught_demand _ _ _).bind fun _ => onlyRaises_ok _

theorem caught_methodsField [UnicodeTables] (value : List (Json PyText φ)) :
    Caught (methodsField value) := by
  refine (caught_demand _ _ _).bind fun _ => ?_
  split
  · exact caught_refuse _ _
  · exact (caught_demand _ _ _).bind fun _ => (caught_demand _ _ _).bind fun _ =>
      (caught_demand _ _ _).bind fun _ => onlyRaises_ok _

theorem caught_activeChecksField (value : List (Json PyText φ)) :
    Caught (activeChecksField value) := by
  unfold activeChecksField
  split
  · exact caught_refuse _ _
  · exact (caught_demand _ _ _).bind fun _ => (caught_demand _ _ _).bind fun _ => onlyRaises_ok _

theorem caught_prohibitedField (value : List (Json PyText φ)) : Caught (prohibitedField value) :=
  (caught_demand _ _ _).bind fun _ => onlyRaises_ok _

theorem caught_windowCheck (issuedAt notBefore expiresAt : Nat) :
    Caught (windowCheck issuedAt notBefore expiresAt) :=
  (caught_demand _ _ _).bind fun _ => (caught_demand _ _ _).bind fun _ => caught_demand _ _ _

theorem caught_signedPermit (claims : Claims φ)
    (permitType schemaVersion algorithm keyId signature : Json PyText φ) :
    Caught (signedPermit claims permitType schemaVersion algorithm keyId signature) := by
  have horRefuse : ∀ {α : Type} (value : Option α) (code message : String),
      Caught (orRefuse value code message) := by
    intro α value code message
    cases value
    · exact caught_refuse _ _
    · exact onlyRaises_ok _
  exact (horRefuse _ _ _).bind fun _ => (horRefuse _ _ _).bind fun _ =>
    (horRefuse _ _ _).bind fun _ => (horRefuse _ _ _).bind fun _ =>
    (horRefuse _ _ _).bind fun _ => onlyRaises_ok _

theorem caught_afterRate (raw : ClaimsInput φ) (finish : Int → List PyText → List PyText →
    Option PyText → Option PyText → Claims φ) :
    Caught (do
      let maximumConcurrency ← positiveInteger raw.maximumConcurrency "maximum_concurrency"
        ScanPermits.maximumConcurrency
      let prohibitedOperations ← prohibitedField raw.prohibitedOperations
      let activeChecks ← activeChecksField raw.activeChecks
      let authenticationContextId ← optionalUuidField raw.authenticationContextId
        "authentication_context_id"
      let authorizationComparisonPlanId ← optionalUuidField raw.authorizationComparisonPlanId
        "authorization_comparison_plan_id"
      return finish maximumConcurrency prohibitedOperations activeChecks authenticationContextId
        authorizationComparisonPlanId) :=
  (caught_positiveInteger _ _ _).bind fun _ => (caught_prohibitedField _).bind fun _ =>
    (caught_activeChecksField _).bind fun _ => (caught_optionalUuidField _ _).bind fun _ =>
    (caught_optionalUuidField _ _).bind fun _ => onlyRaises_ok _

/-! ## The rate -/

variable [PyFloat φ]

/-- An integer that is too large for a float. -/
def TooLarge (value : Json PyText φ) : Prop := ∃ n, value = .int n ∧ PyFloat.ofInt (φ := φ) n = none

/-- The one overflow: an integer that no double can hold. -/
theorem requestsPerSecond_overflow {value : Json PyText φ} :
    requestsPerSecond value = .error .overflow ↔ TooLarge value := by
  have hchecked : ∀ rate : φ, (if rateInRange rate then Except.ok rate
      else refuse (α := φ) "trustscan_permit_rate_invalid"
        "maximum_requests_per_second must be from 0.2 to 2.0.") ≠ .error .overflow := by
    intro rate
    split <;> simp [refuse]
  unfold requestsPerSecond TooLarge
  cases value with
  | int n =>
    cases h : PyFloat.ofInt (φ := φ) n with
    | none => simp [h]
    | some rate => simpa [h] using hchecked rate
  | float rate => simpa using hchecked rate
  | _ => simp [refuse]

theorem onlyRaises_requestsPerSecond (value : Json PyText φ) :
    OnlyRaises (· ≠ .recursion) (requestsPerSecond value) := by
  have hrefuse : ∀ code message,
      OnlyRaises (· ≠ .recursion) (refuse (α := φ) code message) :=
    fun code message => (caught_refuse code message).mono fun _ h => h.1
  unfold requestsPerSecond
  dsimp only
  split
  · split
    · exact onlyRaises_error (by simp)
    · split
      · exact onlyRaises_ok _
      · exact hrefuse _ _
  · split
    · exact onlyRaises_ok _
    · exact hrefuse _ _
  · exact hrefuse _ _

variable [UrlParse.StandardLibrary] [NetworkLibrary] [UnicodeTables]

/-- The checks of the constructor that come before the one of the rate pass. -/
structure ReachesRate (raw : ClaimsInput φ) : Prop where
  permitId : ∃ a, uuidField raw.permitId "permit_id" = .ok a
  organizationId : ∃ a, uuidField raw.organizationId "organization_id" = .ok a
  authorizationId : ∃ a, uuidField raw.authorizationId "authorization_id" = .ok a
  authorizationSha256 : ∃ a, sha256Field raw.authorizationSha256 "authorization_sha256" = .ok a
  target : ∃ a, targetField raw.target = .ok a
  issuedBy : ∃ a, uuidField raw.issuedBy "issued_by" = .ok a
  window : windowCheck raw.issuedAt raw.notBefore raw.expiresAt = .ok ()
  permittedModes : ∃ a, modesField raw.permittedModes = .ok a
  allowedHttpMethods : ∃ a, methodsField raw.allowedHttpMethods = .ok a
  maximumRequestAttempts : ∃ a, positiveInteger raw.maximumRequestAttempts
    "maximum_request_attempts" ScanPermits.maximumRequestAttempts = .ok a

/-- It escapes exactly if the checks before the rate pass. -/
theorem postInit_overflow {raw : ClaimsInput φ} :
    raw.postInit = .error .overflow
      ↔ ReachesRate raw ∧ TooLarge raw.maximumRequestsPerSecond := by
  constructor
  · intro h
    obtain ⟨_, hpermit, h⟩ := (caught_uuidField _ _).overflow_iff.mp h
    obtain ⟨_, horganization, h⟩ := (caught_uuidField _ _).overflow_iff.mp h
    obtain ⟨_, hauthorization, h⟩ := (caught_uuidField _ _).overflow_iff.mp h
    obtain ⟨_, hsha, h⟩ := (caught_sha256Field _ _).overflow_iff.mp h
    obtain ⟨_, htarget, h⟩ := (caught_targetField _).overflow_iff.mp h
    obtain ⟨_, hissued, h⟩ := (caught_uuidField _ _).overflow_iff.mp h
    obtain ⟨_, hwindow, h⟩ := (caught_windowCheck _ _ _).overflow_iff.mp h
    obtain ⟨_, hmodes, h⟩ := (caught_modesField _).overflow_iff.mp h
    obtain ⟨_, hmethods, h⟩ := (caught_methodsField _).overflow_iff.mp h
    obtain ⟨_, hattempts, h⟩ := (caught_positiveInteger _ _ _).overflow_iff.mp h
    refine ⟨⟨⟨_, hpermit⟩, ⟨_, horganization⟩, ⟨_, hauthorization⟩, ⟨_, hsha⟩, ⟨_, htarget⟩,
      ⟨_, hissued⟩, hwindow, ⟨_, hmodes⟩, ⟨_, hmethods⟩, ⟨_, hattempts⟩⟩, ?_⟩
    rcases bind_eq_error.mp h with hrate | ⟨_, -, h⟩
    · exact requestsPerSecond_overflow.mp hrate
    · exact absurd rfl (caught_afterRate raw _ _ h).2
  · rintro ⟨⟨⟨_, hpermit⟩, ⟨_, horganization⟩, ⟨_, hauthorization⟩, ⟨_, hsha⟩, ⟨_, htarget⟩,
      ⟨_, hissued⟩, hwindow, ⟨_, hmodes⟩, ⟨_, hmethods⟩, ⟨_, hattempts⟩⟩, hrate⟩
    unfold ClaimsInput.postInit
    rw [hpermit, horganization, hauthorization, hsha, htarget, hissued, hwindow, hmodes, hmethods,
      hattempts, requestsPerSecond_overflow.mpr hrate]
    rfl

theorem onlyRaises_postInit (raw : ClaimsInput φ) : OnlyRaises (· ≠ .recursion) raw.postInit := by
  have hcaught : ∀ {α : Type} {answer : Raises α},
      Caught answer → OnlyRaises (· ≠ .recursion) answer :=
    fun h => h.mono fun _ he => he.1
  refine (hcaught (caught_uuidField _ _)).bind fun _ => ?_
  refine (hcaught (caught_uuidField _ _)).bind fun _ => ?_
  refine (hcaught (caught_uuidField _ _)).bind fun _ => ?_
  refine (hcaught (caught_sha256Field _ _)).bind fun _ => ?_
  refine (hcaught (caught_targetField _)).bind fun _ => ?_
  refine (hcaught (caught_uuidField _ _)).bind fun _ => ?_
  refine (hcaught (caught_windowCheck _ _ _)).bind fun _ => ?_
  refine (hcaught (caught_modesField _)).bind fun _ => ?_
  refine (hcaught (caught_methodsField _)).bind fun _ => ?_
  refine (hcaught (caught_positiveInteger _ _ _)).bind fun _ => ?_
  exact (onlyRaises_requestsPerSecond _).bind fun _ => hcaught (caught_afterRate raw _)

end Fields

/-! ## The fields of a document -/

section Documents

variable {φ : Type}

theorem OnlyLoads.caught {α : Type} {answer : Raises α} (h : OnlyLoads answer) : Caught answer :=
  h.mono fun _ => Escape.IsLoad.isValue

theorem onlyLoads_strictMapping [UnicodeTables] (value : Json PyText φ) (required : List PyText)
    (context : String) : OnlyLoads (strictMapping value required context) := by
  unfold strictMapping
  split
  · dsimp only
    split
    · exact onlyLoads_refuseLoad _ _
    · exact onlyLoads_refuseLoad _ _
    · exact onlyRaises_ok _
  · exact onlyLoads_refuseLoad _ _

theorem onlyLoads_listField (value : Json PyText φ) : OnlyLoads (listField value) := by
  unfold listField
  split
  · exact onlyRaises_ok _
  · exact onlyLoads_refuseLoad _ _

theorem onlyLoads_parseTimestamp [IsoReader] (value : Json PyText φ) (fieldName : String) :
    OnlyLoads (parseTimestamp value fieldName) := by
  unfold parseTimestamp
  split
  · split
    · exact onlyRaises_ok _
    · exact onlyLoads_refuseLoad _ _
    · exact onlyLoads_refuseLoad _ _
    · exact onlyLoads_refuseLoad _ _
  · exact onlyLoads_refuseLoad _ _

theorem caught_modeOf (value : Json PyText φ) : Caught (modeOf value) := by
  have hvalue : Caught (Except.error Escape.value : Raises ScanJobMode) :=
    onlyRaises_error ⟨by simp, by simp⟩
  unfold modeOf
  split
  · split
    · exact onlyRaises_ok _
    · split
      · exact onlyRaises_ok _
      · exact hvalue
  · exact hvalue

theorem caught_mapM_modeOf (values : List (Json PyText φ)) : Caught (values.mapM modeOf) := by
  induction values with
  | nil => exact onlyRaises_ok _
  | cons value rest ih =>
    rw [List.mapM_cons]
    exact (caught_modeOf value).bind fun _ => ih.bind fun _ => onlyRaises_ok _

theorem caught_claimsInput [IsoReader] (claims : List (PyText × Json PyText φ))
    (modes methods prohibited checks : List (Json PyText φ)) :
    Caught (claimsInput claims modes methods prohibited checks) :=
  (onlyLoads_parseTimestamp _ _).caught.bind fun _ =>
    (onlyLoads_parseTimestamp _ _).caught.bind fun _ =>
    (onlyLoads_parseTimestamp _ _).caught.bind fun _ => (caught_mapM_modeOf _).bind fun _ =>
    onlyRaises_ok _

variable [PyFloat φ] [UrlParse.StandardLibrary] [NetworkLibrary] [UnicodeTables] [IsoReader]

/-- The arguments that a document gives to the constructor of the claims. -/
structure Reads (document : Json PyText φ) (input : ClaimsInput φ) : Prop where
  exists_fields : ∃ root claims signature modes methods prohibited checks,
    strictMapping document rootKeys "TrustScan permit" = .ok root
      ∧ strictMapping (member "claims" root) claimKeys "TrustScan permit claims" = .ok claims
      ∧ strictMapping (member "signature" root) signatureKeys "TrustScan permit signature"
        = .ok signature
      ∧ listField (member "permitted_modes" claims) = .ok modes
      ∧ listField (member "allowed_http_methods" claims) = .ok methods
      ∧ listField (member "prohibited_operations" claims) = .ok prohibited
      ∧ listField (member "active_checks" claims) = .ok checks
      ∧ claimsInput claims modes methods prohibited checks = .ok input

/-- A document whose rate is an integer that is too large for a float, when nothing before it is
refused. -/
def RateOverflows (document : Json PyText φ) : Prop :=
  ∃ input, Reads document input ∧ ReachesRate input ∧ TooLarge input.maximumRequestsPerSecond

variable {document : Json PyText φ}

/-- The document overflows exactly if its claims do. -/
theorem buildPermit_overflow :
    buildPermit document = .error .overflow ↔ RateOverflows document := by
  constructor
  · intro h
    obtain ⟨root, hroot, h⟩ := (onlyLoads_strictMapping _ _ _).caught.overflow_iff.mp h
    obtain ⟨claims, hclaims, h⟩ := (onlyLoads_strictMapping _ _ _).caught.overflow_iff.mp h
    obtain ⟨signature, hsignature, h⟩ := (onlyLoads_strictMapping _ _ _).caught.overflow_iff.mp h
    obtain ⟨modes, hmodes, h⟩ := (onlyLoads_listField _).caught.overflow_iff.mp h
    obtain ⟨methods, hmethods, h⟩ := (onlyLoads_listField _).caught.overflow_iff.mp h
    obtain ⟨prohibited, hprohibited, h⟩ := (onlyLoads_listField _).caught.overflow_iff.mp h
    obtain ⟨checks, hchecks, h⟩ := (onlyLoads_listField _).caught.overflow_iff.mp h
    rcases bind_eq_error.mp h with h | ⟨permit, -, h⟩
    · obtain ⟨input, hinput, h⟩ :=
        (caught_claimsInput _ _ _ _ _).overflow_iff.mp (asLoadError_overflow.mp h)
      refine ⟨input, ⟨root, claims, signature, modes, methods, prohibited, checks, hroot, hclaims,
        hsignature, hmodes, hmethods, hprohibited, hchecks, hinput⟩, ?_⟩
      rcases bind_eq_error.mp h with h | ⟨_, -, h⟩
      · exact postInit_overflow.mp h
      · exact absurd rfl (caught_signedPermit _ _ _ _ _ _ _ h).2
    · have hloads := (onlyLoads_asLoadError (caught_sha256Field (member "permit_sha256" root)
        "permit_sha256")).bind fun supplied => onlyRaises_ok (permit, supplied)
      exact absurd rfl (hloads _ h).isValue.2
  · rintro ⟨input, ⟨root, claims, signature, modes, methods, prohibited, checks, hroot, hclaims,
      hsignature, hmodes, hmethods, hprohibited, hchecks, hinput⟩, hrate⟩
    have herror : ∀ {α β : Type} (e : Escape) (next : α → Raises β),
        (Except.error e >>= next) = .error e := fun _ _ => rfl
    unfold buildPermit
    rw [hroot, ok_bind, hclaims, ok_bind, hsignature, ok_bind, hmodes, ok_bind, hmethods, ok_bind,
      hprohibited, ok_bind, hchecks, ok_bind, hinput, ok_bind, postInit_overflow.mpr hrate, herror,
      asLoadError_overflow.mpr rfl, herror]

/-- Anything else that is raised is an error of the loader. -/
theorem buildPermit_eq_error (h : buildPermit document = .error e) :
    e.IsLoad ∨ RateOverflows document := by
  have hkind : ∀ e' : Escape, e'.IsLoad → e'.IsLoad ∨ e' = .overflow := fun _ => Or.inl
  have hbuild : OnlyRaises (fun e => e.IsLoad ∨ e = .overflow) (buildPermit document) := by
    refine ((onlyLoads_strictMapping _ _ _).mono hkind).bind fun _ => ?_
    refine ((onlyLoads_strictMapping _ _ _).mono hkind).bind fun _ => ?_
    refine ((onlyLoads_strictMapping _ _ _).mono hkind).bind fun _ => ?_
    refine ((onlyLoads_listField _).mono hkind).bind fun _ => ?_
    refine ((onlyLoads_listField _).mono hkind).bind fun _ => ?_
    refine ((onlyLoads_listField _).mono hkind).bind fun _ => ?_
    refine ((onlyLoads_listField _).mono hkind).bind fun _ => ?_
    refine OnlyRaises.bind ?_ fun _ => ((onlyLoads_asLoadError (caught_sha256Field _ _)).bind
      fun _ => onlyRaises_ok _).mono hkind
    intro e he
    rcases asLoadError_eq_error he with hload | ⟨herror, hvalue⟩
    · exact Or.inl hload
    · have hrecursion := ((caught_claimsInput _ _ _ _ _).mono fun _ h => h.1).bind
        (fun input => (onlyRaises_postInit input).bind fun _ =>
          (caught_signedPermit _ _ _ _ _ _).mono fun _ h => h.1) e herror
      exact Or.inr (by_contra fun hoverflow => hvalue ⟨hrecursion, hoverflow⟩)
  rcases hbuild e h with hload | rfl
  · exact Or.inl hload
  · exact Or.inr (buildPermit_overflow.mp h)

end Documents

end WebGuard.ScanPermits
