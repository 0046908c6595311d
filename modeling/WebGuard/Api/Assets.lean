import WebGuard.Api.Listings
import WebGuard.Contracts.FindingLoader
import WebGuard.Identity.Service
import WebGuard.Lib.Tally

/-!
# Assets and what was found on them

An asset is a target that an organization has registered. Its page counts the findings that the
repository lists for it, by severity: the filter is the URL as `create_asset` has stored it. What is
compared with it is the asset of a finding, which the executor stores with the finding
(`record_finding`) as its identity has it.

The audit log, and what else the page shows (verification, authorization, last scan), are left out.
-/

namespace WebGuard.Assets

open PyJson UrlParse StandardLibrary Listings
open FindingContract (NormalizedFinding FindingIdentity LowerTable)

/-! ## Targets -/

inductive AssetFault where
  /-- `ApiServiceError`. -/
  | api (code message : String) (status : Nat)
  /-- `default_mode not in _ASSET_MODES` of a value without a hash. -/
  | typeError
deriving DecidableEq

/-- A member of a request body; `None` is one that is absent. -/
inductive BodyField where
  | absent
  | text (value : String)
  | other (hashable : Bool)

/-- The members that `create_asset` reads. -/
structure AssetBody where
  url : BodyField
  label : BodyField
  defaultMode : BodyField

def assetModes : List String := ["crawl", "single_page"]

/-- A label, or `None`. -/
def labelField (field : BodyField) (message : String) : Except AssetFault (Option String) :=
  match field with
  | .absent => .ok none
  | .text value => .ok (some value)
  | .other _ => .error (.api "asset_label_invalid" message 400)

/-- A mode, or `None`. -/
def defaultModeField (field : BodyField) (message : String) :
    Except AssetFault (Option String) :=
  let refused := Except.error (.api "asset_default_mode_invalid" message 400)
  match field with
  | .absent => .ok none
  | .text value => if value ∈ assetModes then .ok (some value) else refused
  | .other false => .error .typeError
  | .other true => refused

section

variable [StandardLibrary]

/-- `_canonicalize_asset_url`; `reason` is the message of a `ValueError` of `urlsplit`. -/
def canonicalizeAssetUrl (reason : Text → String) (url : Text) : Except String Text :=
  match urlsplit url with
  | none => .error (reason url)
  | some parsed =>
    if parsed.scheme.isEmpty || parsed.hostname.isNone then
      .error "url must be an absolute URL with a scheme and hostname."
    else .ok (urlunsplit
      { parsed with path := if parsed.path.isEmpty then ['/'] else parsed.path })

/-- What `create_asset` makes of a body: the canonical URL, the label and the mode. -/
def assetFields (reason : Text → String) (body : Option AssetBody) :
    Except AssetFault (String × Option String × Option String) := do
  let refused := Except.error
    (.api "asset_body_invalid" "Request body must include a non-empty url field." 400)
  match body with
  | none => refused
  | some { url := .text url, label, defaultMode } =>
    let url := stripped url.toList
    if url.isEmpty then refused
    else
      let label ← labelField label "label must be a string."
      let defaultMode ← defaultModeField defaultMode
        "default_mode must be one of: crawl, single_page."
      match canonicalizeAssetUrl reason url with
      | .error message => .error (.api "asset_url_invalid" message 400)
      | .ok canonicalUrl => .ok (String.ofList canonicalUrl, label, defaultMode)
  | some _ => refused

/-- `create_target`: the row, unless the URL or the identifier is taken. -/
def createTarget (targets : List TargetRecord) (record : TargetRecord) :
    Except AssetFault (List TargetRecord) :=
  if targets.any fun t => t.targetId = record.targetId
      || (t.organizationId = record.organizationId && t.url = record.url) then
    .error (.api "target_conflict"
      "A target with that URL already exists for this organization." 409)
  else .ok (targets ++ [record])

/-- `create_asset`, with the identifier that it draws. -/
def createAsset (reason : Text → String) (context : AuthContext) (body : Option AssetBody)
    (targetId : String) (now : Nat) (targets : List TargetRecord) :
    Except AssetFault (List TargetRecord) := do
  if context.role.permits .assetManage then
    let (url, label, defaultMode) ← assetFields reason body
    createTarget targets
      { targetId, organizationId := context.organizationId, url, createdBy := context.principalId,
        createdAt := now, label, archivedAt := none, defaultMode }
  else .error (.api "permission_denied"
    "The authenticated principal is not permitted to perform this action." 403)

end

/-- The rows of `WHERE target_id = … AND organization_id = …`, changed. -/
def changeTarget (targetId organizationId : String) (change : TargetRecord → TargetRecord)
    (targets : List TargetRecord) : List TargetRecord :=
  targets.map fun t =>
    if t.targetId = targetId ∧ t.organizationId = organizationId then change t else t

/-- `update_target`; a column without a value is not assigned. -/
def updateTarget (targetId organizationId : String) (label defaultMode : Option (Option String)) :
    List TargetRecord → List TargetRecord :=
  changeTarget targetId organizationId fun t =>
    { t with label := label.getD t.label, defaultMode := defaultMode.getD t.defaultMode }

def archiveTarget (targetId organizationId : String) (now : Nat) :
    List TargetRecord → List TargetRecord :=
  changeTarget targetId organizationId fun t => { t with archivedAt := t.archivedAt.or (some now) }

/-! ## Findings -/

def engineVersion : String := "0.1.0"

/-- The text of code points that were encoded in UTF-8, with the report, before. -/
def storedText (text : PyText) : String := String.ofList (characters text)

/-- `next((i.value for i in identifiers if i.namespace == …), None)`. -/
def identifierValue (finding : NormalizedFinding) (nameSpace : String) : Option String :=
  (finding.identifiers.find? (·.nameSpace = ofString nameSpace)).map fun i => storedText i.value

/-- `"; ".join(item.summary for item in finding.evidence) or None`. -/
def evidenceText (finding : NormalizedFinding) : Option String :=
  some ("; ".intercalate (finding.evidence.map fun item => storedText item.summary))
    |>.filter (· ≠ "")

/-- The scan that records its findings, and the identifiers that `record_finding` draws. -/
structure Recording where
  organizationId : String
  scanId : String
  findingId : String
  eventId : String
  now : Nat

/-- The call of `record_finding` for a finding of the report. -/
def recordCall (φ : Type) [PyFloat φ] (digest : List Char → PyText) (recording : Recording)
    (finding : NormalizedFinding) : Detection where
  findingId := recording.findingId
  eventId := recording.eventId
  organizationId := recording.organizationId
  scanId := recording.scanId
  fingerprint := storedText (finding.identity.fingerprint φ digest)
  checkId := storedText finding.identity.ruleId
  scannerVersion := engineVersion
  title := storedText finding.title
  severity := storedText finding.severity.value
  confidence := storedText finding.confidence.value
  asset := storedText finding.identity.asset
  endpoint := storedText finding.identity.path
  httpMethod := storedText finding.identity.method
  now := recording.now
  parameter := finding.identity.parameter.map storedText
  checkVersion := none
  cweId := identifierValue finding "CWE"
  owaspCategory := identifierValue finding "OWASP"
  evidence := evidenceText finding
  remediation := some (storedText finding.remediation)
  references := finding.references.map storedText

section

variable [LowerTable] [StandardLibrary] [UnicodeTables]

/-- A finding of a report. -/
structure ScanFinding where
  finding : NormalizedFinding
  raw : FindingIdentity
  /-- Its identity went through the constructor. -/
  accepted : raw.postInit = .ok finding.identity

/-! ## The service -/

/-- The targets, and the tables of the findings. -/
structure AssetDesk (T : Type) where
  targets : List TargetRecord
  desk : FindingDesk T

inductive AssetCall (T : Type) where
  | create (context : AuthContext) (body : Option AssetBody) (targetId : String) (now : Nat)
  | update (targetId organizationId : String) (label defaultMode : Option (Option String))
  | archive (targetId organizationId : String) (now : Nat)
  /-- The executor records a finding. -/
  | record (t : T) (recording : Recording) (finding : ScanFinding)
  /-- A member of the organization decides about a finding. -/
  | triage (t : T) (c : Triage)
  | turn (t : T)
  | abort (t : T)

namespace AssetDesk

variable {T : Type} [DecidableEq T]

def empty : AssetDesk T := ⟨[], .empty⟩

/-- The rows of `findings`. -/
def findings (s : AssetDesk T) : List FindingRecord := s.desk.db.keys.filterMap s.desk.db.committed

variable (φ : Type) [PyFloat φ] (digest : List Char → PyText) (reason : Text → String)

/-- What is stored after a call, whether it answered or raised. -/
def step (s : AssetDesk T) : AssetCall T → AssetDesk T
  | .create context body targetId now =>
    match createAsset reason context body targetId now s.targets with
    | .ok targets => { s with targets }
    | .error _ => s
  | .update targetId organizationId label defaultMode =>
    { s with targets := updateTarget targetId organizationId label defaultMode s.targets }
  | .archive targetId organizationId now =>
    { s with targets := archiveTarget targetId organizationId now s.targets }
  | .record t recording f =>
    { s with desk := s.desk.step (.record t (recordCall φ digest recording f.finding)) }
  | .triage t c => { s with desk := s.desk.step (.update t c) }
  | .turn t => { s with desk := s.desk.step (.turn t) }
  | .abort t => { s with desk := s.desk.step (.abort t) }

/-- The service after some calls. -/
abbrev run (s : AssetDesk T) (calls : List (AssetCall T)) : AssetDesk T :=
  Runs.run (step φ digest reason) s calls

end AssetDesk

end

/-! ## The page of an asset -/

section

variable [PostgresInput]

/-- `finding_counts` and `finding_count_is_capped` of `_asset_public_dict`. -/
def findingSummary (backend : Backend) (rows : List FindingRecord) (organizationId : String)
    (target : TargetRecord) : Except ListFault (List (String × Nat) × Bool) := do
  let (findings, _) ← listFindingsScopedPage backend rows organizationId
    { asset := some target.url } 100 none
  return (Tally.count (findings.map FindingRecord.severity), decide (100 ≤ findings.length))

end

end WebGuard.Assets
