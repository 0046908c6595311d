import WebGuard.Detection.SiteDiscovery

/-!
# Requests for what was discovered

`build_request_template` and `to_request_templates` of `request_template.py`, and
`to_detection_candidates` of `attack_surface.py`: which candidates become a request, and which.

A template has its endpoint as characters.
-/

namespace WebGuard.AttackSurface

open PyJson UrlParse
open RequestTemplates (RequestTemplate MutationFailure refuseTemplate ContentType.none
  ContentType.formUrlencoded ContentType.json)

variable [StandardLibrary]

/-! ## Templates -/

namespace AttackSurfaceCandidate

variable (candidate : AttackSurfaceCandidate)

/-- A GET candidate whose parameter is in the query. -/
def isQuery : Bool :=
  (candidate.inputLocation = .query || candidate.inputLocation = .form)
    && candidate.method = ofString "GET"

/-- The template with the fields that each kind of candidate has. -/
def template (contentType : PyText) : RequestTemplate where
  endpoint := characters candidate.endpoint
  method := candidate.method
  contentType := contentType
  parameter := candidate.parameter
  queryParameters := []
  formParameters := []
  jsonBody := []
  sourceCandidateId := candidate.candidateId

/-- The template of a GET candidate. -/
def queryTemplate : RequestTemplate :=
  { candidate.template ContentType.none with
    method := ofString "GET"
    queryParameters := [(candidate.parameter, candidate.baselineValue)] }

/-- The template of a form that is posted. -/
def formTemplate : RequestTemplate :=
  { candidate.template ContentType.formUrlencoded with
    formParameters := [(candidate.parameter, candidate.baselineValue)] }

/-- The template of a JSON body. -/
def jsonTemplate : RequestTemplate :=
  { candidate.template ContentType.json with jsonBody := candidate.jsonBodyTemplate }

def buildRequestTemplate [UnicodeTables] : Except MutationFailure RequestTemplate :=
  if candidate.isQuery then candidate.queryTemplate.postInit
  else
    match candidate.inputLocation with
    | .form => candidate.formTemplate.postInit
    | .jsonBody => candidate.jsonTemplate.postInit
    | location => refuseTemplate "request_template_unsupported_candidate"
        ("Cannot build a request template for input location " ++ location.repr ++ " and method "
          ++ UnicodeTables.quoted candidate.method ++ ".")

/-- Whether `to_request_templates` builds a template of a candidate. -/
def isProjected (allowPost allowJson : Bool) : Bool :=
  match candidate.safety with
  | .safeToProbe => candidate.method = ofString "GET"
  | .requiresExplicitActiveAuthorization =>
    (allowPost && candidate.method = ofString "POST" && candidate.inputLocation = .form)
      || (allowJson && candidate.inputLocation = .jsonBody)
  | _ => false

end AttackSurfaceCandidate

section

variable [UnicodeTables] (allowPost allowJson : Bool)

def toRequestTemplates : List AttackSurfaceCandidate → Except MutationFailure (List RequestTemplate)
  | [] => .ok []
  | candidate :: rest =>
    if candidate.isProjected allowPost allowJson then
      match candidate.buildRequestTemplate with
      | .error failure => .error failure
      | .ok template => (toRequestTemplates rest).map (template :: ·)
    else toRequestTemplates rest

end

/-! ## Detection candidates -/

/-- `DetectionCandidate`, whose method is GET. -/
structure DetectionCandidate where
  url : PyText
  parameter : PyText
  originalValue : PyText
  deriving DecidableEq

/-- `DetectionCandidate(...)`. -/
def DetectionCandidate.postInit (candidate : DetectionCandidate) :
    Except ActiveDetection.Failure DetectionCandidate :=
  if (stripText candidate.url).isEmpty then
    .error (.detection "candidate_url_invalid"
      "A detection candidate requires a non-empty url.")
  else if (stripText candidate.parameter).isEmpty then
    .error (.detection "candidate_parameter_invalid"
      "A detection candidate requires a non-empty parameter name.")
  else .ok candidate

/-- Whether `to_detection_candidates` takes a candidate. -/
def AttackSurfaceCandidate.isEligible (candidate : AttackSurfaceCandidate) : Bool :=
  candidate.safety = .safeToProbe && candidate.isQuery && !candidate.parameter.isEmpty

def toDetectionCandidates : List AttackSurfaceCandidate →
    Except ActiveDetection.Failure (List DetectionCandidate)
  | [] => .ok []
  | candidate :: rest =>
    if candidate.isEligible then
      match DetectionCandidate.postInit
          ⟨candidate.endpoint, candidate.parameter, candidate.baselineValue⟩ with
      | .error failure => .error failure
      | .ok detection => (toDetectionCandidates rest).map (detection :: ·)
    else toDetectionCandidates rest

end WebGuard.AttackSurface
