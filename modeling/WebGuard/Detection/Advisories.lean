import WebGuard.Contracts.Findings

/-!
# What active detectors say

The texts of `xss_reflected_detector.py`, `sqli_error_detector.py` and
`idor_authorization_detector.py`: what each detector says with an outcome that it reports.
-/

namespace WebGuard.ActiveDetection

open PyJson FindingContract

/-- What a detector says with an outcome, wherever it says it. -/
structure Advisory where
  ruleId : PyText
  title : PyText
  description : PyText
  severity : Severity
  confidence : Confidence
  remediation : PyText
  sourceRuleId : PyText
  identifiers : List ExternalIdentifier
  references : List PyText
  tags : List PyText
  deriving DecidableEq

/-! ## Reflected cross-site scripting -/

/-- The outcomes that are reported. -/
inductive XssOutcome where
  | confirmed
  | probable
  | suspected
  | informational
  deriving DecidableEq

def XssOutcome.value : XssOutcome → String
  | .confirmed => "confirmed"
  | .probable => "probable"
  | .suspected => "suspected"
  | .informational => "informational"

def XssOutcome.severity : XssOutcome → Severity
  | .confirmed => .high
  | .probable => .high
  | .suspected => .medium
  | .informational => .informational

def XssOutcome.confidence : XssOutcome → Confidence
  | .confirmed => .confirmed
  | .probable => .high
  | .suspected => .medium
  | .informational => .confirmed

def XssOutcome.title : XssOutcome → String
  | .confirmed => "Reflected Cross-Site Scripting (confirmed unescaped reflection)"
  | .probable => "Reflected Cross-Site Scripting (probable unescaped reflection)"
  | .suspected => "Parameter value reflected without full encoding confirmation"
  | .informational => "Parameter value is reflected but HTML-encoded"

def XssOutcome.description : XssOutcome → String
  | .confirmed =>
    "A unique marker value containing angle brackets was submitted as this parameter and "
    ++ "returned verbatim in the response body with both angle brackets intact, forming a "
    ++ "complete, unescaped tag boundary. A browser rendering this response would parse the "
    ++ "injected value as HTML, which means an attacker-supplied <script> or event-handler "
    ++ "payload would also be parsed and potentially executed."
  | .probable =>
    "A unique marker value containing angle brackets was submitted as this parameter and "
    ++ "returned in the response body with one of its two angle brackets unescaped. This "
    ++ "demonstrates unescaped reflection of attacker-controlled input, though a complete tag "
    ++ "boundary was not observed from this single probe."
  | .suspected =>
    "A unique marker value was submitted as this parameter and its text was observed in the "
    ++ "response body, but neither angle bracket survived unescaped in this probe. Reflection of "
    ++ "attacker-controlled input is present; unescaped HTML injection was not demonstrated from "
    ++ "this probe alone."
  | .informational =>
    "A unique marker value containing angle brackets was submitted as this parameter and "
    ++ "returned in the response body fully HTML-entity-encoded. The parameter is reflected, but "
    ++ "the observed encoding would prevent this specific probe from executing as HTML."

def XssOutcome.upper : XssOutcome → String
  | .confirmed => "CONFIRMED"
  | .probable => "PROBABLE"
  | .suspected => "SUSPECTED"
  | .informational => "INFORMATIONAL"

/-- What the detector says with an outcome; an encoded reflection is no weakness. -/
def xssAdvisory (outcome : XssOutcome) : Advisory where
  ruleId := ofString ("active.xss.reflected." ++ outcome.value)
  title := ofString outcome.title
  description := ofString outcome.description
  severity := outcome.severity
  confidence := outcome.confidence
  remediation := ofString
    ("Apply context-appropriate output encoding to all reflected user-controlled input "
    ++ "(HTML-entity encoding for HTML body context, attribute encoding for attribute context, "
    ++ "JavaScript string escaping for script context). Deploy a Content-Security-Policy as "
    ++ "defense in depth. Do not rely on blocklist-based input filtering alone.")
  sourceRuleId := ofString ("ACTIVE-XSS-REFLECTED-" ++ outcome.upper)
  identifiers :=
    if outcome = .informational then [] else [⟨ofString "CWE", ofString "CWE-79"⟩]
  references := if outcome = .informational then [] else
    [ofString "https://owasp.org/www-community/attacks/xss/",
    ofString ("https://cheatsheetseries.owasp.org/cheatsheets/"
      ++ "Cross_Site_Scripting_Prevention_Cheat_Sheet.html")]
  tags := [ofString "xss", ofString "reflected", ofString "active",
    ofString ("outcome-" ++ outcome.value)]

/-! ## Error-based SQL injection -/

/-- The outcomes of the other two detectors that are reported. -/
inductive Outcome where
  | confirmed
  | probable
  deriving DecidableEq

def Outcome.value : Outcome → String
  | .confirmed => "confirmed"
  | .probable => "probable"

def Outcome.upper : Outcome → String
  | .confirmed => "CONFIRMED"
  | .probable => "PROBABLE"

def Outcome.confidence : Outcome → Confidence
  | .confirmed => .confirmed
  | .probable => .high

def sqliTitle : Outcome → String
  | .confirmed => "SQL Injection (confirmed database error signature)"
  | .probable => "SQL Injection (probable database error signature)"

def sqliDescription : Outcome → String
  | .confirmed =>
    "Submitting a single unescaped apostrophe as this parameter's value produced a response "
    ++ "containing a database-engine error signature that was not present in the baseline "
    ++ "response for the same parameter, and the response status code also changed. This is "
    ++ "consistent with the parameter value being concatenated into a SQL statement without safe "
    ++ "parameterisation or escaping."
  | .probable =>
    "Submitting a single unescaped apostrophe as this parameter's value produced a response "
    ++ "containing a database-engine error signature that was not present in the baseline "
    ++ "response for the same parameter. The response status code did not change, which is one "
    ++ "fewer corroborating signal than a confirmed finding, but the signature itself is specific "
    ++ "to database query-processing error output."

def sqliAdvisory (outcome : Outcome) : Advisory where
  ruleId := ofString ("active.sqli.error." ++ outcome.value)
  title := ofString (sqliTitle outcome)
  description := ofString (sqliDescription outcome)
  severity := .high
  confidence := outcome.confidence
  remediation := ofString
    ("Use parameterised queries or prepared statements for all database access built from "
    ++ "user-controlled input; never concatenate raw input into SQL statements. Apply "
    ++ "least-privilege database credentials and avoid exposing raw database error messages to "
    ++ "clients.")
  sourceRuleId := ofString ("ACTIVE-SQLI-ERROR-" ++ outcome.upper)
  identifiers := [⟨ofString "CWE", ofString "CWE-89"⟩]
  references := [ofString "https://owasp.org/www-community/attacks/SQL_Injection",
    ofString ("https://cheatsheetseries.owasp.org/cheatsheets/"
      ++ "SQL_Injection_Prevention_Cheat_Sheet.html")]
  tags := [ofString "sqli", ofString "injection", ofString "active",
    ofString ("outcome-" ++ outcome.value)]

/-! ## Access across identities -/

def idorTitle : Outcome → String
  | .confirmed => "Insecure Direct Object Reference (confirmed cross-identity access)"
  | .probable => "Insecure Direct Object Reference (probable cross-identity access)"

def idorDescription : Outcome → String
  | .confirmed =>
    "One controlled test identity successfully retrieved another controlled test identity's "
    ++ "own resource by supplying that resource's known identifier. The response's content "
    ++ "fingerprint exactly matched the resource owner's own baseline access and differed from "
    ++ "the requester's own resource, confirming genuine protected content was returned rather "
    ++ "than a generic or public response."
  | .probable =>
    "One controlled test identity received a successful (200) response when requesting another "
    ++ "controlled test identity's own resource. Corroborating evidence (a fixture-independent "
    ++ "partial content correlation) supports that this was the resource owner's genuine content, "
    ++ "though exact byte-for-byte fingerprint correlation was not established."

def idorAdvisory (outcome : Outcome) : Advisory where
  ruleId := ofString ("active.authorization.idor." ++ outcome.value)
  title := ofString (idorTitle outcome)
  description := ofString (idorDescription outcome)
  severity := .high
  confidence := outcome.confidence
  remediation := ofString
    ("Enforce object-level authorization on every request that accepts a user-controlled "
    ++ "resource identifier: verify the authenticated identity is actually permitted to access "
    ++ "the specific object requested, not merely that the identity is authenticated at all. "
    ++ "Prefer indirect reference maps or server-side ownership checks over trusting a "
    ++ "client-supplied identifier.")
  sourceRuleId := ofString ("ACTIVE-AUTHORIZATION-IDOR-" ++ outcome.upper)
  identifiers :=
    [⟨ofString "CWE", ofString "CWE-639"⟩, ⟨ofString "OWASP-API", ofString "API1:2023"⟩]
  references := [ofString "https://owasp.org/Top10/A01_2021-Broken_Access_Control/",
    ofString ("https://owasp.org/API-Security/editions/2023/en/"
      ++ "0xa1-broken-object-level-authorization/"),
    ofString "https://cwe.mitre.org/data/definitions/639.html"]
  tags := [ofString "idor", ofString "bola", ofString "authorization", ofString "active",
    ofString ("outcome-" ++ outcome.value)]

end WebGuard.ActiveDetection
