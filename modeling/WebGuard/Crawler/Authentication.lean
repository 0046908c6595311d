import WebGuard.Lib.Base64
import WebGuard.Contracts.Findings

/-!
# Authentication of requests

`authentication.py`: session cookies, the secret material of a request, and the headers that
`apply_authentication` makes of it for a URL. Times are microseconds.
-/

namespace WebGuard.SessionCookies

open PyJson UrlParse FindingContract

/-! ## Values -/

/-- `SessionCookie`, checked. -/
structure SessionCookie where
  name : PyText
  value : PyText
  domain : PyText
  port : Int
  path : PyText
  secure : Bool
  expiresAt : Option Nat
  deriving DecidableEq

def maximumCookies : Nat := 20

def maximumCookieValueBytes : Nat := 4096

def maximumBearerTokenBytes : Nat := 8192

/-- `__post_init__` of `SessionCookie`. -/
def SessionCookie.postInit [UnicodeTables] (raw : SessionCookie) : Checked SessionCookie := do
  require (!raw.name.isEmpty) "authentication_cookie_name_invalid"
    "A session cookie requires a non-empty name."
  match encodeUtf8 raw.value with
  | none => invalid "UnicodeEncodeError" "surrogates not allowed"
  | some bytes =>
    require (bytes.length ≤ maximumCookieValueBytes) "authentication_cookie_too_large"
      ("Cookie " ++ UnicodeTables.quoted raw.name ++ " exceeds the 4096-byte limit.")
    require (!raw.domain.isEmpty) "authentication_cookie_domain_invalid"
      "A session cookie requires a non-empty, exact domain."
    require (1 ≤ raw.port && raw.port ≤ 65535) "authentication_cookie_port_invalid"
      "A session cookie requires a valid port number."
    return raw

structure AuthenticationMaterial where
  bearerToken : Option PyText
  cookies : List SessionCookie
  basicUsername : Option PyText
  basicPassword : Option PyText
  deriving DecidableEq

/-- The check of a bearer token. -/
def checkBearerToken (token : PyText) : Checked Unit := do
  require (!token.isEmpty) "authentication_bearer_token_invalid"
    "A bearer token must be a non-empty string."
  match encodeUtf8 token with
  | none => invalid "UnicodeEncodeError" "surrogates not allowed"
  | some bytes =>
    require (bytes.length ≤ maximumBearerTokenBytes) "authentication_bearer_token_too_large"
      "Bearer token exceeds the 8192-byte limit."

/-- `__post_init__` of `AuthenticationMaterial`. -/
def AuthenticationMaterial.postInit (raw : AuthenticationMaterial) :
    Checked AuthenticationMaterial := do
  raw.bearerToken.elim (.ok ()) checkBearerToken
  require (raw.cookies.length ≤ maximumCookies) "authentication_too_many_cookies"
    (toString raw.cookies.length ++ " cookies exceed the 20-cookie limit.")
  require (raw.basicUsername.isNone = raw.basicPassword.isNone)
    "authentication_basic_credentials_incomplete"
    "Basic authentication requires both a username and a password."
  return raw

/-! ## Requests -/

def SessionCookie.isExpired (cookie : SessionCookie) (now : Nat) : Bool :=
  cookie.expiresAt.any (· ≤ now)

/-- What a cookie is compared with in a URL. -/
structure RequestPlace where
  scheme : Text
  hostname : PyText
  port : Nat
  path : PyText
  deriving DecidableEq

section

variable [LowerTable] [StandardLibrary]

/-- `urlsplit` and its parts; a URL without a host has no path that matters. -/
def requestPlace (url : PyText) : Checked RequestPlace :=
  match urlsplit (characters url) with
  | none => invalid "ValueError" "Invalid URL"
  | some parsed =>
    let hostname := if parsed.hostname.isSome then hostnameOf (hostOf (netlocOf url parsed)) else []
    match parsed.port with
    | none => invalid "ValueError" "Port could not be cast to integer value"
    | some configured =>
      .ok {
        scheme := parsed.scheme
        hostname := LowerTable.lower hostname
        port := configured.getD (if parsed.scheme = https then 443 else 80)
        path := if (urlPath url parsed).isEmpty then [47] else urlPath url parsed }

/-- The comparison of `_cookie_matches_request`. -/
def SessionCookie.matchesPlace (cookie : SessionCookie) (place : RequestPlace) : Bool :=
  place.hostname = LowerTable.lower cookie.domain && (place.port : Int) = cookie.port
    && !(cookie.secure && place.scheme ≠ https)
    && !(cookie.path ≠ [47] && !cookie.path.isPrefixOf place.path)

/-- `_cookie_matches_request`; an expired cookie is not compared with the URL. -/
def cookieMatchesRequest (cookie : SessionCookie) (url : PyText) (now : Nat) : Checked Bool :=
  if cookie.isExpired now then .ok false
  else do
    let place ← requestPlace url
    return cookie.matchesPlace place

/-- The list comprehension over the cookies of a request. -/
def matchingCookies (url : PyText) (now : Nat) : List SessionCookie → Checked (List SessionCookie)
  | [] => .ok []
  | cookie :: rest => do
    let found ← cookieMatchesRequest cookie url now
    let others ← matchingCookies url now rest
    return if found then cookie :: others else others

end

/-- `"; ".join(f"{cookie.name}={cookie.value}" …)`. -/
def cookieHeader (cookies : List SessionCookie) : PyText :=
  (ofString "; ").intercalate (cookies.map fun cookie => cookie.name ++ 61 :: cookie.value)

def b64encode (bytes : List Nat) : List Char :=
  Base64.pad ((Base64.encode (bytes.map UInt8.ofNat)).map fun c =>
    if c = '-' then '+' else if c = '_' then '/' else c)

/-- The `Authorization` header, where there are credentials for one. -/
def authorizationHeader (material : AuthenticationMaterial) : Checked (List (String × PyText)) :=
  match material.bearerToken, material.basicUsername with
  | some token, _ => .ok [("Authorization", ofString "Bearer " ++ token)]
  | none, none => .ok []
  | none, some username =>
    match encodeUtf8 (username ++ 58 :: material.basicPassword.getD (ofString "None")) with
    | none => invalid "UnicodeEncodeError" "surrogates not allowed"
    | some bytes =>
      .ok [("Authorization", ofString "Basic " ++ (b64encode bytes).map Char.toNat)]

def allowedAuthenticationHeaders : List String := ["authorization", "cookie"]

def forbiddenAuthenticationHeaders : List String :=
  ["host", "content-length", "transfer-encoding", "connection", "forwarded", "x-forwarded-host",
    "x-forwarded-for"]

/-- The check of the names of the headers. -/
def checkHeaderName (name : String) : Checked Unit := do
  require (!forbiddenAuthenticationHeaders.contains name.toLower) "authentication_header_forbidden"
    ("Header '" ++ name ++ "' cannot be set by authentication application.")
  require (allowedAuthenticationHeaders.contains name.toLower) "authentication_header_not_allowed"
    ("Header '" ++ name ++ "' is not on the authentication header allowlist.")

def applyAuthentication [LowerTable] [StandardLibrary] (url : PyText)
    (material : Option AuthenticationMaterial) (now : Nat) :
    Checked (List (String × PyText)) :=
  match material with
  | none => .ok []
  | some material => do
    let authorization ← authorizationHeader material
    let cookies ← matchingCookies url now material.cookies
    let headers :=
      authorization ++ if cookies.isEmpty then [] else [("Cookie", cookieHeader cookies)]
    headers.forM fun header => checkHeaderName header.1
    return headers

end WebGuard.SessionCookies
