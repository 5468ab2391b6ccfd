/-
# Normalized executor actions

The agent never supplies a URL string to a generic HTTP client. It supplies this
closed structure, and policy and executor consume the same validated object.
-/

import Containment.Models.Manifest

namespace Containment

open Json

variable (P : Platform)

/-- The host pattern: at most 253 characters, a letter or digit at both ends, and
letters, digits, dots and hyphens between. -/
def isActionHost (s : String) : Bool :=
  let edge (c : Char) : Bool := isLower c || isDecimal c
  match s.toList with
  | [] => false
  | c :: rest =>
      (c :: rest).length ≤ 253 && edge c && ((c :: rest).getLast?.any edge) &&
        rest.all fun d => edge d || d = '.' || d = '-'

def hostIsExactAsciiOrigin (value : String) : Except PyError Unit := do
  ensure (value ≠ "") (.validationError "" "String should have at least 1 character")
  ensure (value = P.lower value ∧ value.toList.getLast? ≠ some '.' ∧ '*' ∉ value.toList ∧
      isActionHost value = true)
    (reject "host must be an exact lowercase ASCII DNS name")

def pathIsUnambiguous (value : String) : Except PyError Unit := do
  ensure (value.toList.head? = some '/' ∧
      (['\\', '%', '?', '#'].all fun c => c ∉ value.toList) ∧
      hasDoubleSlash value.toList = false ∧
      (splitText '/' value).all fun part => part ≠ ['.'] && part ≠ ['.', '.'])
    (reject "path is ambiguous or not normalized")
  ensure (value = "/" ∨ purePosixPath value = rstripSlash value)
    (reject "path is not in canonical POSIX form")

def ipIsCanonical (value : String) : Except PyError Unit :=
  match P.ipAddress value with
  | none => .error (reject "resolved_ip must be an IP address")
  | some compressed =>
      ensure (compressed = value) (reject ("resolved_ip must use canonical form " ++ compressed))

/-- Unlike the manifest's pins, this one is not re-encoded after decoding, so the
two surplus bits of its last character are free. -/
def spkiIsCanonicalSha256 (value : String) : Except PyError Unit := do
  ensure (value.toList.length = 43 ∧ value.toList.all fun c => (b64Value c).isSome)
    (reject "TLS SPKI pin must be unpadded base64url SHA-256")
  ensure ((b64urlOctets value.toList).any fun decoded => decoded.length = 32)
    (reject "TLS SPKI pin must decode to 32 bytes")

def bodyIsCanonical (value : String) : Except PyError Unit := do
  let parsed ← parseCanonicalText P value
  let canonical ← canonicalJson P parsed
  ensure (canonical = value) (reject "body_canonical_json is not canonical")

structure ActionFields where
  requestId : OpaqueId
  method : HttpMethod
  host : { s : String // hostIsExactAsciiOrigin P s = .ok () }
  port : Port
  path : { s : String // pathIsUnambiguous s = .ok () }
  resolvedIp : { s : String // ipIsCanonical P s = .ok () }
  tlsSpkiSha256 : { s : String // spkiIsCanonicalSha256 s = .ok () }
  bodyCanonicalJson : { s : String // bodyIsCanonical P s = .ok () }
  bodySha256 : Sha256Hex
  bodyBytes : SafeNonNegativeInt
  credentialId : Option OpaqueId

variable {P} in
def ActionFields.bodyBindingIsCorrect (action : ActionFields P) : Except PyError Unit := do
  ensure (((utf8 action.bodyCanonicalJson.1).length : ℤ) = action.bodyBytes.1)
    (reject "body_bytes does not match canonical body")
  ensure (payloadSha256 P action.bodyCanonicalJson.1 = action.bodySha256.1)
    (reject "body_sha256 does not match canonical body")

/-- The sole action shape accepted by the trusted executor. -/
structure Action extends ActionFields P where
  bound : toActionFields.bodyBindingIsCorrect = .ok ()

def ActionFields.record : Record PyError (ActionFields P) :=
  ((Codecs.required "request_id" Codecs.opaqueId).and <|
    (Codecs.required "method" HttpMethod.codec).and <|
    (Codecs.defaulted "scheme" (Codecs.literal "https") ()).and <|
    (Codecs.required "host" (.ofString Codecs.notString (hostIsExactAsciiOrigin P))).and <|
    (Codecs.required "port" Codecs.port).and <|
    (Codecs.required "path" (.ofString Codecs.notString pathIsUnambiguous)).and <|
    (Codecs.required "resolved_ip" (.ofString Codecs.notString (ipIsCanonical P))).and <|
    (Codecs.required "tls_spki_sha256"
      (.ofString Codecs.notString spkiIsCanonicalSha256)).and <|
    (Codecs.required "body_canonical_json"
      (.ofString Codecs.notString (bodyIsCanonical P))).and <|
    (Codecs.required "body_sha256" Codecs.sha256Hex).and <|
    (Codecs.required "body_bytes" Codecs.safeNonNegativeInt).and <|
    (Codecs.defaulted "credential_id" Codecs.optionalOpaqueId none).and <|
    Codecs.defaulted "redirects"
      (.literalBool false (.validationError "" "Input should be False")) ()).iso
    (fun (request, method, _, host, port, path, ip, pin, body, digest, bytes, credential, _) =>
      ⟨request, method, host, port, path, ip, pin, body, digest, bytes, credential⟩)
    (fun x => (x.requestId, x.method, (), x.host, x.port, x.path, x.resolvedIp,
      x.tlsSpkiSha256, x.bodyCanonicalJson, x.bodySha256, x.bodyBytes, x.credentialId, ()))
    fun _ => rfl

namespace Action

variable {P}

variable (P) in
def codec : Codec PyError (Action P) :=
  Codecs.model (((ActionFields.record P).refine ActionFields.bodyBindingIsCorrect).iso
    (fun x => ⟨x.1, x.2⟩) (fun x => ⟨x.toActionFields, x.bound⟩) fun _ => rfl) rfl

variable (P) in
/-- Parse strict JSON with duplicate-key, float and size rejection. -/
def fromWire (raw : Bytes) : Except PyError (Action P) := do
  (codec P).decode (← parseCanonicalJson P raw)

def digest (action : Action P) : Except PyError String :=
  domainHash P "ACTION-HASH" ((codec P).encode action)

end Action

end Containment
