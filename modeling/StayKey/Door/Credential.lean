/-
StayKey.Door.Credential — `credential.py`: issuing, parsing and checking a
Digital Key.

A credential is `b64url(payload) + "." + b64url(signature)`, the payload
being the canonical JSON of a dictionary. The signature scheme is not
part of the repository: `Ed25519` is a parameter, and the one thing the
code relies on when it accepts a genuine key is `Ed25519.Correct`. The
interpreter (`PyRuntime`) is the other parameter; both together are `Env`.

Where the source can raise, the model returns the exception: only
`ValueError` is caught by `parseToken` and by `verifyDeviceResponse`.
-/
import StayKey.Codec.Base64
import StayKey.Codec.Json
import StayKey.Door.Errors
import Mathlib.Data.Finset.Basic

namespace StayKey.Door

open StayKey.Codec

/-! ## Ed25519 -/

/-- An `Ed25519PrivateKey`, by its 32 raw bytes. -/
abbrev PrivateKey := {raw : Bytes // raw.length = 32}

/-- An `Ed25519PublicKey`, by its 32 raw bytes. -/
abbrev PublicKey := {raw : Bytes // raw.length = 32}

/-- The signature scheme. `verify pub signature data` is false where the
library raises `InvalidSignature`. -/
structure Ed25519 where
  publicKey : PrivateKey → PublicKey
  sign : PrivateKey → Bytes → Bytes
  verify : PublicKey → Bytes → Bytes → Bool

/-- A signature verifies under the signer's public key. -/
def Ed25519.Correct (ed : Ed25519) : Prop :=
  ∀ sk m, ed.verify (ed.publicKey sk) (ed.sign sk m) m = true

/-- What the code runs on: the interpreter and the signature library. -/
structure Env where
  py : PyRuntime
  ed : Ed25519

/-- `Ed25519PublicKey.from_public_bytes`. -/
def publicFromRaw (raw : Bytes) : Except PyError PublicKey :=
  if h : raw.length = 32 then .ok ⟨raw, h⟩ else .error .valueError

/-- `Ed25519PrivateKey.from_private_bytes`. -/
def privateFromRaw (raw : Bytes) : Except PyError PrivateKey :=
  if h : raw.length = 32 then .ok ⟨raw, h⟩ else .error .valueError

variable (E : Env)

/-! ## Issuance -/

/-- `canonical_bytes`: what is signed and verified. -/
def canonicalBytes (payload : JsonDict) : Except PyError Bytes :=
  (dumps E.py E.py.recursionLimit (.obj payload)).map encodeAscii

structure IssuedKey where
  keyId : String
  token : PyStr
  deviceSkB64 : PyStr
  payload : JsonDict

/-- The keyword arguments of `issue_credential`. -/
structure CredentialIn where
  guestId : String
  stayId : String
  propertyId : String
  roomIds : List Int
  validFrom : Int
  validUntil : Int
  issuedAt : Int
  deviceSk : Option PrivateKey
  keyId : Option String
  nonce : Option String

/-- What one call draws from the random sources, should it need them:
`Ed25519PrivateKey.generate()`, `uuid4().hex`, `token_hex(16)`. -/
structure Fresh where
  deviceSk : PrivateKey
  keyId : String
  nonce : String

/-- `s or default` on an optional string: the empty string is falsy. -/
def strOr (s : Option String) (default : String) : String :=
  match s with
  | none => default
  | some t => if t = "" then default else t

/-- The device key of the credential: the one supplied, else a fresh one. -/
def CredentialIn.device (a : CredentialIn) (fresh : Fresh) : PrivateKey :=
  a.deviceSk.getD fresh.deviceSk

def CredentialIn.issuedKeyId (a : CredentialIn) (fresh : Fresh) : String :=
  strOr a.keyId fresh.keyId

/-- The payload dictionary, in the order the source fills it. -/
def CredentialIn.payload (a : CredentialIn) (fresh : Fresh) : JsonDict :=
  [ (py "v", .int 1),
    (py "key_id", .str (py (a.issuedKeyId fresh))),
    (py "guest_id", .str (py a.guestId)),
    (py "stay_id", .str (py a.stayId)),
    (py "property_id", .str (py a.propertyId)),
    (py "room_ids", .arr ((a.roomIds.insertionSort (· ≤ ·)).map .int)),
    (py "valid_from", .int a.validFrom),
    (py "valid_until", .int a.validUntil),
    (py "issued_at", .int a.issuedAt),
    (py "nonce", .str (py (strOr a.nonce fresh.nonce))),
    (py "device_pub", .str (b64uEncode (E.ed.publicKey (a.device fresh)).val)) ]

/-- `issue_credential`. -/
def issueCredential (propertySk : PrivateKey) (a : CredentialIn) (fresh : Fresh) :
    Except Exc IssuedKey :=
  if a.validUntil ≤ a.validFrom then
    .error (.validation "valid_until must be after valid_from")
  else
    match canonicalBytes E (a.payload E fresh) with
    | .error e => .error (.py e)
    | .ok payloadBytes =>
      .ok
        { keyId := a.issuedKeyId fresh
          token := b64uEncode payloadBytes ++ 46 :: b64uEncode (E.ed.sign propertySk payloadBytes)
          deviceSkB64 := b64uEncode (a.device fresh).val
          payload := a.payload E fresh }

/-! ## Parsing and verification -/

structure ParsedToken where
  payload : JsonDict
  payloadBytes : Bytes
  signature : Bytes

/-- What the `try` block of `parse_token` computes from the two segments. -/
def decodeSegments (segPayload segSig : PyStr) : Except PyError (Bytes × Bytes × Json) := do
  let payloadBytes ← b64uDecode segPayload
  let signature ← b64uDecode segSig
  let payload ← loads E.py payloadBytes
  return (payloadBytes, signature, payload)

/-- `parse_token`: none if malformed. `ValueError` is caught, and with it
all its subclasses; nothing else is. -/
def parseToken (token : PyStr) : Except PyError (Option ParsedToken) :=
  if token.count 46 ≠ 1 then .ok none
  else
    match decodeSegments E (token.takeWhile (· ≠ 46)) (token.dropWhile (· ≠ 46)).tail with
    | .error .valueError => .ok none
    | .error e => .error e
    | .ok (payloadBytes, signature, .obj payload) =>
      if (dictGet? payload (py "key_id")).isSome then
        .ok (some ⟨payload, payloadBytes, signature⟩)
      else .ok none
    | .ok _ => .ok none

/-- `_signature_ok`. -/
def signatureOk (propertyPub : PublicKey) (payloadBytes signature : Bytes) : Bool :=
  E.ed.verify propertyPub signature payloadBytes

/-- `verify_device_response`. A key that is no string raises `TypeError`
in `len(text)` or in `text + pad`, which is not caught. -/
def verifyDeviceResponse (devicePubB64 : Json) (challenge response : Bytes) :
    Except PyError Bool :=
  match devicePubB64 with
  | .str s =>
    match b64uDecode s >>= publicFromRaw with
    | .ok devicePub => .ok (E.ed.verify devicePub response challenge)
    | .error _ => .ok false
  | _ => .error .typeError

/-- The outcome of the static checks: a denial, or the payload. -/
inductive StaticResult where
  | deny (d : Decision)
  | pass (payload : JsonDict)

/-- The fields `evaluate_static` requires. -/
def requiredFields : List PyStr :=
  [py "property_id", py "room_ids", py "valid_from", py "valid_until", py "device_pub"]

/-- The room check: `room_ids` is a list and holds the room. -/
def roomListed (roomIds : Json) (room : Int) : Bool :=
  match roomIds with
  | .arr l => l.any (eqInt · room)
  | _ => false

/-- The checks of `evaluate_static` on a payload whose signature holds. -/
def evaluatePayload (payload : JsonDict) (expectedProperty : String) (expectedRoom now : Int)
    (revoked : Finset PyStr) : Except PyError StaticResult :=
  let keyId := pyStr E.py ((dictGet? payload (py "key_id")).getD .null)
  let field (k : String) : Json := (dictGet? payload (py k)).getD .null
  if requiredFields.any fun k => (dictGet? payload k).isNone then
    .ok (.deny (.deny .malformed keyId))
  else if !eqStr (field "property_id") (py expectedProperty) then
    .ok (.deny (.deny .wrongProperty keyId))
  else if !roomListed (field "room_ids") expectedRoom then
    .ok (.deny (.deny .wrongRoom keyId))
  else do
    let validFrom ← pyInt E.py (field "valid_from")
    if now < validFrom then return .deny (.deny .notYetValid keyId)
    let validUntil ← pyInt E.py (field "valid_until")
    if validUntil < now then return .deny (.deny .expired keyId)
    if keyId ∈ revoked then return .deny (.deny .revoked keyId)
    return .pass payload

/-- `evaluate_static`: every check that needs only the property's public
key and the revocation list. -/
def evaluateStatic (token : PyStr) (propertyPub : PublicKey) (expectedProperty : String)
    (expectedRoom now : Int) (revoked : Finset PyStr) : Except PyError StaticResult := do
  match ← parseToken E token with
  | none => return .deny (.deny .malformed none)
  | some parsed =>
    if !signatureOk E propertyPub parsed.payloadBytes parsed.signature then
      return .deny (.deny .forgedSignature none)
    evaluatePayload E parsed.payload expectedProperty expectedRoom now revoked

/-- `device_sign`: the phone's answer to a challenge. -/
def deviceSign (deviceSkB64 : PyStr) (challenge : Bytes) : Except PyError Bytes := do
  let deviceSk ← b64uDecode deviceSkB64 >>= privateFromRaw
  return E.ed.sign deviceSk challenge

end StayKey.Door
