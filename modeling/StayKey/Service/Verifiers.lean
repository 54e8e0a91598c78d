/-
StayKey.Service.Verifiers — all verifiers under one property key.

Any number of locks and a connected-room authorizer check credentials of
the same property key. Between the calls of their methods come the calls
of `issue_credential` that make the credentials and of `device_sign` that
make the responses. A run is any sequence of these calls: whoever presents
a token, a challenge and a response may have them from anywhere, and every
call has a clock reading of its own.

What cryptography promises is said of runs: `PropertyUnforged` and
`DeviceUnforged` for the two kinds of signature, `FreshNonces` for the
random source.
-/
import StayKey.Program.History
import StayKey.Program.SingleUse
import StayKey.Service.ConnectedRoom

namespace StayKey.Service

open StayKey.Codec StayKey.Door StayKey.Store StayKey.Program

variable {ι : Type} [DecidableEq ι]

inductive Verifier (ι : Type) where
  | lock (i : ι)
  | connected

structure Verifiers (ι : Type) where
  locks : ι → LockVerifier
  connected : ConnectedRoomAuthorizer

namespace Verifiers

def challenges (s : Verifiers ι) : Verifier ι → ChallengeStore
  | .lock i => (s.locks i).challenges
  | .connected => s.connected.challenges

def propertyId (s : Verifiers ι) : Verifier ι → String
  | .lock i => (s.locks i).propertyId
  | .connected => s.connected.propertyId

/-- The verifiers as constructed: the locks of any properties and rooms,
with any revocation snapshots. -/
structure New (s : Verifiers ι) (pub : PublicKey) : Prop where
  locks : ∀ i, ∃ propertyId roomId revoked, s.locks i = .new propertyId roomId pub revoked
  connected : ∃ propertyId, s.connected = .new propertyId pub

def setLock (s : Verifiers ι) (i : ι) (lock : LockVerifier) : Verifiers ι :=
  { s with locks := Function.update s.locks i lock }

end Verifiers

/-! ## Calls -/

/-- A method call, with its arguments and what it draws from the random
sources. The database of a command is whatever it is at that moment. -/
inductive VerifierCall (ι : Type) where
  | issueCredential (a : CredentialIn) (fresh : Fresh)
  | deviceSign (deviceSkB64 : PyStr) (challenge : Bytes)
  | beginUnlock (i : ι) (now : Int) (nonce : Bytes)
  | finishUnlock (i : ι) (token : PyStr) (challenge response : Bytes) (now : Int)
  | syncRevocations (i : ι) (revoked : List PyStr)
  | beginCommand (now : Int) (nonce : Bytes)
  | authorize (db : Db) (roomId : Int) (command : String) (token : PyStr)
      (challenge response : Bytes) (now : Int)

inductive VerifierAnswer where
  | credential (result : Except Exc IssuedKey)
  | response (result : Except PyError Bytes)
  | challenge (challenge : Bytes)
  | decision (result : Except PyError Decision)
  | none

variable (E : Env) (sk : PrivateKey)

/-- Perform the call. -/
def performCall : VerifierCall ι → Verifiers ι → VerifierAnswer × Verifiers ι
  | .issueCredential a fresh, s => (.credential (Door.issueCredential E sk a fresh), s)
  | .deviceSign deviceSkB64 challenge, s => (.response (Door.deviceSign E deviceSkB64 challenge), s)
  | .beginUnlock i now nonce, s =>
    let r := (s.locks i).beginUnlock now nonce
    (.challenge r.1, s.setLock i r.2)
  | .finishUnlock i token challenge response now, s =>
    let r := (s.locks i).finishUnlock E token challenge response now
    (.decision r.1, s.setLock i r.2)
  | .syncRevocations i revoked, s => (.none, s.setLock i ((s.locks i).syncRevocations revoked))
  | .beginCommand now nonce, s =>
    let r := s.connected.beginCommand now nonce
    (.challenge r.1, { s with connected := r.2 })
  | .authorize db roomId command token challenge response now, s =>
    let r := s.connected.authorize E db roomId command token challenge response now
    (.decision r.1, { s with connected := r.2 })

abbrev VerifierEntry (ι : Type) := Entry (VerifierCall ι) VerifierAnswer (Verifiers ι)

/-- A run of the verifiers from `s₀`, newest call first. -/
abbrev VerifierHistory (s₀ : Verifiers ι) : List (VerifierEntry ι) → Verifiers ι → Prop :=
  History (performCall E sk) s₀

/-! ## What a call presents, draws and grants -/

/-- A token with a challenge and a response, at a verifier, for a room. -/
structure Presentation (ι : Type) where
  verifier : Verifier ι
  roomId : Int
  token : PyStr
  challenge : Bytes
  response : Bytes

namespace VerifierEntry

def presented? (e : VerifierEntry ι) : Option (Presentation ι) :=
  match e.request with
  | .finishUnlock i token challenge response _ =>
    some ⟨.lock i, (e.before.locks i).roomId, token, challenge, response⟩
  | .authorize _ roomId _ token challenge response _ =>
    some ⟨.connected, roomId, token, challenge, response⟩
  | .issueCredential .. | .deviceSign .. | .beginUnlock .. | .syncRevocations .. | .beginCommand .. => none

/-- The nonce of the challenge the call issues, and who issues it. -/
def drawn? (e : VerifierEntry ι) : Option (Verifier ι × Bytes) :=
  match e.request with
  | .beginUnlock i _ nonce => some (.lock i, nonce)
  | .beginCommand _ nonce => some (.connected, nonce)
  | .issueCredential .. | .deviceSign .. | .finishUnlock .. | .syncRevocations .. | .authorize .. => none

/-- The presentation of a positive decision. -/
def granted? (e : VerifierEntry ι) : Option (Presentation ι) :=
  match e.answer with
  | .decision result => if unlocks result then presented? e else none
  | .credential _ | .response _ | .challenge _ | .none => none

end VerifierEntry

open VerifierEntry

/-- The challenge was issued by this verifier. -/
def ChallengeIssued (h : List (VerifierEntry ι)) (v : Verifier ι) (challenge : Bytes) : Prop :=
  ∃ e ∈ h, drawn? e = some (v, challenge) ∧ e.answer = .challenge challenge

/-- The credential was issued. -/
def CredentialIssued (h : List (VerifierEntry ι)) (a : CredentialIn) (fresh : Fresh) (key : IssuedKey) :
    Prop :=
  ∃ e ∈ h, e.request = .issueCredential a fresh ∧ e.answer = .credential (.ok key)

/-- A holder of the device key with this public key signed the challenge. -/
def DeviceSigned (h : List (VerifierEntry ι)) (devicePub : PublicKey) (challenge : Bytes) : Prop :=
  ∃ e ∈ h, ∃ deviceSkB64 deviceSk, e.request = .deviceSign deviceSkB64 challenge ∧
    b64uDecode deviceSkB64 >>= privateFromRaw = .ok deviceSk ∧ E.ed.publicKey deviceSk = devicePub

/-! ## Assumptions about a run -/

/-- No nonce is drawn twice. -/
def FreshNonces (h : List (VerifierEntry ι)) : Prop :=
  ((h.filterMap drawn?).map Prod.snd).Nodup

/-- The signature of a presented token verifies under the property's key
only on bytes that were signed when a credential was issued before. -/
def PropertyUnforged (h : List (VerifierEntry ι)) : Prop :=
  ∀ l e h', h = l ++ e :: h' → ∀ p, presented? e = some p →
    ∀ parsed, parseToken E p.token = .ok (some parsed) →
    E.ed.verify (E.ed.publicKey sk) parsed.signature parsed.payloadBytes = true →
    ∃ a fresh key, CredentialIssued h' a fresh key ∧
      canonicalBytes E (a.payload E fresh) = .ok parsed.payloadBytes

/-- A presented response verifies under the public key of a device only if a
holder of the device's key signed the challenge before. -/
def DeviceUnforged (h : List (VerifierEntry ι)) : Prop :=
  ∀ l e h', h = l ++ e :: h' → ∀ p, presented? e = some p →
    ∀ deviceSk, E.ed.verify (E.ed.publicKey deviceSk) p.response p.challenge = true →
    DeviceSigned E h' (E.ed.publicKey deviceSk) p.challenge

/-! ## Challenges as tokens for one use -/

/-- What an entry does with challenges. -/
def challengeStep (e : VerifierEntry ι) : TokenStep (Verifier ι) Bytes :=
  match drawn? e, granted? e with
  | some (v, c), _ => .issue v c
  | none, some p => .accept p.verifier p.challenge
  | none, none => .other

/-- The challenges pending with each verifier. -/
def Verifiers.pending (s : Verifiers ι) (v : Verifier ι) : Set Bytes := { c | (s.challenges v).Pending c }

end StayKey.Service
