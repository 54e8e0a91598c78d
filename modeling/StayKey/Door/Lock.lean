/-
StayKey.Door.Lock — `lock.py`: the offline verifier inside a door lock.

A lock holds the property's public key, its local snapshot of the
revocation list and its challenge store, and decides from these alone.
The challenge and possession steps are the same in the connected-room
authorizer, so they are one function here, `presentChallenge`.
-/
import StayKey.Door.AntiReplay
import StayKey.Door.Credential

namespace StayKey.Door

open StayKey.Codec

variable (E : Env)

/-- Steps 2 to 4 of `finish_unlock`: challenge validity, possession proof,
and on success alone the challenge is consumed. -/
def presentChallenge (store : ChallengeStore) (keyId : PyStr) (devicePub : Json)
    (challenge response : Bytes) (now : Int) : Except PyError Decision × ChallengeStore :=
  match store.check challenge now with
  | .replayed => (.ok (.deny .replayed keyId), store)
  | .unknown => (.ok (.deny .unknownChallenge keyId), store)
  | .ok =>
    match verifyDeviceResponse E devicePub challenge response with
    | .error e => (.error e, store)
    | .ok false => (.ok (.deny .badResponse keyId), store)
    | .ok true => (.ok (.unlock keyId), store.consume challenge now)

/-- `str(payload["key_id"])` and `payload["device_pub"]`. -/
def payloadKeyId (payload : JsonDict) : PyStr :=
  pyStr E.py ((dictGet? payload (py "key_id")).getD .null)

def payloadDevicePub (payload : JsonDict) : Json :=
  (dictGet? payload (py "device_pub")).getD .null

structure LockVerifier where
  propertyId : String
  roomId : Int
  propertyPub : PublicKey
  revoked : Finset PyStr
  challenges : ChallengeStore

namespace LockVerifier

/-- `LockVerifier(...)`. -/
def new (propertyId : String) (roomId : Int) (propertyPub : PublicKey) (revoked : List PyStr) :
    LockVerifier :=
  ⟨propertyId, roomId, propertyPub, revoked.toFinset, .new challengeTtlSeconds⟩

/-- `sync_revocations`: the snapshot is replaced. -/
def syncRevocations (l : LockVerifier) (revoked : List PyStr) : LockVerifier :=
  { l with revoked := revoked.toFinset }

/-- `begin_unlock`. -/
def beginUnlock (l : LockVerifier) (now : Int) (nonce : Bytes) : Bytes × LockVerifier :=
  let r := l.challenges.issue now nonce
  (r.1, { l with challenges := r.2 })

/-- `finish_unlock`. -/
def finishUnlock (l : LockVerifier) (token : PyStr) (challenge response : Bytes) (now : Int) :
    Except PyError Decision × LockVerifier :=
  match evaluateStatic E token l.propertyPub l.propertyId l.roomId now l.revoked with
  | .error e => (.error e, l)
  | .ok (.deny d) => (.ok d, l)
  | .ok (.pass payload) =>
    let r := presentChallenge E l.challenges (payloadKeyId E payload) (payloadDevicePub payload)
      challenge response now
    (r.1, { l with challenges := r.2 })

end LockVerifier

end StayKey.Door
