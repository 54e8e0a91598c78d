/-
StayKey.Door.LockSpec — what the documentation asks of a lock.

The specification of `finish_unlock` is the list of its checks in the
documented order, each with the reason a denial gives: the token parses,
the property signed it, property and room are the lock's, the window
contains `now`, the key is not in the snapshot, the challenge is fresh,
the response is the device's. `MeetsSpec` says of one call that it
answers with the first check that fails, and unlocks when none does.

It is stated from the meaning of a token (`readToken`: a token that
cannot be read is malformed, whatever the parser does with it), not from
the control flow of the verifier.
-/
import StayKey.Door.CredentialTheorems

namespace StayKey.Door

open StayKey.Codec StayKey.Program

variable (E : Env)

/-- The contents of a token; none if it is malformed. -/
def readToken (token : PyStr) : Option ParsedToken :=
  match parseToken E token with
  | .ok p => p
  | .error _ => none

/-- The response is a signature of the challenge by the key `devicePub` names. -/
def possession (devicePub : PyStr) (challenge response : Bytes) : Bool :=
  match b64uDecode devicePub >>= publicFromRaw with
  | .ok pub => E.ed.verify pub response challenge
  | .error _ => false

/-- The challenge and possession checks, in order. -/
def presentationChecks (store : ChallengeStore) (devicePub : PyStr) (challenge response : Bytes)
    (now : Int) : List (DenyReason × Bool) :=
  [ (.replayed, (store.consumed.get? challenge).isNone),
    (.unknownChallenge, (store.pending.get? challenge).any fun issuedAt => now - issuedAt ≤ store.ttl),
    (.badResponse, possession E devicePub challenge response) ]

/-- All checks of a lock on the fields of a signed token. -/
def unlockChecks (l : LockVerifier) (f : Fields) (challenge response : Bytes) (now : Int) :
    List (DenyReason × Bool) :=
  staticChecks f l.propertyId l.roomId now l.revoked
    ++ presentationChecks E l.challenges f.devicePub challenge response now

/-- The call returned a denial with this reason. -/
def Denied (result : Except PyError Decision) (reason : DenyReason) : Prop :=
  ∃ keyId, result = .ok (.deny reason keyId)

/-- The call answers as the first failing check says. -/
def Answers (result : Except PyError Decision) (keyId : PyStr) : Option DenyReason → Prop
  | none => result = .ok (.unlock keyId)
  | some reason => Denied result reason

/-- One call of `finish_unlock` does what the documentation says. -/
def MeetsSpec (l : LockVerifier) (token : PyStr) (challenge response : Bytes) (now : Int) : Prop :=
  let result := (l.finishUnlock E token challenge response now).1
  match readToken E token with
  | none => Denied result .malformed
  | some p =>
    if E.ed.verify l.propertyPub p.signature p.payloadBytes then
      ∃ f, Carries p.payload f ∧
        Answers result f.keyId (firstFailing (unlockChecks E l f challenge response now))
    else Denied result .forgedSignature

/-- If the token is read and its signature verifies at this lock, then its
payload has the field types `issueCredential` writes. -/
def TypedWhenSigned (l : LockVerifier) (token : PyStr) : Prop :=
  ∀ p, readToken E token = some p → E.ed.verify l.propertyPub p.signature p.payloadBytes = true →
    ∃ f, Carries p.payload f

/-- The payload segment of the token is a text nested beyond the
interpreter's recursion limit. -/
def NestedToken (token : PyStr) : Prop :=
  token.count 46 = 1 ∧ ∃ payloadBytes signature text,
    b64uDecode (token.takeWhile (· ≠ 46)) = .ok payloadBytes ∧
    b64uDecode (token.dropWhile (· ≠ 46)).tail = .ok signature ∧
    decodeText payloadBytes = some text ∧ NestsBeyond E.py.recursionLimit (skipWs text)

end StayKey.Door
