/-
StayKey.Door.Errors — the configuration constants the code uses, the
decision of a verifier, and the exceptions.

`Decision` never stands for a bare boolean: a denial carries its reason
and, once the token was parsed, the key id. The domain exceptions carry
their message; those of the interpreter and of the database driver are
kept apart from them, because the API answers the former with an error
envelope and not the latter.
-/
import StayKey.Codec.PyStr

namespace StayKey.Door

open StayKey.Codec

/-! ## `config` -/

/-- `KEY_TTL_SECONDS`: the rolling lifetime of a key. -/
def keyTtlSeconds : Int := 24 * 60 * 60

/-- `CHALLENGE_TTL_SECONDS`. -/
def challengeTtlSeconds : Int := 30

/-- `ALLOWED_DEVICES`. -/
def allowedDevices : List String := ["tv", "thermostat", "lights"]

/-! ## `errors` -/

inductive DenyReason where
  | forgedSignature
  | tamperedPayload
  | wrongProperty
  | wrongRoom
  | notYetValid
  | expired
  | revoked
  | unknownChallenge
  | replayed
  | badResponse
  | malformed
  | notActiveStay
  | badCommand
  deriving DecidableEq, Repr

inductive UnlockOutcome where
  | unlock
  | deny
  deriving DecidableEq, Repr

structure Decision where
  outcome : UnlockOutcome
  reason : Option DenyReason
  keyId : Option PyStr
  deriving DecidableEq, Repr

/-- `Decision.unlock`, also under the name `Decision.allow`. -/
def Decision.unlock (keyId : PyStr) : Decision := ⟨.unlock, none, some keyId⟩

def Decision.deny (reason : DenyReason) (keyId : Option PyStr) : Decision :=
  ⟨.deny, some reason, keyId⟩

def Decision.unlocked (d : Decision) : Bool := d.outcome = .unlock

@[simp] theorem Decision.unlocked_unlock (k : PyStr) : (Decision.unlock k).unlocked = true := rfl

@[simp] theorem Decision.unlocked_deny (r : DenyReason) (k : Option PyStr) :
    (Decision.deny r k).unlocked = false := rfl

/-- The call returned a positive decision. -/
def unlocks : Except PyError Decision → Bool
  | .ok d => d.unlocked
  | .error _ => false

/-- An exception: one of the interpreter's, the driver's
`sqlite3.IntegrityError`, or a domain error with its message. -/
inductive Exc where
  | py (e : PyError)
  | integrityError
  | stayKey (msg : String)
  | roomUnavailable (msg : String)
  | notFound (msg : String)
  | validation (msg : String)
  deriving DecidableEq, Repr

/-- An instance of `StayKeyError` or of a subclass of it. -/
def Exc.isStayKeyError : Exc → Bool
  | .stayKey _ | .roomUnavailable _ | .notFound _ | .validation _ => true
  | .py _ | .integrityError => false

end StayKey.Door
