/-
StayKey.Service.ConnectedRoom — `connectedroom.py`: device commands for the
room of an active stay.

Unlike the lock this authorizer is online: after the same static checks, it
asks the database which stay holds the newest active assignment of the
room. Then come the challenge and the possession proof, which are those of
the lock (`presentChallenge`).

Where the source can raise, the model returns the exception: a payload
without `stay_id`, a `stay_id` that is no text for the driver, and a
matching stay whose `room_id` is NULL.
-/
import StayKey.Door.Lock
import StayKey.Store.Db

namespace StayKey.Service

open StayKey.Codec StayKey.Door StayKey.Store

structure ConnectedRoomAuthorizer where
  propertyId : String
  propertyPub : PublicKey
  challenges : ChallengeStore

/-- `get_stay` on any Python string: the driver encodes it as UTF-8, which
fails on a surrogate. -/
def getStayByText (db : Db) (stayId : PyStr) : Except PyError (Option StayRow) :=
  if stayId.all fun c => decide (IsScalar c) then
    .ok (db.stays.rows.find? fun s => py s.stayId = stayId)
  else .error .valueError

variable (E : Env)

/-- Step 2 of `authorize`: the credential's stay must be the room's active,
checked-in stay. The conditions are evaluated from left to right, up to the
first that holds. -/
def isActiveStay (db : Db) (payload : JsonDict) (roomId : Int) : Except PyError Bool := do
  let assignment := db.activeAssignmentForRoom roomId
  let stayId ← match dictGet? payload (py "stay_id") with
    | some j => .ok j
    | none => .error .keyError
  let stay ← getStayByText db (pyStr E.py stayId)
  match assignment, stay with
  | some assignment, some stay =>
    if !eqStr stayId (py assignment.stayId) then return false
    else if stay.status ≠ .checkedIn then return false
    else
      match stay.roomId with
      | some room => return room = roomId
      | none => .error .typeError
  | _, _ => return false

namespace ConnectedRoomAuthorizer

/-- `ConnectedRoomAuthorizer(...)`. -/
def new (propertyId : String) (propertyPub : PublicKey) : ConnectedRoomAuthorizer :=
  ⟨propertyId, propertyPub, .new challengeTtlSeconds⟩

/-- `begin_command`. -/
def beginCommand (c : ConnectedRoomAuthorizer) (now : Int) (nonce : Bytes) :
    Bytes × ConnectedRoomAuthorizer :=
  let r := c.challenges.issue now nonce
  (r.1, { c with challenges := r.2 })

/-- `authorize`. -/
def authorize (c : ConnectedRoomAuthorizer) (db : Db) (roomId : Int) (command : String)
    (token : PyStr) (challenge response : Bytes) (now : Int) :
    Except PyError Decision × ConnectedRoomAuthorizer :=
  if command ∉ allowedDevices then (.ok (.deny .badCommand none), c)
  else
    match evaluateStatic E token c.propertyPub c.propertyId roomId now
        (db.revocationList.map py).toFinset with
    | .error e => (.error e, c)
    | .ok (.deny d) => (.ok d, c)
    | .ok (.pass payload) =>
      match isActiveStay E db payload roomId with
      | .error e => (.error e, c)
      | .ok false => (.ok (.deny .notActiveStay (payloadKeyId E payload)), c)
      | .ok true =>
        let r := presentChallenge E c.challenges (payloadKeyId E payload) (payloadDevicePub payload)
          challenge response now
        (r.1, { c with challenges := r.2 })

end ConnectedRoomAuthorizer

end StayKey.Service
