/-
StayKey.Store.Calls — `reservation.py`, `keys.py`, `lifecycle.py` and the
check-in handler of `api.py`: the calls that book a room, issue a key and
move a stay through its life.

Each is a program over the statements of `Store.Db`, in the order of the
source. Only the two blocks inside `BEGIN IMMEDIATE` are transactions; all
other statements are committed one by one, so a call that raises halfway
leaves behind what it has written so far.

What a call draws at random (a key id, a device key, a nonce) is its
argument `fresh`.
-/
import StayKey.Store.Db
import StayKey.Door.Credential

namespace StayKey.Store

open StayKey.Codec StayKey.Door StayKey.Program

variable (E : Env)

/-! ## `reservation` -/

/-- `assign_room`. -/
def assignRoom (stayId : String) (preferredRoomId : Option Int) : Call Int := do
  match ← Stmt.call (.getStay stayId) with
  | none => raise (.notFound s!"stay {stayId} not found")
  | some stay =>
    match stay.roomId with
    | some roomId => return roomId
    | none => Stmt.call (.assignTransaction stayId stay preferredRoomId)

/-- `reservation.change_room`. -/
def moveRoom (stayId : String) (newRoomId : Option Int) : Call Int := do
  match ← Stmt.call (.getStay stayId) with
  | none => raise (.notFound s!"stay {stayId} not found")
  | some stay => Stmt.call (.changeTransaction stayId stay newRoomId)

/-! ## `keys` -/

/-- `effective_window`. -/
def effectiveWindow (checkIn checkOut issuedAt : Int) : Int × Int :=
  (checkIn, min checkOut (issuedAt + keyTtlSeconds))

/-- The credential `issue_for_stay` asks for. -/
def stayCredential (stay : StayRow) (stayId : String) (roomId now : Int) (fresh : Fresh) :
    CredentialIn where
  guestId := stay.guestId
  stayId := stayId
  propertyId := stay.propertyId
  roomIds := [roomId]
  validFrom := (effectiveWindow stay.checkIn stay.checkOut now).1
  validUntil := (effectiveWindow stay.checkIn stay.checkOut now).2
  issuedAt := now
  deviceSk := none
  keyId := some fresh.keyId
  nonce := none

/-- The row `issue_for_stay` stores. -/
def stayKeyRow (stay : StayRow) (stayId : String) (roomId now : Int) (issued : IssuedKey) :
    KeyRow where
  keyId := issued.keyId
  stayId := stayId
  roomId := roomId
  issuedAt := now
  validFrom := (effectiveWindow stay.checkIn stay.checkOut now).1
  validUntil := (effectiveWindow stay.checkIn stay.checkOut now).2
  token := issued.token
  active := true

/-- `issue_for_stay`. -/
def issueForStay (propertySk : PrivateKey) (stayId : String) (now : Int) (fresh : Fresh) :
    Call IssuedKey := do
  match ← Stmt.call (.getStay stayId) with
  | none => raise (.notFound s!"stay {stayId} not found")
  | some stay =>
    match stay.roomId with
    | none => raise (.validation "stay has no assigned room; assign a room first")
    | some roomId =>
      let window := effectiveWindow stay.checkIn stay.checkOut now
      if window.2 ≤ window.1 then
        raise (.validation "stay window already elapsed; cannot issue key")
      else
        match issueCredential E propertySk (stayCredential stay stayId roomId now fresh) fresh with
        | .error e => raise e
        | .ok issued => do
          Stmt.call (.addKey (stayKeyRow stay stayId roomId now issued))
          return issued

/-! ## `lifecycle` -/

/-- `deactivate_keys_for_stay`. -/
def deactivateKeysForStay (stayId : String) : Call (List String) := do
  let keyIds ← Stmt.call (.activeKeys stayId)
  Stmt.call (.retireKeys stayId)
  return keyIds

/-- `for key_id in revoked: db.revoke_key(conn, key_id, now, reason)`. -/
def revokeKeys (now : Int) (reason : String) : List String → Call Unit
  | [] => return ()
  | keyId :: rest => do
    Stmt.call (.revokeKey keyId now reason)
    revokeKeys now reason rest

/-- `refresh_key`: the prior keys are deactivated and not revoked. -/
def refreshKey (propertySk : PrivateKey) (stayId : String) (now : Int) (fresh : Fresh) :
    Call IssuedKey := do
  match ← Stmt.call (.getStay stayId) with
  | none => raise (.notFound s!"stay {stayId} not found")
  | some stay =>
    if stay.status = .checkedOut then raise (.stayKey "stay already checked out")
    else do
      Stmt.call (.retireKeys stayId)
      issueForStay E propertySk stayId now fresh

/-- `checkout`: the keys that are active are revoked, the room is freed. -/
def checkout (stayId : String) (now : Int) : Call (List String) := do
  match ← Stmt.call (.getStay stayId) with
  | none => raise (.notFound s!"stay {stayId} not found")
  | some _ => do
    let revoked ← deactivateKeysForStay stayId
    revokeKeys now "checkout" revoked
    Stmt.call (.retireAssignments stayId)
    Stmt.call (.setStayStatus stayId .checkedOut)
    return revoked

/-- `lifecycle.change_room`. -/
def changeRoom (propertySk : PrivateKey) (stayId : String) (now : Int) (newRoomId : Option Int)
    (fresh : Fresh) : Call (Int × List String × IssuedKey) := do
  match ← Stmt.call (.getStay stayId) with
  | none => raise (.notFound s!"stay {stayId} not found")
  | some stay =>
    if stay.status = .checkedOut then raise (.stayKey "stay already checked out")
    else do
      let revoked ← deactivateKeysForStay stayId
      revokeKeys now "room_change" revoked
      let newRoom ← moveRoom stayId newRoomId
      let issued ← issueForStay E propertySk stayId now fresh
      return (newRoom, revoked, issued)

/-! ## `api`: check-in -/

/-- The body of the check-in handler: the status is set first. -/
def checkin (propertySk : PrivateKey) (stayId : String) (now : Int) (fresh : Fresh) :
    Call IssuedKey := do
  match ← Stmt.call (.getStay stayId) with
  | none => raise (.notFound s!"stay {stayId} not found")
  | some _ => do
    Stmt.call (.setStayStatus stayId .checkedIn)
    issueForStay E propertySk stayId now fresh

end StayKey.Store
