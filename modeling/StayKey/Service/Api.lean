/-
StayKey.Service.Api — `app_state.py`, `api.py` and `models.py`: the state of
the application and the requests the service answers.

The state has the property key, the database, the registry of simulated
locks and the connected-room authorizer. A lock is created in the registry
when it is first asked for, with the property of its room and the
revocation list of that moment.

A body that pydantic accepts is a structure with the constraints as fields,
so a body that violates one cannot be built. A request is handled from the
state of the application to an answer, or an exception, and the next state;
the handlers that write the database run the programs of `Store.Calls`.
What a handler takes from the clock and from the random sources is in
`Draw`.

An exception of the domain is answered with an error envelope; its status
code is in `Service.Http`.
-/
import StayKey.Program.History
import StayKey.Service.ConnectedRoom
import StayKey.Store.Calls

namespace StayKey.Service

open StayKey.Codec StayKey.Door StayKey.Store StayKey.Program

/-! ## The state of the application -/

structure AppState where
  propertyId : String
  propertySk : PrivateKey
  locks : Dict Int LockVerifier
  connected : ConnectedRoomAuthorizer
  db : Db

namespace AppState

variable (E : Env)

/-- `AppState(...)` on a new database file. -/
def new (propertyId : String) (propertySk : PrivateKey) : AppState where
  propertyId := propertyId
  propertySk := propertySk
  locks := .empty
  connected := .new propertyId (E.ed.publicKey propertySk)
  db := .empty

/-- `property_pub_raw`. -/
def propertyPub (s : AppState) : PublicKey := E.ed.publicKey s.propertySk

/-- The revocation list, as locks and the authorizer hold it. -/
def revocationTexts (s : AppState) : List PyStr := s.db.revocationList.map py

/-- Put a lock into the registry. -/
def setLock (s : AppState) (roomId : Int) (lock : LockVerifier) : AppState :=
  { s with locks := s.locks.set roomId lock }

/-- `lock_for`. -/
def lockFor (s : AppState) (roomId : Int) : LockVerifier × AppState :=
  match s.locks.get? roomId with
  | some lock => (lock, s)
  | none =>
    let prop := match s.db.getRoom roomId with
      | some room => room.propertyId
      | none => s.propertyId
    let lock := LockVerifier.new prop roomId (s.propertyPub E) s.revocationTexts
    (lock, s.setLock roomId lock)

/-- `sync_lock`. -/
def syncLock (s : AppState) (roomId : Int) : AppState :=
  let r := s.lockFor E roomId
  r.2.setLock roomId (r.1.syncRevocations s.revocationTexts)

/-- Run a program on the database. -/
def run {α : Type} (s : AppState) (p : Call α) : Except Exc α × AppState :=
  let r := p.run s.db
  (r.1, { s with db := r.2 })

end AppState

/-! ## Bodies -/

structure GuestIn where
  name : String
  email : String
  nameLength : 1 ≤ name.length ∧ name.length ≤ 200
  emailLength : 3 ≤ email.length ∧ email.length ≤ 320

structure RoomIn where
  roomId : Int
  number : String
  roomType : String
  propertyId : Option String
  roomIdPos : 0 < roomId
  numberLength : 1 ≤ number.length ∧ number.length ≤ 20
  roomTypeLength : 1 ≤ roomType.length ∧ roomType.length ≤ 40

structure ReservationIn where
  guestId : Option String
  guest : Option GuestIn
  roomType : String
  checkIn : Int
  checkOut : Int
  preferredRoomId : Option Int
  roomTypeLength : 1 ≤ roomType.length ∧ roomType.length ≤ 40
  checkInPos : 0 < checkIn
  checkOutPos : 0 < checkOut
  /-- The validator `_window`. -/
  window : checkIn < checkOut

structure RoomChangeIn where
  now : Option Int
  newRoomId : Option Int

structure UnlockIn where
  now : Option Int
  token : PyStr
  challengeB64 : PyStr
  responseB64 : PyStr

structure ControlIn where
  now : Option Int
  token : PyStr
  challengeB64 : PyStr
  responseB64 : PyStr
  command : String
  commandLength : 1 ≤ command.length ∧ command.length ≤ 40

/-! ## Requests and answers -/

inductive Request where
  | createGuest (body : GuestIn)
  | createRoom (body : RoomIn)
  | reserve (body : ReservationIn)
  | checkin (stayId : String)
  | refresh (stayId : String)
  | checkout (stayId : String)
  | roomChange (stayId : String) (body : RoomChangeIn)
  | revocations
  | lockChallenge (roomId : Int)
  | lockUnlock (roomId : Int) (body : UnlockIn)
  | roomChallenge (roomId : Int)
  | roomControl (roomId : Int) (body : ControlIn)

/-- What one request takes from its surroundings: `int(time.time())`, the
twelve digits of a new guest and of a new stay, what issuing a key draws,
and a challenge nonce. -/
structure Draw where
  clock : Int
  guestHex : String
  stayHex : String
  fresh : Fresh
  nonce : Bytes

/-- The data of an envelope. -/
inductive Answer where
  | guestCreated (guestId : String)
  | roomCreated (roomId : Int)
  | reserved (stayId guestId : String) (roomId : Int)
  | key (key : IssuedKey)
  | checkedOut (revokedKeyIds : List String) (syncedRoom : Option Int)
  | roomChanged (newRoomId : Int) (revokedKeyIds : List String) (key : IssuedKey)
  | revocations (revokedKeyIds : List String)
  | challenge (challengeB64 : PyStr)
  | decision (d : Decision)
  | control (d : Decision) (command : String)

/-- `_now`. -/
def nowOr (override : Option Int) (clock : Int) : Int := override.getD clock

/-! ## Programs of the handlers -/

/-- The guest of a reservation: the one named, else a new one. -/
def reservationGuest (body : ReservationIn) (draw : Draw) : Call String :=
  match body.guestId with
  | some guestId => do
    if ← Stmt.call (.guestExists guestId) then return guestId
    else raise (.notFound s!"guest {guestId} not found")
  | none =>
    match body.guest with
    | none => raise (.validation "provide guest_id or guest")
    | some guest => do
      Stmt.call (.addGuest ("g_" ++ draw.guestHex) guest.name guest.email)
      return "g_" ++ draw.guestHex

/-- `reserve`. -/
def reserve (propertyId : String) (body : ReservationIn) (draw : Draw) :
    Call (String × String × Int) := do
  let guestId ← reservationGuest body draw
  let stayId := "s_" ++ draw.stayHex
  Stmt.call (.addStay stayId guestId propertyId body.roomType body.checkIn body.checkOut)
  let roomId ← assignRoom stayId body.preferredRoomId
  return (stayId, guestId, roomId)

/-- The database part of `checkout`: the room is read first. -/
def checkoutRequest (stayId : String) (now : Int) : Call (List String × Option Int) := do
  match ← Stmt.call (.getStay stayId) with
  | none => raise (.notFound s!"stay {stayId} not found")
  | some stay => do
    let revoked ← Store.checkout stayId now
    return (revoked, stay.roomId)

variable (E : Env)

/-- The database part of `room_change`, with the room the stay had. -/
def roomChangeRequest (propertySk : PrivateKey) (stayId : String) (now : Int)
    (newRoomId : Option Int) (fresh : Fresh) :
    Call (Option Int × Int × List String × IssuedKey) := do
  match ← Stmt.call (.getStay stayId) with
  | none => raise (.notFound s!"stay {stayId} not found")
  | some stay => do
    let r ← Store.changeRoom E propertySk stayId now newRoomId fresh
    return (stay.roomId, r)

/-! ## Handlers -/

/-- The envelope of a handler that only runs a program. -/
def answer {α : Type} (f : α → Answer) (r : Except Exc α × AppState) :
    Except Exc Answer × AppState :=
  (r.1.map f, r.2)

/-- An exception of the verifier escapes as it is. -/
def escape {α : Type} (r : Except PyError α) : Except Exc α := r.mapError .py

/-- `_sync` of the room a stay had, if it had one. -/
def syncRoom (s : AppState) : Option Int → AppState
  | some roomId => s.syncLock E roomId
  | none => s

/-- The challenge and the response of a presentation; `_b64d` raises on what
is no base64. -/
def presented (challengeB64 responseB64 : PyStr) : Except PyError (Bytes × Bytes) := do
  let challenge ← b64uDecode challengeB64
  let response ← b64uDecode responseB64
  return (challenge, response)

/-- `lock_unlock`: the lock is synced before the presentation is decoded. -/
def lockUnlock (roomId : Int) (body : UnlockIn) (clock : Int) (s : AppState) :
    Except Exc Answer × AppState :=
  let r := (s.syncLock E roomId).lockFor E roomId
  match presented body.challengeB64 body.responseB64 with
  | .error e => (.error (.py e), r.2)
  | .ok (challenge, response) =>
    let u := r.1.finishUnlock E body.token challenge response (nowOr body.now clock)
    (escape (u.1.map .decision), r.2.setLock roomId u.2)

/-- `room_control`. -/
def roomControl (roomId : Int) (body : ControlIn) (clock : Int) (s : AppState) :
    Except Exc Answer × AppState :=
  match presented body.challengeB64 body.responseB64 with
  | .error e => (.error (.py e), s)
  | .ok (challenge, response) =>
    let u := s.connected.authorize E s.db roomId body.command body.token challenge response
      (nowOr body.now clock)
    (escape (u.1.map (.control · body.command)), { s with connected := u.2 })

/-- Handle one request. -/
def handle (r : Request × Draw) (s : AppState) : Except Exc Answer × AppState :=
  let draw := r.2
  match r.1 with
  | .createGuest body =>
    answer (fun _ => .guestCreated ("g_" ++ draw.guestHex))
      (s.run (Stmt.call (.addGuest ("g_" ++ draw.guestHex) body.name body.email)))
  | .createRoom body =>
    answer (fun _ => .roomCreated body.roomId)
      (s.run (Stmt.call (.addRoom body.roomId (strOr body.propertyId s.propertyId) body.number
        body.roomType)))
  | .reserve body =>
    answer (fun r => .reserved r.1 r.2.1 r.2.2) (s.run (reserve s.propertyId body draw))
  | .checkin stayId =>
    answer .key (s.run (Store.checkin E s.propertySk stayId (nowOr none draw.clock) draw.fresh))
  | .refresh stayId =>
    answer .key (s.run (Store.refreshKey E s.propertySk stayId (nowOr none draw.clock) draw.fresh))
  | .checkout stayId =>
    match s.run (checkoutRequest stayId (nowOr none draw.clock)) with
    | (.error e, s) => (.error e, s)
    | (.ok (revoked, roomId), s) => (.ok (.checkedOut revoked roomId), syncRoom E s roomId)
  | .roomChange stayId body =>
    match s.run (roomChangeRequest E s.propertySk stayId (nowOr body.now draw.clock) body.newRoomId
      draw.fresh) with
    | (.error e, s) => (.error e, s)
    | (.ok (oldRoom, newRoom, revoked, key), s) =>
      (.ok (.roomChanged newRoom revoked key), (syncRoom E s oldRoom).syncLock E newRoom)
  | .revocations => (.ok (.revocations s.db.revocationList), s)
  | .lockChallenge roomId =>
    let r := s.lockFor E roomId
    let c := r.1.beginUnlock (nowOr none draw.clock) draw.nonce
    (.ok (.challenge (b64uEncode c.1)), r.2.setLock roomId c.2)
  | .lockUnlock roomId body => lockUnlock E roomId body draw.clock s
  | .roomChallenge _ =>
    let c := s.connected.beginCommand (nowOr none draw.clock) draw.nonce
    (.ok (.challenge (b64uEncode c.1)), { s with connected := c.2 })
  | .roomControl roomId body => roomControl E roomId body draw.clock s

/-! ## Runs -/

abbrev ApiEntry := Entry (Request × Draw) (Except Exc Answer) AppState

/-- The runs of a new service. -/
abbrev ApiHistory (propertyId : String) (propertySk : PrivateKey) :
    List ApiEntry → AppState → Prop :=
  History (handle E) (AppState.new E propertyId propertySk)

end StayKey.Service
