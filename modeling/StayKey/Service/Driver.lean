/-
StayKey.Service.Driver — the verifiers, through the database driver.

The statements of the tables are run through the driver in `Store.Driver`.
Two queries of the verifiers bind the id of a room as well, one that no row
was matched with before: the active assignment of the room a command is
for, and the room row of a lock that is not registered yet. Both are
reached with whatever id the request names. Here the two endpoints are
served through the driver; on the ids it takes they are the definitions of
`Service.ConnectedRoom` and `Service.Api`.
-/
import StayKey.Service.Api
import StayKey.Store.Driver

namespace StayKey.Service

open StayKey.Codec StayKey.Door StayKey.Store

variable (E : Env)

namespace ConnectedRoomAuthorizer

/-- The command is one, and the static checks hold: the room is looked up. -/
def looksUp (c : ConnectedRoomAuthorizer) (db : Db) (roomId : Int) (command : String) (token : PyStr)
    (now : Int) : Bool :=
  decide (command ∈ allowedDevices) &&
    match evaluateStatic E token c.propertyPub c.propertyId roomId now
      (db.revocationList.map py).toFinset with
    | .ok (.pass _) => true
    | _ => false

/-- `authorize`, through the driver: `active_assignment_for_room` is the
first query that binds the room id. -/
def authorizeBound (c : ConnectedRoomAuthorizer) (db : Db) (roomId : Int) (command : String)
    (token : PyStr) (challenge response : Bytes) (now : Int) :
    Except PyError Decision × ConnectedRoomAuthorizer :=
  if c.looksUp E db roomId command token now && !decide (Bindable roomId) then (.error .overflowError, c)
  else c.authorize E db roomId command token challenge response now

theorem authorizeBound_eq {roomId : Int} (h : Bindable roomId) (c : ConnectedRoomAuthorizer) (db : Db)
    (command : String) (token : PyStr) (challenge response : Bytes) (now : Int) :
    c.authorizeBound E db roomId command token challenge response now
      = c.authorize E db roomId command token challenge response now := by
  rw [authorizeBound, decide_eq_true h, Bool.not_true, Bool.and_false, if_neg Bool.false_ne_true]

end ConnectedRoomAuthorizer

/-- `lock_unlock`, through the driver: `sync_lock` asks for the room of a
lock that is not registered. -/
def lockUnlockBound (roomId : Int) (body : UnlockIn) (clock : Int) (s : AppState) :
    Except Exc Answer × AppState :=
  if (s.locks.get? roomId).isNone && !decide (Bindable roomId) then (.error (.py .overflowError), s)
  else lockUnlock E roomId body clock s

/-- `room_control`, through the driver. -/
def roomControlBound (roomId : Int) (body : ControlIn) (clock : Int) (s : AppState) :
    Except Exc Answer × AppState :=
  match presented body.challengeB64 body.responseB64 with
  | .error e => (.error (.py e), s)
  | .ok (challenge, response) =>
    let u := s.connected.authorizeBound E s.db roomId body.command body.token challenge response
      (nowOr body.now clock)
    (escape (u.1.map (.control · body.command)), { s with connected := u.2 })

/-- **On the ids the driver takes** the two endpoints are those of `handle`. -/
theorem endpoints_bound {roomId : Int} (h : Bindable roomId) (clock : Int) (s : AppState) :
    (∀ body, lockUnlockBound E roomId body clock s = lockUnlock E roomId body clock s) ∧
      ∀ body, roomControlBound E roomId body clock s = roomControl E roomId body clock s := by
  constructor
  · intro body
    rw [lockUnlockBound, decide_eq_true h, Bool.not_true, Bool.and_false, if_neg Bool.false_ne_true]
  · intro body
    rw [roomControlBound, roomControl]
    cases presented body.challengeB64 body.responseB64 with
    | error e => rfl
    | ok p => simp only [ConnectedRoomAuthorizer.authorizeBound_eq E h]

end StayKey.Service
