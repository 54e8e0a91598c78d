/-
StayKey.Service.Concurrent — requests that are served at the same time.

A request is a program (`requestProgram`) over the statements of the
database, the registry of locks and the verifiers, in the order of its
handler. Served alone it does what `handle` says (`requestProgram_run`);
requests that are served together take turns (`Program.Schedule`).

A statement is one access to what the requests share: a statement on the
database, a look-up in the registry, the static checks of a presentation,
one `check` or one `consume` of a challenge. So a revocation list can be
delivered to a lock after a newer one, and between the check of a challenge
and its consumption there can be statements of other requests.

`lock_for` is one statement here, so the registry never replaces a lock, and
a lock is referred to by its room. In the source its look-up, its reads and
its store are apart, and of two locks that are made for a room one replaces
the other: `Service.LockObjects` takes it apart.
-/
import StayKey.Program.Schedule
import StayKey.Service.Api
import StayKey.Service.Verifiers

namespace StayKey.Service

open StayKey.Codec StayKey.Door StayKey.Store StayKey.Program

/-! ## Statements -/

inductive ApiStmt where
  | store (op : Stmt)
  | lockFor (roomId : Int)
  | syncRevocations (roomId : Int) (revoked : List String)
  | lockStatic (roomId : Int) (token : PyStr) (now : Int)
  | connectedStatic (roomId : Int) (token : PyStr) (now : Int) (revoked : List String)
  | activeAssignment (roomId : Int)
  | stayByText (stayId : PyStr)
  | issue (v : Verifier Int) (now : Int) (nonce : Bytes)
  | check (v : Verifier Int) (challenge : Bytes) (now : Int)
  | consume (v : Verifier Int) (challenge : Bytes) (now : Int)

/-- What a statement returns. -/
@[reducible] def ApiStmt.Res : ApiStmt → Type
  | .store op => op.Res
  | .lockFor _ | .syncRevocations .. | .consume .. => Unit
  | .lockStatic .. | .connectedStatic .. => StaticResult
  | .activeAssignment _ => Option AssignmentRow
  | .stayByText _ => Option StayRow
  | .issue .. => Bytes
  | .check .. => ChallengeStatus

abbrev ApiCall (α : Type) := Prog ApiStmt ApiStmt.Res Exc α

/-- A program of one statement. -/
def ApiStmt.call (op : ApiStmt) : ApiCall op.Res := .call op .ret

/-- A program on the database, within a request. -/
def onStore {α : Type} : Call α → ApiCall α
  | .ret a => .ret a
  | .throw e => .throw e
  | .call op k => .call (.store op) fun r => onStore (k r)

variable (E : Env)

namespace AppState

/-- The challenge store of a verifier. -/
def challenges (s : AppState) : Verifier Int → ChallengeStore
  | .lock roomId => (s.lockFor E roomId).1.challenges
  | .connected => s.connected.challenges

def setChallenges (s : AppState) (v : Verifier Int) (store : ChallengeStore) : AppState :=
  match v with
  | .lock roomId =>
    let r := s.lockFor E roomId
    r.2.setLock roomId { r.1 with challenges := store }
  | .connected => { s with connected := { s.connected with challenges := store } }

end AppState

/-- The meaning of a statement. -/
def execApi : (op : ApiStmt) → AppState → Except Exc op.Res × AppState
  | .store op, s =>
    let r := exec op s.db
    (r.1, { s with db := r.2 })
  | .lockFor roomId, s => (.ok (), (s.lockFor E roomId).2)
  | .syncRevocations roomId revoked, s =>
    let r := s.lockFor E roomId
    (.ok (), r.2.setLock roomId (r.1.syncRevocations (revoked.map py)))
  | .lockStatic roomId token now, s =>
    let l := (s.lockFor E roomId).1
    (escape (evaluateStatic E token l.propertyPub l.propertyId l.roomId now l.revoked), s)
  | .connectedStatic roomId token now revoked, s =>
    (escape (evaluateStatic E token s.connected.propertyPub s.connected.propertyId roomId now
      (revoked.map py).toFinset), s)
  | .activeAssignment roomId, s => (.ok (s.db.activeAssignmentForRoom roomId), s)
  | .stayByText stayId, s => (escape (getStayByText s.db stayId), s)
  | .issue v now nonce, s =>
    let r := (s.challenges E v).issue now nonce
    (.ok r.1, s.setChallenges E v r.2)
  | .check v challenge now, s => (.ok ((s.challenges E v).check challenge now), s)
  | .consume v challenge now, s =>
    (.ok (), s.setChallenges E v ((s.challenges E v).consume challenge now))

/-! ## Programs -/

/-- `sync_lock`: the list is read, and then delivered. -/
def syncLockCall (roomId : Int) : ApiCall Unit := do
  ApiStmt.call (.lockFor roomId)
  let revoked ← ApiStmt.call (.store .revocationList)
  ApiStmt.call (.syncRevocations roomId revoked)

def syncRoomCall : Option Int → ApiCall Unit
  | some roomId => syncLockCall roomId
  | none => return ()

/-- Steps 2 to 4 of `finish_unlock`, and step 3 of `authorize`. -/
def presentCall (v : Verifier Int) (keyId : PyStr) (devicePub : Json) (challenge response : Bytes)
    (now : Int) : ApiCall Decision := do
  match ← ApiStmt.call (.check v challenge now) with
  | .replayed => return .deny .replayed keyId
  | .unknown => return .deny .unknownChallenge keyId
  | .ok =>
    match verifyDeviceResponse E devicePub challenge response with
    | .error e => .throw (.py e)
    | .ok false => return .deny .badResponse keyId
    | .ok true => do
      ApiStmt.call (.consume v challenge now)
      return .unlock keyId

/-- `finish_unlock`. -/
def finishUnlockCall (roomId : Int) (token : PyStr) (challenge response : Bytes) (now : Int) :
    ApiCall Decision := do
  match ← ApiStmt.call (.lockStatic roomId token now) with
  | .deny d => return d
  | .pass payload =>
    presentCall E (.lock roomId) (payloadKeyId E payload) (payloadDevicePub payload) challenge response now

/-- Step 2 of `authorize`. -/
def isActiveStayCall (payload : JsonDict) (roomId : Int) : ApiCall Bool := do
  let assignment ← ApiStmt.call (.activeAssignment roomId)
  match dictGet? payload (py "stay_id") with
  | none => .throw (.py .keyError)
  | some stayId => do
    match assignment, ← ApiStmt.call (.stayByText (pyStr E.py stayId)) with
    | some assignment, some stay =>
      if !eqStr stayId (py assignment.stayId) then return false
      else if stay.status ≠ .checkedIn then return false
      else
        match stay.roomId with
        | some room => return room = roomId
        | none => .throw (.py .typeError)
    | _, _ => return false

/-- `authorize`. -/
def authorizeCall (roomId : Int) (command : String) (token : PyStr) (challenge response : Bytes)
    (now : Int) : ApiCall Decision := do
  if command ∉ allowedDevices then return .deny .badCommand none
  else do
    let revoked ← ApiStmt.call (.store .revocationList)
    match ← ApiStmt.call (.connectedStatic roomId token now revoked) with
    | .deny d => return d
    | .pass payload => do
      if ← isActiveStayCall E payload roomId then
        presentCall E .connected (payloadKeyId E payload) (payloadDevicePub payload) challenge response now
      else return .deny .notActiveStay (payloadKeyId E payload)

/-- `lock_unlock`. -/
def lockUnlockCall (roomId : Int) (body : UnlockIn) (clock : Int) : ApiCall Answer := do
  syncLockCall roomId
  ApiStmt.call (.lockFor roomId)
  match presented body.challengeB64 body.responseB64 with
  | .error e => .throw (.py e)
  | .ok (challenge, response) => do
    return .decision (← finishUnlockCall E roomId body.token challenge response (nowOr body.now clock))

/-- `room_control`. -/
def roomControlCall (roomId : Int) (body : ControlIn) (clock : Int) : ApiCall Answer :=
  match presented body.challengeB64 body.responseB64 with
  | .error e => .throw (.py e)
  | .ok (challenge, response) => do
    let d ← authorizeCall E roomId body.command body.token challenge response (nowOr body.now clock)
    return .control d body.command

/-- The program of a request. -/
def requestProgram (propertyId : String) (sk : PrivateKey) (r : Request × Draw) : ApiCall Answer :=
  let draw := r.2
  match r.1 with
  | .createGuest body => do
    onStore (Stmt.call (.addGuest ("g_" ++ draw.guestHex) body.name body.email))
    return .guestCreated ("g_" ++ draw.guestHex)
  | .createRoom body => do
    onStore (Stmt.call (.addRoom body.roomId (strOr body.propertyId propertyId) body.number
      body.roomType))
    return .roomCreated body.roomId
  | .reserve body => do
    let r ← onStore (reserve propertyId body draw)
    return .reserved r.1 r.2.1 r.2.2
  | .checkin stayId => do
    return .key (← onStore (Store.checkin E sk stayId (nowOr none draw.clock) draw.fresh))
  | .refresh stayId => do
    return .key (← onStore (Store.refreshKey E sk stayId (nowOr none draw.clock) draw.fresh))
  | .checkout stayId => do
    let (revoked, roomId) ← onStore (checkoutRequest stayId (nowOr none draw.clock))
    syncRoomCall roomId
    return .checkedOut revoked roomId
  | .roomChange stayId body => do
    let (oldRoom, newRoom, revoked, key) ← onStore (roomChangeRequest E sk stayId
      (nowOr body.now draw.clock) body.newRoomId draw.fresh)
    syncRoomCall oldRoom
    syncLockCall newRoom
    return .roomChanged newRoom revoked key
  | .revocations => do return .revocations (← ApiStmt.call (.store .revocationList))
  | .lockChallenge roomId => do
    ApiStmt.call (.lockFor roomId)
    let challenge ← ApiStmt.call (.issue (.lock roomId) (nowOr none draw.clock) draw.nonce)
    return .challenge (b64uEncode challenge)
  | .lockUnlock roomId body => lockUnlockCall E roomId body draw.clock
  | .roomChallenge _ => do
    let challenge ← ApiStmt.call (.issue .connected (nowOr none draw.clock) draw.nonce)
    return .challenge (b64uEncode challenge)
  | .roomControl roomId body => roomControlCall E roomId body draw.clock

/-! ## Runs -/

/-- Requests that are being served: what is left of each, and the state. -/
abbrev Serving (ι : Type) := Threads ι ApiStmt ApiStmt.Res Exc Answer AppState

abbrev ServingTurn (ι : Type) := Turn ι ApiStmt ApiStmt.Res Exc Answer AppState

/-- A new service and the requests it will get. -/
def Serving.start {ι : Type} (propertyId : String) (sk : PrivateKey) (req : ι → Request × Draw) :
    Serving ι :=
  ⟨fun i => requestProgram E propertyId sk (req i), .new E propertyId sk⟩

/-- The runs of a new service in which it is served these requests, their
turns in any order. -/
abbrev ServingRun {ι : Type} [DecidableEq ι] (propertyId : String) (sk : PrivateKey)
    (req : ι → Request × Draw) : List (ServingTurn ι) → Serving ι → Prop :=
  Schedule (execApi E) (Serving.start E propertyId sk req)

end StayKey.Service
