/-
StayKey.Service.LockObjects — the registry of locks, and the objects in it.

`lock_for` looks the room up in `_locks`; if there is no lock, it reads the
room and the revocation list, makes a lock and stores it. Requests run on
threads, so each of these is a turn of its own: two requests that find no
lock make two, and the one that is stored last replaces the other. A request
keeps the lock it was given, in the registry or not.

`Service.Concurrent` has `lock_for` in one turn, and names a lock by its
room. Here a lock is an object with a reference, and the programs of the
requests are taken apart further (`withLocks`): `lock_for` is the look-up,
the two reads and the store (`lockForCall`), and what a request does with
the lock of a room it does with the object that its last `lock_for`
returned.
-/
import StayKey.Service.ChallengeRace

namespace StayKey.Service

open StayKey.Codec StayKey.Door StayKey.Store StayKey.Program

/-! ## Objects -/

/-- The state of a process: the locks of `app` are the lock objects, by
reference, and `registry` is `_locks`. -/
structure Memory where
  app : AppState
  registry : Dict Int Int

/-- A reference that no object has. -/
def freshRef (objects : Dict Int LockVerifier) : Int :=
  objects.entries.foldr (fun e ref => max (e.1 + 1) ref) 0

/-- The verifier, if the lock of a room is the object that is held for it. -/
def Verifier.object (held : Int → Int) : Verifier Int → Verifier Int
  | .lock roomId => .lock (held roomId)
  | .connected => .connected

/-- The statement, at the objects that are held for the rooms. -/
def ApiStmt.atObjects (held : Int → Int) : ApiStmt → ApiStmt
  | .store op => .store op
  | .lockFor roomId => .lockFor roomId
  | .syncRevocations roomId revoked => .syncRevocations (held roomId) revoked
  | .lockStatic roomId token now => .lockStatic (held roomId) token now
  | .connectedStatic roomId token now revoked => .connectedStatic roomId token now revoked
  | .activeAssignment roomId => .activeAssignment roomId
  | .stayByText stayId => .stayByText stayId
  | .issue v now nonce => .issue (v.object held) now nonce
  | .check v challenge now => .check (v.object held) challenge now
  | .consume v challenge now => .consume (v.object held) challenge now

theorem ApiStmt.res_atObjects (held : Int → Int) (op : ApiStmt) : (op.atObjects held).Res = op.Res := by
  cases op <;> rfl

/-! ## Statements -/

/-- A statement of `Service.Concurrent` but `lock_for`, or a part of
`lock_for`: the look-up in `_locks`, and the store of a new lock there. -/
inductive MemStmt where
  | api (op : ApiStmt)
  | registered (roomId : Int)
  | register (roomId : Int) (room : Option RoomRow) (revoked : List String)

/-- What a statement returns. -/
@[reducible] def MemStmt.Res : MemStmt → Type
  | .api op => op.Res
  | .registered _ => Option Int
  | .register .. => Int

abbrev MemCall (α : Type) := Prog MemStmt MemStmt.Res Exc α

/-- A program of one statement. -/
def MemStmt.call (op : MemStmt) : MemCall op.Res := .call op .ret

variable (E : Env)

/-- The meaning of a statement. -/
def execMem : (op : MemStmt) → Memory → Except Exc op.Res × Memory
  | .api op, m =>
    let r := execApi E op m.app
    (r.1, { m with app := r.2 })
  | .registered roomId, m => (.ok (m.registry.get? roomId), m)
  | .register roomId room revoked, m =>
    let prop := match room with
      | some room => room.propertyId
      | none => m.app.propertyId
    let ref := freshRef m.app.locks
    (.ok ref,
      { app := m.app.setLock ref (.new prop roomId (m.app.propertyPub E) (revoked.map py))
        registry := m.registry.set roomId ref })

/-! ## Programs -/

/-- `lock_for`. -/
def lockForCall (roomId : Int) : MemCall Int := do
  match ← MemStmt.call (.registered roomId) with
  | some ref => return ref
  | none => do
    let room ← MemStmt.call (.api (.store (.getRoom roomId)))
    let revoked ← MemStmt.call (.api (.store .revocationList))
    MemStmt.call (.register roomId room revoked)

/-- The program of a request that holds these objects for the rooms. -/
def withLocks {α : Type} (held : Int → Int) : ApiCall α → MemCall α
  | .ret a => .ret a
  | .throw e => .throw e
  | .call (.lockFor roomId) k =>
    lockForCall roomId >>= fun ref => withLocks (Function.update held roomId ref) (k ())
  | .call op k =>
    .call (.api (op.atObjects held)) fun r => withLocks held (k (cast (op.res_atObjects held) r))

/-- The statement is not `lock_for`. -/
def ApiStmt.AsksNoLock : ApiStmt → Prop
  | .lockFor _ => False
  | _ => True

theorem withLocks_call {α : Type} {op : ApiStmt} (hop : op.AsksNoLock) (held : Int → Int)
    (k : op.Res → ApiCall α) : withLocks held (.call op k) =
      .call (.api (op.atObjects held)) fun r => withLocks held (k (cast (op.res_atObjects held) r)) := by
  cases op with
  | lockFor => exact hop.elim
  | _ => rfl

/-- A look-up in the registry, and what is done with the lock. -/
theorem withLocks_lockFor {α : Type} (held : Int → Int) (roomId : Int) (k : Unit → ApiCall α) :
    withLocks held (.call (.lockFor roomId) k) =
      lockForCall roomId >>= fun ref => withLocks (Function.update held roomId ref) (k ()) := rfl

/-- What is left of `lock_challenge` when it has its lock. -/
def challengeAt (ref : Int) (draw : Draw) : MemCall Answer := do
  let challenge : Bytes ← MemStmt.call (.api (.issue (.lock ref) (nowOr none draw.clock) draw.nonce))
  return .challenge (b64uEncode challenge)

/-- `lock_challenge`. -/
theorem withLocks_lockChallenge (propertyId : String) (sk : PrivateKey) (roomId : Int) (draw : Draw)
    (held : Int → Int) : withLocks held (requestProgram E propertyId sk (.lockChallenge roomId, draw))
      = lockForCall roomId >>= fun ref => challengeAt ref draw := by
  refine congrArg (lockForCall roomId >>= ·) (funext fun ref => ?_)
  show Prog.call (MemStmt.api (.issue (.lock (Function.update held roomId ref roomId)) _ _)) _ = _
  rw [Function.update_self]
  rfl

/-! ## Runs -/

/-- Requests that are being served by a process: what is left of each, and
the memory. -/
abbrev MemServing (ι : Type) := Threads ι MemStmt MemStmt.Res Exc Answer Memory

abbrev MemTurn (ι : Type) := Turn ι MemStmt MemStmt.Res Exc Answer Memory

/-- A process that has no lock yet. -/
def Serving.objects {ι : Type} (s : Serving ι) : MemServing ι :=
  ⟨fun i => withLocks (fun _ => 0) (s.prog i), ⟨s.shared, .empty⟩⟩

/-- The runs of a new service in which it is served these requests, their
turns in any order. -/
abbrev MemServingRun {ι : Type} [DecidableEq ι] (propertyId : String) (sk : PrivateKey)
    (req : ι → Request × Draw) : List (MemTurn ι) → MemServing ι → Prop :=
  Schedule (execMem E) (Serving.start E propertyId sk req).objects

end StayKey.Service
