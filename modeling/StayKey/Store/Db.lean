/-
StayKey.Store.Db — `db.py` and the two transactions of `reservation.py`:
the tables and the statements the code runs on them.

A statement (`Stmt`) is what SQLite executes atomically: a single
autocommitted statement, or a whole `BEGIN IMMEDIATE … COMMIT` block,
which is rolled back when its body raises. `exec` is its meaning. The
programs that run them one after another are in `Store.Calls`. A query
without ORDER BY, to which SQL promises no order, answers in the order of
insertion.

A `Db` satisfies the primary keys by construction (`Table`). A statement
that would break one of them, or a foreign key, raises
`sqlite3.IntegrityError` and changes nothing. Integers are unbounded here:
the driver, which refuses to bind one beyond 64 bits, is in `Store.Driver`.
-/
import StayKey.Door.Errors
import StayKey.Program.Calendar
import StayKey.Program.Prog
import StayKey.Program.Table
import Mathlib.Data.List.Sort

namespace StayKey.Store

open StayKey.Codec StayKey.Door StayKey.Program

/-! ## Rows -/

inductive StayStatus where
  | reserved
  | checkedIn
  | checkedOut
  deriving DecidableEq, Repr

structure GuestRow where
  guestId : String
  name : String
  email : String
  deriving DecidableEq

structure RoomRow where
  roomId : Int
  propertyId : String
  number : String
  roomType : String
  deriving DecidableEq

structure StayRow where
  stayId : String
  guestId : String
  propertyId : String
  roomType : String
  roomId : Option Int
  checkIn : Int
  checkOut : Int
  status : StayStatus
  deriving DecidableEq

structure AssignmentRow where
  id : Nat
  roomId : Int
  stayId : String
  checkIn : Int
  checkOut : Int
  active : Bool
  deriving DecidableEq

structure KeyRow where
  keyId : String
  stayId : String
  roomId : Int
  issuedAt : Int
  validFrom : Int
  validUntil : Int
  token : PyStr
  active : Bool
  deriving DecidableEq

structure RevocationRow where
  keyId : String
  revokedAt : Int
  reason : String
  deriving DecidableEq

/-- The database. -/
structure Db where
  guests : Table GuestRow String GuestRow.guestId
  rooms : Table RoomRow Int RoomRow.roomId
  stays : Table StayRow String StayRow.stayId
  assignments : Table AssignmentRow Nat AssignmentRow.id
  keys : Table KeyRow String KeyRow.keyId
  revocations : Table RevocationRow String RevocationRow.keyId

namespace Db

/-- `init_db` on a new file. -/
def empty : Db := ⟨.empty, .empty, .empty, .empty, .empty, .empty⟩

/-! ## Single statements -/

def addGuest (db : Db) (guestId name email : String) : Except Exc Db :=
  match db.guests.insert? ⟨guestId, name, email⟩ with
  | none => .error .integrityError
  | some guests => .ok { db with guests }

def addRoom (db : Db) (roomId : Int) (propertyId number roomType : String) : Except Exc Db :=
  match db.rooms.insert? ⟨roomId, propertyId, number, roomType⟩ with
  | none => .error .integrityError
  | some rooms => .ok { db with rooms }

def getRoom (db : Db) (roomId : Int) : Option RoomRow := db.rooms.find? roomId

def addStay (db : Db) (stayId guestId propertyId roomType : String) (checkIn checkOut : Int) :
    Except Exc Db :=
  if (db.guests.find? guestId).isNone then .error .integrityError
  else
    match db.stays.insert? ⟨stayId, guestId, propertyId, roomType, none, checkIn, checkOut,
      .reserved⟩ with
    | none => .error .integrityError
    | some stays => .ok { db with stays }

def getStay (db : Db) (stayId : String) : Option StayRow := db.stays.find? stayId

def setStayStatus (db : Db) (stayId : String) (status : StayStatus) : Db :=
  { db with
    stays := db.stays.updateWhere (fun s => s.stayId = stayId)
      (fun s => { s with status }) fun _ => rfl }

/-- `set_stay_room`, where the room exists. -/
def setStayRoom (db : Db) (stayId : String) (roomId : Int) : Db :=
  { db with
    stays := db.stays.updateWhere (fun s => s.stayId = stayId)
      (fun s => { s with roomId := some roomId }) fun _ => rfl }

/-- `add_key`. -/
def addKey (db : Db) (row : KeyRow) : Except Exc Db :=
  if (db.stays.find? row.stayId).isNone then .error .integrityError
  else
    match db.keys.insert? row with
    | none => .error .integrityError
    | some keys => .ok { db with keys }

/-- `SELECT key_id FROM keys WHERE stay_id=? AND active=1`. -/
def activeKeys (db : Db) (stayId : String) : List String :=
  (db.keys.rows.filter fun k => k.stayId = stayId && k.active).map KeyRow.keyId

/-- `UPDATE keys SET active=0 WHERE stay_id=? AND active=1`. -/
def retireKeys (db : Db) (stayId : String) : Db :=
  { db with
    keys := db.keys.updateWhere (fun k => k.stayId = stayId && k.active)
      (fun k => { k with active := false }) fun _ => rfl }

/-- `revoke_key`: `INSERT OR IGNORE`. -/
def revokeKey (db : Db) (keyId : String) (revokedAt : Int) (reason : String) : Db :=
  match db.revocations.insert? ⟨keyId, revokedAt, reason⟩ with
  | none => db
  | some revocations => { db with revocations }

def revocationList (db : Db) : List String := db.revocations.rows.map RevocationRow.keyId

/-- The row with the greater id of the best so far and the next one. -/
def newer (best : Option AssignmentRow) (a : AssignmentRow) : Option AssignmentRow :=
  match best with
  | none => some a
  | some b => if b.id < a.id then some a else some b

/-- `ORDER BY id DESC LIMIT 1`. -/
def newest (rows : List AssignmentRow) : Option AssignmentRow := rows.foldl newer none

/-- `active_assignment_for_room`. -/
def activeAssignmentForRoom (db : Db) (roomId : Int) : Option AssignmentRow :=
  newest (db.assignments.rows.filter fun a => a.roomId = roomId && a.active)

/-- `UPDATE assignments SET active=0 WHERE stay_id=? AND active=1`. -/
def retireAssignments (db : Db) (stayId : String) : Db :=
  { db with
    assignments := db.assignments.updateWhere (fun a => a.stayId = stayId && a.active)
      (fun a => { a with active := false }) fun _ => rfl }

/-- `UPDATE assignments SET active=1 WHERE stay_id=? AND room_id=?`. -/
def restoreAssignments (db : Db) (stayId : String) (roomId : Option Int) : Db :=
  { db with
    assignments := db.assignments.updateWhere (fun a => a.stayId = stayId && some a.roomId = roomId)
      (fun a => { a with active := true }) fun _ => rfl }

/-- The next value of the `AUTOINCREMENT` column: no row is ever deleted. -/
def nextId (db : Db) : Nat := (db.assignments.rows.map AssignmentRow.id).foldl max 0 + 1

theorem le_foldl_max (l : List Nat) : ∀ m, m ≤ l.foldl max m ∧ ∀ n ∈ l, n ≤ l.foldl max m := by
  induction l with
  | nil => intro m; exact ⟨le_refl m, by simp⟩
  | cons x l ih =>
    intro m
    obtain ⟨hm, hl⟩ := ih (max m x)
    refine ⟨(le_max_left m x).trans hm, fun n hn => ?_⟩
    rcases List.mem_cons.mp hn with rfl | hn
    · exact (le_max_right m n).trans hm
    · exact hl n hn

theorem id_lt_nextId {db : Db} {a : AssignmentRow} (h : a ∈ db.assignments) : a.id < db.nextId :=
  Nat.lt_succ_of_le ((le_foldl_max _ 0).2 a.id (List.mem_map.mpr ⟨a, h, rfl⟩))

/-- The new active row of an assignment. -/
def newAssignment (db : Db) (roomId : Int) (stayId : String) (checkIn checkOut : Int) :
    AssignmentRow :=
  ⟨db.nextId, roomId, stayId, checkIn, checkOut, true⟩

/-- `INSERT INTO assignments`, the stay and the room being there. -/
def insertAssignment (db : Db) (roomId : Int) (stayId : String) (checkIn checkOut : Int) : Db :=
  { db with
    assignments :=
      ⟨db.assignments.rows ++ [db.newAssignment roomId stayId checkIn checkOut], by
        rw [List.map_append, List.nodup_append']
        refine ⟨db.assignments.nodup, by simp, ?_⟩
        simp only [List.map_cons, List.map_nil, List.disjoint_singleton, List.mem_map, not_exists,
          not_and]
        exact fun a ha h => absurd h (Nat.ne_of_lt (id_lt_nextId ha))⟩ }

/-! ## Choosing a room -/

/-- `_has_overlap`. -/
def hasOverlap (db : Db) (roomId checkIn checkOut : Int) : Bool :=
  db.assignments.rows.any fun a =>
    a.roomId = roomId && a.active && a.checkIn < checkOut && checkIn < a.checkOut

/-- `_candidate_rooms`. -/
def candidateRooms (db : Db) (propertyId roomType : String) : List Int :=
  ((db.rooms.rows.filter fun r => r.propertyId = propertyId && r.roomType = roomType).map
    RoomRow.roomId).insertionSort (· ≤ ·)

/-- The candidate list of a requested room. -/
def requestedRoom (db : Db) (roomId : Int) (propertyId : String) : Except Exc (List Int) :=
  match db.getRoom roomId with
  | none => .error (.roomUnavailable s!"room {roomId} not in property {propertyId}")
  | some room =>
    if room.propertyId ≠ propertyId then
      .error (.roomUnavailable s!"room {roomId} not in property {propertyId}")
    else .ok [roomId]

/-- The loop over the candidates. -/
def firstFree (db : Db) (candidates : List Int) (checkIn checkOut : Int) : Option Int :=
  candidates.find? fun r => !db.hasOverlap r checkIn checkOut

/-- The two writes that end both transactions. -/
def occupy (db : Db) (stayId : String) (stay : StayRow) (chosen : Int) : Except Exc Int × Db :=
  if (db.stays.find? stayId).isNone || (db.rooms.find? chosen).isNone then
    (.error .integrityError, db)
  else
    (.ok chosen,
      (db.insertAssignment chosen stayId stay.checkIn stay.checkOut).setStayRoom stayId chosen)

/-- `BEGIN IMMEDIATE … COMMIT`, with `ROLLBACK` when the body raises. -/
def transaction {α : Type} (body : Db → Except Exc α × Db) (db : Db) : Except Exc α × Db :=
  match body db with
  | (.ok a, db') => (.ok a, db')
  | (.error e, _) => (.error e, db)

/-- The body of the transaction in `assign_room`. `stay` is the row that
was read before it began. -/
def assignBody (stayId : String) (stay : StayRow) (preferred : Option Int) (db : Db) :
    Except Exc Int × Db :=
  let candidates := match preferred with
    | some roomId => db.requestedRoom roomId stay.propertyId
    | none => .ok (db.candidateRooms stay.propertyId stay.roomType)
  match candidates with
  | .error e => (.error e, db)
  | .ok candidates =>
    match db.firstFree candidates stay.checkIn stay.checkOut with
    | none =>
      let propertyId := stay.propertyId
      let roomType := stay.roomType
      let checkIn := stay.checkIn
      let checkOut := stay.checkOut
      (.error (.roomUnavailable
        s!"no {roomType} room free in {propertyId} for [{checkIn},{checkOut})"), db)
    | some chosen => db.occupy stayId stay chosen

/-- The body of the transaction in `change_room`. The old assignment is
retired first; when nothing is free it is restored, and then rolled back
with everything else. -/
def changeBody (stayId : String) (stay : StayRow) (newRoomId : Option Int) (db : Db) :
    Except Exc Int × Db :=
  let db := db.retireAssignments stayId
  let candidates := match newRoomId with
    | some roomId => db.requestedRoom roomId stay.propertyId
    | none => .ok ((db.candidateRooms stay.propertyId stay.roomType).filter
        fun r => some r ≠ stay.roomId)
  match candidates with
  | .error e => (.error e, db)
  | .ok candidates =>
    match db.firstFree candidates stay.checkIn stay.checkOut with
    | none =>
      let propertyId := stay.propertyId
      let roomType := stay.roomType
      (.error (.roomUnavailable s!"no alternate {roomType} room free in {propertyId}"),
        db.restoreAssignments stayId stay.roomId)
    | some chosen => db.occupy stayId stay chosen

end Db

/-! ## Statements -/

inductive Stmt where
  | addGuest (guestId name email : String)
  | addRoom (roomId : Int) (propertyId number roomType : String)
  | addStay (stayId guestId propertyId roomType : String) (checkIn checkOut : Int)
  | guestExists (guestId : String)
  | getRoom (roomId : Int)
  | getStay (stayId : String)
  | setStayStatus (stayId : String) (status : StayStatus)
  | addKey (row : KeyRow)
  | activeKeys (stayId : String)
  | retireKeys (stayId : String)
  | revokeKey (keyId : String) (revokedAt : Int) (reason : String)
  | revocationList
  | retireAssignments (stayId : String)
  | assignTransaction (stayId : String) (stay : StayRow) (preferred : Option Int)
  | changeTransaction (stayId : String) (stay : StayRow) (newRoomId : Option Int)

/-- What a statement returns. -/
@[reducible] def Stmt.Res : Stmt → Type
  | .addGuest .. | .addRoom .. | .addStay .. | .setStayStatus .. | .addKey .. | .retireKeys ..
  | .revokeKey .. | .retireAssignments .. => Unit
  | .guestExists _ => Bool
  | .getRoom _ => Option RoomRow
  | .getStay _ => Option StayRow
  | .activeKeys _ | .revocationList => List String
  | .assignTransaction .. | .changeTransaction .. => Int

/-- A statement that writes, or raises and changes nothing. -/
def write (db : Db) : Except Exc Db → Except Exc Unit × Db
  | .ok db' => (.ok (), db')
  | .error e => (.error e, db)

/-- The meaning of a statement. -/
def exec : (op : Stmt) → Db → Except Exc op.Res × Db
  | .addGuest guestId name email, db => write db (db.addGuest guestId name email)
  | .addRoom roomId propertyId number roomType, db =>
    write db (db.addRoom roomId propertyId number roomType)
  | .addStay stayId guestId propertyId roomType checkIn checkOut, db =>
    write db (db.addStay stayId guestId propertyId roomType checkIn checkOut)
  | .guestExists guestId, db => (.ok (db.guests.find? guestId).isSome, db)
  | .getRoom roomId, db => (.ok (db.getRoom roomId), db)
  | .getStay stayId, db => (.ok (db.getStay stayId), db)
  | .setStayStatus stayId status, db => (.ok (), db.setStayStatus stayId status)
  | .addKey row, db => write db (db.addKey row)
  | .activeKeys stayId, db => (.ok (db.activeKeys stayId), db)
  | .retireKeys stayId, db => (.ok (), db.retireKeys stayId)
  | .revokeKey keyId revokedAt reason, db => (.ok (), db.revokeKey keyId revokedAt reason)
  | .revocationList, db => (.ok db.revocationList, db)
  | .retireAssignments stayId, db => (.ok (), db.retireAssignments stayId)
  | .assignTransaction stayId stay preferred, db =>
    Db.transaction (Db.assignBody stayId stay preferred) db
  | .changeTransaction stayId stay newRoomId, db =>
    Db.transaction (Db.changeBody stayId stay newRoomId) db

/-- A program over the store. -/
abbrev Call (α : Type) := Prog Stmt Stmt.Res Exc α

/-- Run a program alone. -/
abbrev Call.run {α : Type} (p : Call α) (db : Db) : Except Exc α × Db := Prog.run exec p db

/-- A program of one statement. -/
def Stmt.call (op : Stmt) : Call op.Res := .call op .ret

/-- The program raises. -/
abbrev raise {α : Type} (e : Exc) : Call α := .throw e

end StayKey.Store
