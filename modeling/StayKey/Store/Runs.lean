/-
StayKey.Store.Runs — runs of the store, call by call.

A `StoreCall` is any call the service or its tests make on the store, with
its arguments; a run is a history of such calls from the empty database,
each of them running to its end, whether it returns or raises. The
invariants of the store hold in every run (`noDoubleBooking_history`,
`agree_history`).

`Issued e stayId now key` says that the entry `e` of a run handed out `key`
for the stay; `issued_spec` says what that means for the database before
and after.
-/
import StayKey.Door.LockTheorems
import StayKey.Program.History
import StayKey.Store.Agreement
import StayKey.Store.Frame
import StayKey.Store.NoDoubleBooking

namespace StayKey.Store

open StayKey.Codec StayKey.Door StayKey.Program

inductive StoreCall where
  | addGuest (guestId name email : String)
  | addRoom (roomId : Int) (propertyId number roomType : String)
  | addStay (stayId guestId propertyId roomType : String) (checkIn checkOut : Int)
  | assignRoom (stayId : String) (preferredRoomId : Option Int)
  | checkin (stayId : String) (now : Int) (fresh : Fresh)
  | issueForStay (stayId : String) (now : Int) (fresh : Fresh)
  | refreshKey (stayId : String) (now : Int) (fresh : Fresh)
  | changeRoom (stayId : String) (now : Int) (newRoomId : Option Int) (fresh : Fresh)
  | checkout (stayId : String) (now : Int)

variable (E : Env) (sk : PrivateKey)

/-- The program of a call; its result is the key handed out, if any. -/
def StoreCall.program : StoreCall → Call (Option IssuedKey)
  | .addGuest guestId name email => do (Stmt.addGuest guestId name email).call; return none
  | .addRoom roomId propertyId number roomType => do
    (Stmt.addRoom roomId propertyId number roomType).call
    return none
  | .addStay stayId guestId propertyId roomType checkIn checkOut => do
    (Stmt.addStay stayId guestId propertyId roomType checkIn checkOut).call
    return none
  | .assignRoom stayId preferredRoomId => do
    let _ ← Store.assignRoom stayId preferredRoomId
    return none
  | .checkin stayId now fresh => do return some (← Store.checkin E sk stayId now fresh)
  | .issueForStay stayId now fresh => do return some (← Store.issueForStay E sk stayId now fresh)
  | .refreshKey stayId now fresh => do return some (← Store.refreshKey E sk stayId now fresh)
  | .changeRoom stayId now newRoomId fresh => do
    let r ← Store.changeRoom E sk stayId now newRoomId fresh
    return some r.2.2
  | .checkout stayId now => do
    let _ ← Store.checkout stayId now
    return none

/-- Handle one call. -/
def perform (c : StoreCall) (db : Db) : Except Exc (Option IssuedKey) × Db :=
  (c.program E sk).run db

abbrev StoreEntry := Entry StoreCall (Except Exc (Option IssuedKey)) Db

/-- The runs of the store. -/
abbrev StoreHistory : List StoreEntry → Db → Prop := History (perform E sk) Db.empty

/-- Run a list of calls, the first one first. -/
abbrev runCalls (cs : List StoreCall) : List StoreEntry × Db := runAll (perform E sk) Db.empty cs

/-- The stay a call is about. -/
def StoreCall.stayId? : StoreCall → Option String
  | .addGuest .. | .addRoom .. => none
  | .addStay stayId .. | .assignRoom stayId _ | .checkin stayId .. | .issueForStay stayId ..
  | .refreshKey stayId .. | .changeRoom stayId .. | .checkout stayId _ => some stayId

/-- The stay and the time of a call that issues a key. -/
def StoreCall.issues? : StoreCall → Option (String × Int)
  | .checkin stayId now _ | .issueForStay stayId now _ | .refreshKey stayId now _
  | .changeRoom stayId now _ _ => some (stayId, now)
  | .addGuest .. | .addRoom .. | .addStay .. | .assignRoom .. | .checkout .. => none

/-- The entry handed out this key for the stay. -/
def Issued (e : StoreEntry) (stayId : String) (now : Int) (key : IssuedKey) : Prop :=
  e.request.issues? = some (stayId, now) ∧ e.answer = .ok (some key)

/-! ## One call -/

variable {E sk} {db : Db} {S : String}

/-- Run a program and change its result. -/
theorem run_return {α β : Type} (p : Call α) (f : α → β) (db : Db) :
    Call.run (do return f (← p)) db = ((p.run db).1.map f, (p.run db).2) := by
  rw [run_bind]
  rcases p.run db with ⟨e | a, db'⟩ <;> rfl

theorem run_of_return {α β : Type} {p : Call α} {f : α → β} {b : β} {db db' : Db}
    (h : Call.run (do return f (← p)) db = (.ok b, db')) : ∃ a, p.run db = (.ok a, db') ∧ f a = b := by
  rw [run_return] at h
  rcases hp : p.run db with ⟨e | a, db₁⟩ <;> rw [hp] at h <;> cases h
  exact ⟨a, rfl, rfl⟩

theorem agree_perform (c : StoreCall) (h : Agree db) : Agree (perform E sk c db).2 := by
  cases c with
  | addGuest guestId name email =>
    simp only [perform, StoreCall.program, run_return]
    rw [run_stmt (.addGuest guestId name email)]
    exact write_preserves h fun db' => agree_addGuest h
  | addRoom roomId propertyId number roomType =>
    simp only [perform, StoreCall.program, run_return]
    rw [run_stmt (.addRoom roomId propertyId number roomType)]
    exact write_preserves h fun db' => agree_addRoom h
  | addStay stayId guestId propertyId roomType checkIn checkOut =>
    simp only [perform, StoreCall.program, run_return]
    rw [run_stmt (.addStay stayId guestId propertyId roomType checkIn checkOut)]
    exact write_preserves h fun db' => agree_addStay h
  | assignRoom stayId preferred =>
    simp only [perform, StoreCall.program, run_return]
    exact agree_assignRoom h stayId preferred
  | checkin stayId now fresh =>
    simp only [perform, StoreCall.program, run_return]
    exact agree_checkin h
  | issueForStay stayId now fresh =>
    simp only [perform, StoreCall.program, run_return]
    exact agree_issueForStay h
  | refreshKey stayId now fresh =>
    simp only [perform, StoreCall.program, run_return]
    exact agree_refreshKey h
  | changeRoom stayId now newRoomId fresh =>
    simp only [perform, StoreCall.program, run_return]
    exact agree_changeRoom h newRoomId
  | checkout stayId now =>
    simp only [perform, StoreCall.program, run_return]
    exact agree_checkout h

theorem program_spares {c : StoreCall} (h : c.stayId? ≠ some S) : (c.program E sk).Only (Stmt.Spares S) := by
  cases c with
  | addGuest | addRoom => exact ⟨trivial, fun _ => trivial⟩
  | addStay => exact ⟨fun he => h (congrArg some he), fun _ => trivial⟩
  | assignRoom stayId preferred =>
    exact (assignRoom_spares (fun he => h (congrArg some he)) preferred).bind fun _ => trivial
  | checkin => exact (checkin_spares fun he => h (congrArg some he)).bind fun _ => trivial
  | issueForStay => exact (issueForStay_spares fun he => h (congrArg some he)).bind fun _ => trivial
  | refreshKey => exact (refreshKey_spares fun he => h (congrArg some he)).bind fun _ => trivial
  | changeRoom stayId now newRoomId fresh =>
    exact (changeRoom_spares (fun he => h (congrArg some he)) newRoomId).bind fun _ => trivial
  | checkout => exact (checkout_spares fun he => h (congrArg some he)).bind fun _ => trivial

/-- A call keeps the rows of every stay it is not about. -/
theorem sameRows_perform {c : StoreCall} (h : c.stayId? ≠ some S) :
    SameRows S db (perform E sk c db).2 :=
  frame_run (program_spares h) db

theorem extends_perform (c : StoreCall) (db : Db) : Extends db (perform E sk c db).2 :=
  extends_run _ db

/-- **What a key that was handed out consists of:** it was issued in a
database that came after the one the call began with, and its row is what
the call stored last. -/
theorem issued_spec {e : StoreEntry} {now : Int} {key : IssuedKey}
    (he : e.answer = (perform E sk e.request e.before).1) (h : Issued e S now key) :
    ∃ db₁ fresh, Extends e.before db₁ ∧
      IssuedIn E sk db₁ (e.after (perform E sk)) S now fresh key := by
  obtain ⟨hissues, hans⟩ := h
  obtain ⟨db, c, ans⟩ := e
  simp only at he hissues hans
  subst hans
  have hrun : perform E sk c db = (.ok (some key), (perform E sk c db).2) := Prod.ext he.symm rfl
  cases c with
  | checkin stayId t fresh =>
    cases hissues
    obtain ⟨k, hk, hkey⟩ := run_of_return hrun
    cases hkey
    exact ⟨_, fresh, extends_setStayStatus db S .checkedIn, checkin_issued hk⟩
  | issueForStay stayId t fresh =>
    cases hissues
    obtain ⟨k, hk, hkey⟩ := run_of_return hrun
    cases hkey
    exact ⟨db, fresh, .refl db, issueForStay_issued hk⟩
  | refreshKey stayId t fresh =>
    cases hissues
    obtain ⟨k, hk, hkey⟩ := run_of_return hrun
    cases hkey
    exact ⟨_, fresh, extends_retireKeys db S, (refreshKey_issued hk).2⟩
  | changeRoom stayId t newRoomId fresh =>
    cases hissues
    obtain ⟨r, hk, hkey⟩ := run_of_return hrun
    cases hkey
    obtain ⟨stay, db₁, -, -, hx, hissued⟩ := changeRoom_issued hk
    refine ⟨db₁, fresh, ?_, hissued⟩
    have hext := (extends_dropKeys db S now "room_change").trans
      (extends_exec (.changeTransaction S stay newRoomId) _)
    rwa [hx] at hext
  | addGuest | addRoom | addStay | assignRoom | checkout => cases hissues

/-- The payload of an issued key, as it is handed out. -/
theorem IssuedFor.carries {now : Int} {fresh : Fresh} {stay : StayRow} {roomId : Int} {key : IssuedKey}
    (h : IssuedFor E sk db S now fresh stay roomId key) :
    Carries key.payload ((stayCredential stay S roomId now fresh).fields E fresh) :=
  carries_issued h.credential

/-! ## Histories -/

variable {h : List StoreEntry}

/-- **The tables agree in every run.** -/
theorem agree_history (hs : StoreHistory E sk h db) : Agree db :=
  hs.invariant agree_empty (fun _ c h (_ : True) => agree_perform c h) fun _ _ => trivial

theorem noDoubleBooking_history (hs : StoreHistory E sk h db) : NoDoubleBooking db :=
  hs.invariant noDoubleBooking_empty
    (fun _ _ h (_ : True) => Prog.run_preserves exec (fun op _ _ h => noDoubleBooking_exec op h) (Prog.only_true _) h)
    fun _ _ => trivial

/-! ## A sample installation -/

/-- The key of an entry that handed one out. -/
def key? (e : StoreEntry) : Option IssuedKey :=
  match e.answer with
  | .ok k => k
  | .error _ => none

theorem answer_of_key? {e : StoreEntry} (h : (key? e).isSome = true) :
    ∃ key, e.answer = .ok (some key) := by
  obtain ⟨key, hkey⟩ := Option.isSome_iff_exists.mp h
  refine ⟨key, ?_⟩
  unfold key? at hkey
  split at hkey
  · rename_i ha
    rw [ha, hkey]
  · cases hkey

/-- One room, and a stay that booked it. -/
def sampleBooking : List StoreCall :=
  [ .addGuest "g_1" "Ada" "ada@example.org",
    .addRoom 101 "HILTON-DEMO-001" "101" "king",
    .addStay "s_1" "g_1" "HILTON-DEMO-001" "king" 1000 2000,
    .assignRoom "s_1" none ]

/-- What the stay of `sampleBooking` looks like when it is checked in. -/
def sampleStay : StayRow := ⟨"s_1", "g_1", "HILTON-DEMO-001", "king", some 101, 1000, 2000, .checkedIn⟩

def sampleFresh₂ : Fresh := { sampleFresh with keyId := "k2" }

end StayKey.Store
