/-
StayKey.Service.Registry — the lock objects, and which of them is in the
registry.

A lock is made with the property of its room, or with the service's if the
room is not in the tables yet; later statements change its snapshot and its
challenges only (`LockOf`). An object stays the lock of its room (`Since`).

Which object the registry has for a room can change, as long as there are
requests that have found none. When the registry has a lock of the room and
no such request is left, it keeps it (`LockStays`).
-/
import StayKey.Program.Ends
import StayKey.Service.LockObjects
import StayKey.Service.StorePart

namespace StayKey.Service

open StayKey.Codec StayKey.Door StayKey.Store StayKey.Program

variable {ι : Type} {E : Env} {s t : AppState} {m n : Memory} {roomId ref : Int} {lock : LockVerifier}

/-! ## Lock objects -/

/-- What a lock is given when it is made, and keeps. -/
structure LockOf (E : Env) (s : AppState) (lock : LockVerifier) : Prop where
  propertyPub : lock.propertyPub = s.propertyPub E
  ttl : lock.challenges.ttl = challengeTtlSeconds
  propertyId : lock.propertyId = s.propertyId ∨
    ∃ room ∈ s.db.rooms, room.roomId = lock.roomId ∧ room.propertyId = lock.propertyId

/-- Every lock object is as it was made. -/
def Objects (E : Env) (s : AppState) : Prop := ∀ ref lock, s.locks.get? ref = some lock → LockOf E s lock

theorem LockOf.mono (h : LockOf E s lock) (hinstall : SameInstall s t)
    (hrooms : ∀ room ∈ s.db.rooms, room ∈ t.db.rooms) : LockOf E t lock where
  propertyPub := by
    rw [h.propertyPub, AppState.propertyPub, AppState.propertyPub, hinstall.propertySk]
  ttl := h.ttl
  propertyId := by
    obtain hown | ⟨room, hin, hroom⟩ := h.propertyId
    · exact .inl (hown.trans hinstall.propertyId.symm)
    · exact .inr ⟨room, hrooms room hin, hroom⟩

/-- A room of the property is guarded by a lock of the property. -/
theorem LockOf.inProperty (h : LockOf E s lock) (hroom : InProperty s.propertyId s.db lock.roomId) :
    lock.propertyId = s.propertyId := by
  obtain hown | ⟨room, hin, hid, hproperty⟩ := h.propertyId
  · exact hown
  · obtain ⟨room', hin', hid', hproperty'⟩ := hroom
    obtain rfl := Table.eq_of_key hin hin' (hid.trans hid'.symm)
    exact hproperty.symm.trans hproperty'

theorem lockOf_lockFor (h : Objects E s) (ref : Int) : LockOf E s (s.lockFor E ref).1 := by
  unfold AppState.lockFor
  cases hget : s.locks.get? ref with
  | some lock => exact h ref lock hget
  | none =>
    refine ⟨rfl, rfl, ?_⟩
    cases hroom : s.db.getRoom ref with
    | none => exact .inl rfl
    | some room =>
      obtain ⟨hin, hid⟩ := Table.find?_eq_some_iff.mp hroom
      exact .inr ⟨room, hin, hid, rfl⟩

theorem Objects.setLock (h : Objects E s) (hlock : LockOf E s lock) : Objects E (s.setLock ref lock) := by
  intro r l hget
  rw [AppState.setLock, Dict.get?_set] at hget
  split at hget
  · cases hget
    exact hlock.mono ⟨rfl, rfl, rfl, rfl⟩ fun _ h => h
  · exact (h r l hget).mono ⟨rfl, rfl, rfl, rfl⟩ fun _ h => h

theorem Objects.lockFor (h : Objects E s) (ref : Int) : Objects E (s.lockFor E ref).2 := by
  have hlock := lockOf_lockFor h ref
  unfold AppState.lockFor at hlock ⊢
  cases hget : s.locks.get? ref with
  | some lock => exact h
  | none =>
    rw [hget] at hlock
    exact h.setLock hlock

/-- The lock is put back, with another snapshot or other challenges. -/
theorem Objects.setLockFor (h : Objects E s) (hid : lock.roomId = (s.lockFor E ref).1.roomId)
    (hpub : lock.propertyPub = (s.lockFor E ref).1.propertyPub)
    (hproperty : lock.propertyId = (s.lockFor E ref).1.propertyId)
    (httl : lock.challenges.ttl = (s.lockFor E ref).1.challenges.ttl) :
    Objects E ((s.lockFor E ref).2.setLock ref lock) := by
  have hof := (lockOf_lockFor h ref).mono (sameInstall_lockFor (E := E) ref) (fun room hin => by
    rw [lockFor_db]
    exact hin)
  refine (h.lockFor ref).setLock ⟨hpub.trans hof.propertyPub, httl.trans hof.ttl, ?_⟩
  rw [hproperty, hid]
  exact hof.propertyId

theorem Objects.setChallenges (h : Objects E s) (v : Verifier Int) {store : ChallengeStore}
    (httl : store.ttl = (s.challenges E v).ttl) : Objects E (s.setChallenges E v store) := by
  cases v with
  | connected => exact fun ref lock hget => (h ref lock hget).mono ⟨rfl, rfl, rfl, rfl⟩ fun _ h => h
  | lock ref => exact h.setLockFor rfl rfl rfl httl

/-- Every statement keeps the objects. -/
theorem objects_execApi (op : ApiStmt) (s : AppState) (h : Objects E s) : Objects E (execApi E op s).2 := by
  cases op with
  | store op =>
    exact fun ref lock hget => (h ref lock hget).mono ⟨rfl, rfl, rfl, rfl⟩ (extends_exec op s.db).rooms
  | lockFor ref => exact h.lockFor ref
  | syncRevocations ref revoked => exact h.setLockFor rfl rfl rfl rfl
  | issue v => exact h.setChallenges v rfl
  | consume v => exact h.setChallenges v rfl
  | lockStatic | connectedStatic | activeAssignment | stayByText | check => exact h

/-! ## Of which room -/

/-- The object is a lock of the room. -/
def LockAt (s : AppState) (ref roomId : Int) : Prop := ∃ lock, s.locks.get? ref = some lock ∧ lock.roomId = roomId

theorem LockAt.lockFor_eq (h : LockAt s ref roomId) :
    s.locks.get? ref = some (s.lockFor E ref).1 ∧ (s.lockFor E ref).1.roomId = roomId := by
  obtain ⟨lock, hget, hroom⟩ := h
  rw [lockFor_of_locks hget]
  exact ⟨hget, hroom⟩

theorem LockAt.of_lockFor (h : LockAt s ref roomId) (ref' : Int) :
    LockAt (s.lockFor E ref').2 ref roomId := by
  obtain ⟨lock, hget, hroom⟩ := h
  unfold AppState.lockFor
  cases hget' : s.locks.get? ref' with
  | some lock' => exact ⟨lock, hget, hroom⟩
  | none =>
    have hne : ref ≠ ref' := fun he => by rw [he, hget'] at hget; cases hget
    exact ⟨lock, ((Dict.get?_set ..).trans (if_neg hne)).trans hget, hroom⟩

theorem LockAt.setLock (h : LockAt s ref roomId) {ref' : Int} (hid : lock.roomId = (s.lockFor E ref').1.roomId) :
    LockAt ((s.lockFor E ref').2.setLock ref' lock) ref roomId := by
  by_cases hne : ref = ref'
  · subst hne
    exact ⟨lock, Dict.get?_set_self .., hid.trans (h.lockFor_eq (E := E)).2⟩
  · obtain ⟨old, hget, hroom⟩ := h.of_lockFor (E := E) ref'
    exact ⟨old, ((Dict.get?_set ..).trans (if_neg hne)).trans hget, hroom⟩

/-- An object stays the lock of its room. -/
theorem LockAt.execApi (h : LockAt s ref roomId) (op : ApiStmt) : LockAt (execApi E op s).2 ref roomId := by
  cases op with
  | lockFor ref' => exact h.of_lockFor ref'
  | syncRevocations ref' revoked => exact h.setLock rfl
  | issue v | consume v =>
    cases v with
    | lock ref' => exact h.setLock rfl
    | connected => exact h
  | store | lockStatic | connectedStatic | activeAssignment | stayByText | check => exact h

/-! ## The memory -/

theorem get?_freshRef (objects : Dict Int LockVerifier) : objects.get? (freshRef objects) = none := by
  have hfresh (l : List (Int × LockVerifier)) (e : Int × LockVerifier) (he : e ∈ l) :
      e.1 < l.foldr (fun e ref => max (e.1 + 1) ref) 0 := by
    induction l with
    | nil => cases he
    | cons e' l ih =>
      rw [List.foldr_cons]
      obtain rfl | he := List.mem_cons.mp he
      · omega
      · have := ih he
        omega
  refine Option.eq_none_iff_forall_ne_some.mpr fun lock hget => ?_
  exact absurd (hfresh _ _ ((Dict.get?_eq_some_iff objects).mp hget)) (lt_irrefl _)

/-- A lock that is stored under a new reference changes no other. -/
theorem get?_register {lock' : LockVerifier} (h : s.locks.get? ref = some lock) :
    (s.setLock (freshRef s.locks) lock').locks.get? ref = some lock := by
  rw [AppState.setLock, Dict.get?_set, if_neg fun he => ?_, h]
  rw [he, get?_freshRef] at h
  cases h

/-- The registry refers to locks of the rooms. -/
def Filed (m : Memory) : Prop :=
  ∀ roomId ref, m.registry.get? roomId = some ref → LockAt m.app ref roomId

/-- What lasts of a memory. -/
structure Since (m n : Memory) : Prop where
  tables : Extends m.app.db n.app.db
  reads : Grows m.app.db n.app.db
  locks : ∀ ref roomId, LockAt m.app ref roomId → LockAt n.app ref roomId
  filed : Filed m → Filed n

theorem Since.refl (m : Memory) : Since m m := ⟨Extends.refl _, Grows.refl _, fun _ _ h => h, id⟩

theorem Since.trans (m₁ m₂ m₃ : Memory) (h : Since m₁ m₂) (h' : Since m₂ m₃) : Since m₁ m₃ :=
  ⟨h.tables.trans h'.tables, Grows.trans _ _ _ h.reads h'.reads,
    fun ref roomId hlock => h'.locks ref roomId (h.locks ref roomId hlock), fun hm => h'.filed (h.filed hm)⟩

/-- Every statement keeps the registry and the locks. -/
theorem since_execMem (op : MemStmt) (m : Memory) : Since m (execMem E op m).2 := by
  cases op with
  | api op =>
    have hlocks (ref roomId : Int) (h : LockAt m.app ref roomId) := h.execApi op (E := E)
    exact ⟨extends_execApi op m.app, dbGrows_execApi op m.app, hlocks,
      fun hm roomId ref hget => hlocks ref roomId (hm roomId ref hget)⟩
  | registered => exact .refl m
  | register r room revoked =>
    have hlocks (ref roomId : Int) (h : LockAt m.app ref roomId) :
        LockAt (execMem E (.register r room revoked) m).2.app ref roomId := by
      obtain ⟨lock, hget, hroom⟩ := h
      exact ⟨lock, get?_register hget, hroom⟩
    refine ⟨Extends.refl _, Grows.refl _, hlocks, fun hm roomId ref hget => ?_⟩
    have hget' := (Dict.get?_set ..).symm.trans hget
    split at hget'
    · rename_i hroom
      cases hget'
      exact ⟨_, Dict.get?_set_self .., hroom.symm⟩
    · exact hlocks ref roomId (hm roomId ref hget')

theorem sameInstall_execMem (op : MemStmt) (m : Memory) : SameInstall m.app (execMem E op m).2.app := by
  cases op with
  | api op => exact sameInstall_execApi op m.app
  | registered => exact .refl m.app
  | register => exact ⟨rfl, rfl, rfl, rfl⟩

/-! ## Which lock is in the registry -/

/-- A look-up of the room finds a lock. -/
def MemStmt.Finds (roomId : Int) : (op : MemStmt) → op.Res → Prop
  | .registered r, found => r = roomId → found.isSome = true
  | .api _, _ | .register .., _ => True

/-- The statement stores no lock for the room. -/
def MemStmt.LeavesRoom (roomId : Int) : MemStmt → Prop
  | .register r _ _ => r ≠ roomId
  | .api _ | .registered _ => True

/-- A request stores a lock only if it has found none. -/
theorem withLocks_leavesRoom {α : Type} (roomId : Int) (held : Int → Int) (p : ApiCall α) :
    (withLocks held p).OnlyIf (MemStmt.Finds roomId) (MemStmt.LeavesRoom roomId) := by
  induction p generalizing held with
  | ret | throw => trivial
  | call op k ih =>
    by_cases hop : op.AsksNoLock
    · rw [withLocks_call hop]
      exact ⟨trivial, fun r _ => ih _ held⟩
    · cases op with
      | lockFor r =>
        rw [withLocks_lockFor]
        refine Prog.OnlyIf.bind ⟨trivial, fun found hfound => ?_⟩ fun ref => ih () _
        cases found with
        | some ref => trivial
        | none =>
          have hne : r ≠ roomId := fun he => by cases hfound he
          exact ⟨trivial, fun _ _ => ⟨trivial, fun _ _ => ⟨hne, fun _ _ => trivial⟩⟩⟩
      | _ => exact absurd trivial hop

/-- The registry has this lock of the room, and no request that has found
none is about to store another. -/
structure LockStays (s : MemServing ι) (roomId ref : Int) : Prop where
  registered : s.shared.registry.get? roomId = some ref
  leaves : ∀ i, (s.prog i).OnlyIf (MemStmt.Finds roomId) (MemStmt.LeavesRoom roomId)

section Runs

variable [DecidableEq ι] {s t : MemServing ι} {h : List (MemTurn ι)}

theorem LockStays.turn (hs : LockStays s roomId ref) (i : ι) : LockStays (s.turn (execMem E) i) roomId ref := by
  have hfinds (op : MemStmt) (r : op.Res) (m : Memory) (he : execMem E op s.shared = (.ok r, m)) :
      op.Finds roomId r := by
    cases op with
    | registered r' =>
      rintro rfl
      cases he
      rw [hs.registered]
      rfl
    | api | register => trivial
  refine ⟨?_, fun j => ?_⟩
  · cases hp : s.prog i with
    | ret a => rw [Threads.turn_of_ended (o := .ok a) (by rw [hp]; rfl), hs.registered]
    | throw e => rw [Threads.turn_of_ended (o := .error e) (by rw [hp]; rfl), hs.registered]
    | call op k =>
      have hleaves := hs.leaves i
      rw [hp] at hleaves
      rw [Threads.shared_turn hp]
      cases op with
      | api | registered => exact hs.registered
      | register r room revoked =>
        exact (Dict.get?_set ..).trans ((if_neg (Ne.symm hleaves.1)).trans hs.registered)
  · rcases Threads.prog_turn (execMem E) i j s with hj | ⟨-, hj⟩
    · rw [hj]
      exact hs.leaves j
    · rw [hj]
      exact (hs.leaves j).next hfinds

/-- **The registry keeps the lock** from then on. -/
theorem LockStays.run (ht : LockStays t roomId ref) (hs : Schedule (execMem E) t h s) : LockStays s roomId ref :=
  hs.invariant (I := fun s => LockStays s roomId ref) ht (fun _ i hs (_ : True) => hs.turn i) fun _ _ => trivial

end Runs

end StayKey.Service
