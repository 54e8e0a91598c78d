/-
StayKey.Store.Atomicity — when a raising lifecycle call leaves no trace.

`change_room` and `refresh_key` write before their last failure point: the
keys are deactivated (and, in a move, revoked) by statements that are
committed on their own, and only the booking of the room is a transaction.
So a failure after these writes is not undone.

For each call the condition under which it is atomic nevertheless is read
off the database before the call, and is exact (`refreshKey_atomic_iff`,
`changeRoom_atomic_iff`).
-/
import StayKey.Store.Runs

namespace StayKey.Store

open StayKey.Codec StayKey.Door StayKey.Program

variable {E : Env} {sk : PrivateKey} {db : Db} {stayId : String} {now : Int} {fresh : Fresh}

/-- If the call raised a domain error, the tables are as before. -/
def AtomicRaise {α : Type} (db : Db) (result : Except Exc α × Db) : Prop :=
  ∀ e, result.1 = .error e → e.isStayKeyError = true → result.2 = db

theorem atomicRaise_self {α : Type} (r : Except Exc α) : AtomicRaise db (r, db) :=
  fun _ _ _ => rfl

theorem atomicRaise_ok {α : Type} (a : α) (db' : Db) : AtomicRaise db (.ok a, db') :=
  fun _ h => by cases h

theorem atomicRaise_error_iff {α : Type} {e : Exc} {db' : Db} :
    AtomicRaise (α := α) db (.error e, db') ↔ (e.isStayKeyError = true → db' = db) :=
  ⟨fun h => h e rfl, fun h e' he => by cases he; exact h⟩

/-- The stay has no key to lose, or a key can be issued in place of it. -/
def RefreshSafe (db : Db) (stayId : String) (now : Int) : Prop :=
  ∀ stay, db.getStay stayId = some stay → stay.status ≠ .checkedOut →
    db.activeKeys stayId = [] ∨ Issuable stay now

/-- Some room the move may take is free of the other stays. -/
def HasAlternative (db : Db) (stay : StayRow) (newRoomId : Option Int) : Prop :=
  ∃ roomId, db.IsCandidate stay newRoomId stay.roomId roomId ∧
    ∀ a ∈ db.assignments, a.active = true → a.stayId ≠ stay.stayId → a.roomId = roomId →
      ¬ Overlap a.checkIn a.checkOut stay.checkIn stay.checkOut

/-- A room can be found and then a key issued for it; or no room can be
found and there is no key to lose. -/
def MoveSafe (db : Db) (stayId : String) (now : Int) (newRoomId : Option Int) : Prop :=
  ∀ stay, db.getStay stayId = some stay → stay.status ≠ .checkedOut →
    (HasAlternative db stay newRoomId → stay.checkIn < min stay.checkOut (now + keyTtlSeconds)) ∧
    (¬ HasAlternative db stay newRoomId → db.activeKeys stayId = [])

/-! ## `refresh_key` -/

theorem retireKeys_eq_self_iff : db.retireKeys stayId = db ↔ db.activeKeys stayId = [] :=
  ⟨fun h => by rw [← h]; exact activeKeys_retireKeys db stayId, retireKeys_eq_self⟩

theorem dropKeys_eq_self_iff (now : Int) (reason : String) :
    dropKeys db stayId now reason = db ↔ db.activeKeys stayId = [] :=
  ⟨fun h => by rw [← h]; exact activeKeys_dropKeys db stayId now reason,
    fun h => dropKeys_eq_self h now reason⟩

/-- **When `refresh_key` is atomic.** -/
theorem refreshKey_atomic_iff :
    AtomicRaise db ((refreshKey E sk stayId now fresh).run db) ↔ RefreshSafe db stayId now := by
  obtain ⟨hno, e, -, hrun⟩ | ⟨⟨stay, hs, hst⟩, hrun⟩ := refreshKey_run E sk db stayId now fresh
  · rw [hrun]
    exact iff_of_true (atomicRaise_self _) fun stay hs hst => absurd ⟨stay, hs, hst⟩ hno
  have hsafe : RefreshSafe db stayId now ↔ db.activeKeys stayId = [] ∨ Issuable stay now := by
    simp only [RefreshSafe, hs, Option.some.injEq, forall_eq', hst, ne_eq, not_false_eq_true,
      true_implies]
  have hs' : (db.retireKeys stayId).getStay stayId = some stay := hs
  rw [hrun, hsafe]
  obtain ⟨e, hrun', he⟩ | ⟨stay', _, _, _, hissued, -, hrun'⟩ :=
    issueForStay_run E sk (db.retireKeys stayId) stayId now fresh
  · simp only [hs', Option.some.injEq, forall_eq'] at he
    rw [hrun', atomicRaise_error_iff, he, ← retireKeys_eq_self_iff]
    exact ⟨fun h => or_iff_not_imp_right.mpr h, fun h hi => h.resolve_right hi⟩
  · rw [hrun']
    refine iff_of_true (atomicRaise_ok _ _) (.inr ?_)
    have hstay := hissued.getStay
    rw [hs'] at hstay
    cases hstay
    exact ⟨⟨_, hissued.room⟩, hissued.window⟩

/-! ## `change_room` -/

/-- The transaction finds a room exactly when there is an alternative. -/
theorem changeTransaction_ok_iff {stay : StayRow} (hs : db.getStay stayId = some stay)
    (newRoomId : Option Int) :
    (∃ chosen, exec (.changeTransaction stayId stay newRoomId) db
        = (.ok chosen, (db.retireAssignments stayId).occupied stayId stay chosen)) ∧
        HasAlternative db stay newRoomId ∨
    (∃ msg, exec (.changeTransaction stayId stay newRoomId) db
        = (.error (.roomUnavailable msg), db)) ∧ ¬ HasAlternative db stay newRoomId := by
  obtain ⟨-, rfl⟩ := Db.getStay_eq_some_iff.mp hs
  obtain ⟨e, he, ⟨⟨msg, rfl⟩, hno⟩ | ⟨-, hnone⟩⟩ | ⟨chosen, he, hcand, hfr, -⟩ :=
    Db.changeTransaction_booking stay.stayId stay newRoomId db
  · refine .inr ⟨⟨msg, he⟩, ?_⟩
    rintro ⟨r, hcand, h⟩
    exact hno r hcand (Db.free_retireAssignments_iff.mpr h)
  · rw [hs] at hnone
    cases hnone
  · exact .inl ⟨⟨chosen, he⟩, chosen, hcand, Db.free_retireAssignments_iff.mp hfr⟩

/-- Once the keys are dropped there are the same alternatives. -/
theorem changeTransaction_dropKeys {stay : StayRow} (hs : db.getStay stayId = some stay) (now : Int)
    (newRoomId : Option Int) :
    (∃ chosen, exec (.changeTransaction stayId stay newRoomId) (dropKeys db stayId now "room_change")
        = (.ok chosen, ((dropKeys db stayId now "room_change").retireAssignments stayId).occupied stayId
          stay chosen)) ∧ HasAlternative db stay newRoomId ∨
    (∃ msg, exec (.changeTransaction stayId stay newRoomId) (dropKeys db stayId now "room_change")
        = (.error (.roomUnavailable msg), dropKeys db stayId now "room_change")) ∧
        ¬ HasAlternative db stay newRoomId := by
  have halt : HasAlternative (dropKeys db stayId now "room_change") stay newRoomId ↔
      HasAlternative db stay newRoomId := by
    obtain ⟨r, hdrop⟩ := dropKeys_eq db stayId now "room_change"
    rw [hdrop]
    exact Iff.rfl
  rw [← halt]
  exact changeTransaction_ok_iff ((getStay_dropKeys ..).trans hs) newRoomId

/-- The stay after a move has dropped its keys and taken the room. -/
theorem getStay_moved {stay : StayRow} (hs : db.getStay stayId = some stay) (now chosen : Int) :
    (((dropKeys db stayId now "room_change").retireAssignments stayId).occupied stayId stay
      chosen).getStay stayId = some { stay with roomId := some chosen } := by
  have hget : ((dropKeys db stayId now "room_change").retireAssignments stayId).getStay stayId
      = some stay := (getStay_dropKeys ..).trans hs
  rw [Db.getStay_occupied, hget, Option.map_some, if_pos rfl]

theorem occupied_ne (stay : StayRow) (chosen : Int) {db₁ : Db}
    (h : db₁.assignments.rows.length = db.assignments.rows.length) :
    db₁.occupied stayId stay chosen ≠ db := by
  intro he
  have hlen : (db₁.occupied stayId stay chosen).assignments.rows.length
      = db₁.assignments.rows.length + 1 := List.length_append
  rw [he, h] at hlen
  omega

/-- **When `change_room` is atomic.** -/
theorem changeRoom_atomic_iff {newRoomId : Option Int} :
    AtomicRaise db ((changeRoom E sk stayId now newRoomId fresh).run db) ↔
      MoveSafe db stayId now newRoomId := by
  obtain ⟨hno, e, -, hrun⟩ | ⟨stay, hs, hst, hrun⟩ := changeRoom_run E sk db stayId now newRoomId fresh
  · rw [hrun]
    exact iff_of_true (atomicRaise_self _) fun stay hs hst => absurd ⟨stay, hs, hst⟩ hno
  have hsafe : MoveSafe db stayId now newRoomId ↔
      (HasAlternative db stay newRoomId → stay.checkIn < min stay.checkOut (now + keyTtlSeconds)) ∧
      (¬ HasAlternative db stay newRoomId → db.activeKeys stayId = []) := by
    simp only [MoveSafe, hs, Option.some.injEq, forall_eq', hst, ne_eq, not_false_eq_true,
      true_implies]
  rw [hsafe, hrun]
  obtain ⟨⟨chosen, hok⟩, ha⟩ | ⟨⟨msg, herr⟩, hna⟩ := changeTransaction_dropKeys hs now newRoomId
  · -- the room is changed: what can still fail is the window of the key
    rw [hok]
    simp only [ha, true_implies, not_true_eq_false, false_implies, and_true]
    have hs₂ := getStay_moved hs now chosen
    have hne : ((dropKeys db stayId now "room_change").retireAssignments stayId).occupied stayId stay
        chosen ≠ db := by
      obtain ⟨r, hdrop⟩ := dropKeys_eq db stayId now "room_change"
      refine occupied_ne stay chosen ?_
      rw [hdrop]
      exact List.length_map _
    obtain ⟨e, hrun', he⟩ | ⟨stay', _, _, _, hissued, -, hrun'⟩ := issueForStay_run E sk
      (((dropKeys db stayId now "room_change").retireAssignments stayId).occupied stayId stay chosen)
      stayId now fresh
    · rw [hrun']
      simp only [hs₂, Option.some.injEq, forall_eq', Issuable, exists_eq', true_and] at he
      simp only [atomicRaise_error_iff, he, hne, imp_false, not_not]
    · rw [hrun']
      refine iff_of_true (atomicRaise_ok _ _) ?_
      have hstay := hissued.getStay
      rw [hs₂] at hstay
      cases hstay
      exact hissued.window
  · -- no room: the keys are dropped all the same
    rw [herr]
    simp only [hna, false_implies, not_false_eq_true, true_implies, true_and,
      ← dropKeys_eq_self_iff now "room_change"]
    exact atomicRaise_error_iff.trans ⟨fun h => h rfl, fun h _ => h⟩

/-- **When the lifecycle calls are atomic**, from any database, for any stay,
time and requested room. -/
theorem lifecycle_atomic_iff (E : Env) (sk : PrivateKey) (db : Db) (stayId : String) (now : Int)
    (newRoomId : Option Int) (fresh : Fresh) :
    (AtomicRaise db ((refreshKey E sk stayId now fresh).run db) ↔ RefreshSafe db stayId now) ∧
    (AtomicRaise db ((changeRoom E sk stayId now newRoomId fresh).run db) ↔
      MoveSafe db stayId now newRoomId) :=
  ⟨refreshKey_atomic_iff, changeRoom_atomic_iff⟩

/-- A guest who is checked in asks for another room of a property that has
only one: the move fails, the guest keeps the room and loses the key. -/
theorem failed_move_drops_keys :
    ∃ (h : List StoreEntry) (db : Db), StoreHistory Env.sample sampleKey h db ∧
      ¬ AtomicRaise db ((changeRoom Env.sample sampleKey "s_1" 1500 none sampleFresh₂).run db) ∧
      db.activeKeys "s_1" = ["k1"] ∧ db.revocationList = [] ∧
      ((changeRoom Env.sample sampleKey "s_1" 1500 none sampleFresh₂).run db).2.activeKeys "s_1" = [] ∧
      ((changeRoom Env.sample sampleKey "s_1" 1500 none sampleFresh₂).run db).2.revocationList = ["k1"] ∧
      ((changeRoom Env.sample sampleKey "s_1" 1500 none sampleFresh₂).run db).2.assignments
        = db.assignments := by
  refine ⟨_, _, History.of_runAll _ _ (sampleBooking ++ [.checkin "s_1" 1000 sampleFresh]), ?_, by decide,
    by decide, by decide, by decide, rfl⟩
  intro hatomic
  have hraised : ∃ e, ((changeRoom Env.sample sampleKey "s_1" 1500 none sampleFresh₂).run
      (runCalls Env.sample sampleKey (sampleBooking ++ [.checkin "s_1" 1000 sampleFresh])).2).1
        = .error e ∧ e.isStayKeyError = true := ⟨_, rfl, rfl⟩
  obtain ⟨e, he, hdomain⟩ := hraised
  have hsame := congrArg Db.revocationList (hatomic e he hdomain)
  revert hsame
  decide

end StayKey.Store
