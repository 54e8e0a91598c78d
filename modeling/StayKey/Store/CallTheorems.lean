/-
StayKey.Store.CallTheorems — what each call does when it runs alone.

One lemma per call says how its run can end: with an exception and which
of its writes done, or with its result and all of them. Later proofs cite
these and never unfold a call.
-/
import StayKey.Store.Calls
import StayKey.Store.DbTheorems

namespace StayKey.Store

open StayKey.Codec StayKey.Door StayKey.Program

variable {E : Env} {sk : PrivateKey} {db : Db} {stayId : String} {now : Int} {fresh : Fresh}

/-! ## One statement -/

theorem run_stmt_bind {β : Type} (op : Stmt) (f : op.Res → Call β) (db : Db) :
    Call.run (op.call >>= f) db = match exec op db with
      | (.ok r, db') => Call.run (f r) db'
      | (.error e, db') => (.error e, db') := by
  have h := Prog.run_call exec op f db
  cases he : exec op db with
  | mk r db' =>
    rw [he] at h
    cases r <;> exact h

theorem run_bind {α β : Type} (p : Call α) (f : α → Call β) (db : Db) :
    Call.run (p >>= f) db = match p.run db with
      | (.ok a, db') => Call.run (f a) db'
      | (.error e, db') => (.error e, db') := by
  have h := Prog.run_bind exec p f db
  cases hp : p.run db with
  | mk r db' =>
    rw [show Prog.run exec p db = (r, db') from hp] at h
    cases r <;> exact h

theorem run_stmt (op : Stmt) (db : Db) : Call.run op.call db = exec op db := by
  rw [Stmt.call, Call.run, Prog.run_call]
  rcases exec op db with ⟨r | e, db'⟩ <;> rfl

/-- Every call on a stay first reads it. -/
theorem run_getStay_bind {β : Type} (f : Option StayRow → Call β) :
    Call.run (Stmt.call (.getStay stayId) >>= f) db = Call.run (f (db.getStay stayId)) db :=
  run_stmt_bind (.getStay stayId) f db

/-! ## Booking -/

/-- `assign_room` on a stay that is there. -/
theorem assignRoom_run {stay : StayRow} (h : db.getStay stayId = some stay)
    (preferred : Option Int) :
    (assignRoom stayId preferred).run db = match stay.roomId with
      | some roomId => (.ok roomId, db)
      | none => exec (.assignTransaction stayId stay preferred) db := by
  rw [assignRoom, run_getStay_bind, h]
  simp only
  cases stay.roomId with
  | some roomId => rfl
  | none => exact run_stmt _ db

theorem assignRoom_run_none (h : db.getStay stayId = none) (preferred : Option Int) :
    ∃ msg, (assignRoom stayId preferred).run db = (.error (.notFound msg), db) :=
  ⟨_, by rw [assignRoom, run_getStay_bind, h]; rfl⟩

/-- `reservation.change_room` on a stay that is there. -/
theorem moveRoom_run {stay : StayRow} (h : db.getStay stayId = some stay) (newRoomId : Option Int) :
    (moveRoom stayId newRoomId).run db = exec (.changeTransaction stayId stay newRoomId) db := by
  rw [moveRoom, run_getStay_bind, h]
  exact run_stmt _ db

/-! ## Issuing -/

/-- The stay has a room and the window of a key issued now is not empty. -/
def Issuable (stay : StayRow) (now : Int) : Prop :=
  (∃ roomId, stay.roomId = some roomId) ∧ stay.checkIn < min stay.checkOut (now + keyTtlSeconds)

/-- What a key issued now for the stay consists of. -/
structure IssuedFor (E : Env) (sk : PrivateKey) (db : Db) (stayId : String) (now : Int)
    (fresh : Fresh) (stay : StayRow) (roomId : Int) (issued : IssuedKey) : Prop where
  getStay : db.getStay stayId = some stay
  room : stay.roomId = some roomId
  window : stay.checkIn < min stay.checkOut (now + keyTtlSeconds)
  credential : issueCredential E sk (stayCredential stay stayId roomId now fresh) fresh = .ok issued

theorem IssuedFor.keyId {stay : StayRow} {roomId : Int} {issued : IssuedKey}
    (h : IssuedFor E sk db stayId now fresh stay roomId issued) :
    issued.keyId = (stayCredential stay stayId roomId now fresh).issuedKeyId fresh := by
  have hc := h.credential
  unfold issueCredential at hc
  split at hc
  · cases hc
  · split at hc <;> cases hc
    rfl

/-- **`issue_for_stay`** raises before it writes, or stores the row of the
key it returns. The error is one of the domain exactly when the stay is
missing or cannot be issued a key. -/
theorem issueForStay_run (E : Env) (sk : PrivateKey) (db : Db) (stayId : String) (now : Int)
    (fresh : Fresh) :
    (∃ e, (issueForStay E sk stayId now fresh).run db = (.error e, db) ∧
      (e.isStayKeyError = true ↔ ∀ stay, db.getStay stayId = some stay → ¬ Issuable stay now)) ∨
    ∃ stay roomId issued db', IssuedFor E sk db stayId now fresh stay roomId issued ∧
      db.addKey (stayKeyRow stay stayId roomId now issued) = .ok db' ∧
      (issueForStay E sk stayId now fresh).run db = (.ok issued, db') := by
  rw [issueForStay, run_getStay_bind]
  cases hs : db.getStay stayId with
  | none => exact .inl ⟨_, rfl, iff_of_true rfl fun stay h => by cases h⟩
  | some stay =>
    simp only [Option.some.injEq, forall_eq']
    cases hr : stay.roomId with
    | none =>
      refine .inl ⟨_, rfl, iff_of_true rfl ?_⟩
      rintro ⟨⟨r, hr'⟩, -⟩
      rw [hr] at hr'
      cases hr'
    | some roomId =>
      simp only
      by_cases hw : (effectiveWindow stay.checkIn stay.checkOut now).2
          ≤ (effectiveWindow stay.checkIn stay.checkOut now).1
      · rw [if_pos hw]
        exact .inl ⟨_, rfl, iff_of_true rfl fun h => absurd hw (not_le.mpr h.2)⟩
      · rw [if_neg hw]
        have hw' := not_le.mp hw
        have hissue : ¬ ¬ Issuable stay now := not_not_intro ⟨⟨roomId, hr⟩, hw'⟩
        cases hc : issueCredential E sk (stayCredential stay stayId roomId now fresh) fresh with
        | error e =>
          refine .inl ⟨e, rfl, iff_of_false (fun he => ?_) hissue⟩
          rw [issueCredential, if_neg (by exact hw)] at hc
          split at hc
          · cases hc; cases he
          · cases hc
        | ok issued =>
          simp only
          rw [run_stmt_bind, exec]
          cases ha : db.addKey (stayKeyRow stay stayId roomId now issued) with
          | error e =>
            refine .inl ⟨e, rfl, iff_of_false (fun he => ?_) hissue⟩
            unfold Db.addKey at ha
            split at ha
            · cases ha; cases he
            · split at ha <;> cases ha
              cases he
          | ok db' => exact .inr ⟨stay, roomId, issued, db', ⟨hs, hr, hw', hc⟩, ha, rfl⟩

/-- `issue_for_stay` on a stay that has a room. -/
theorem issueForStay_run_room {S : String} {stay : StayRow} {roomId : Int} (hs : db.getStay S = some stay)
    (hr : stay.roomId = some roomId) :
    (issueForStay E sk S now fresh).run db =
      if min stay.checkOut (now + keyTtlSeconds) ≤ stay.checkIn then
        (.error (.validation "stay window already elapsed; cannot issue key"), db)
      else
        match issueCredential E sk (stayCredential stay S roomId now fresh) fresh with
        | .error e => (.error e, db)
        | .ok issued =>
          match db.addKey (stayKeyRow stay S roomId now issued) with
          | .error e => (.error e, db)
          | .ok db' => (.ok issued, db') := by
  rw [issueForStay, run_getStay_bind, hs]
  simp only [hr]
  by_cases hw : (effectiveWindow stay.checkIn stay.checkOut now).2
      ≤ (effectiveWindow stay.checkIn stay.checkOut now).1
  · rw [if_pos hw, if_pos (by exact hw)]
    rfl
  · rw [if_neg hw, if_neg (by exact hw)]
    cases issueCredential E sk (stayCredential stay S roomId now fresh) fresh with
    | error e => rfl
    | ok issued =>
      simp only
      rw [run_stmt_bind, exec]
      cases db.addKey (stayKeyRow stay S roomId now issued) <;> rfl

/-! ## The lifecycle -/

theorem revokeKeys_run (reason : String) (keyIds : List String) :
    (revokeKeys now reason keyIds).run db = (.ok (), db.revokeAll now reason keyIds) := by
  induction keyIds generalizing db with
  | nil => rfl
  | cons k keyIds ih =>
    rw [revokeKeys, run_stmt_bind, exec]
    exact ih

/-- The database after the keys of a stay were deactivated and revoked. -/
def dropKeys (db : Db) (stayId : String) (now : Int) (reason : String) : Db :=
  (db.retireKeys stayId).revokeAll now reason (db.activeKeys stayId)

/-- Dropping keys touches the keys and the revocations alone. -/
theorem dropKeys_eq (db : Db) (stayId : String) (now : Int) (reason : String) :
    ∃ revocations, dropKeys db stayId now reason
      = { db with keys := (db.retireKeys stayId).keys, revocations } :=
  Db.revokeAll_eq (db.retireKeys stayId) now reason (db.activeKeys stayId)

theorem getStay_dropKeys (db : Db) (stayId : String) (now : Int) (reason S : String) :
    (dropKeys db stayId now reason).getStay S = db.getStay S := by
  obtain ⟨r, hr⟩ := dropKeys_eq db stayId now reason
  rw [hr]
  rfl

theorem activeKeys_retireKeys (db : Db) (stayId : String) :
    (db.retireKeys stayId).activeKeys stayId = [] :=
  Db.activeKeys_eq_nil_iff.mpr fun k hk hs => by
    by_contra ha
    exact (Db.active_retireKeys.mp ⟨hk, by simpa using ha⟩).2.2 hs

theorem activeKeys_dropKeys (db : Db) (stayId : String) (now : Int) (reason : String) :
    (dropKeys db stayId now reason).activeKeys stayId = [] := by
  obtain ⟨r, hr⟩ := dropKeys_eq db stayId now reason
  rw [hr]
  exact activeKeys_retireKeys db stayId

theorem retireKeys_eq_self (h : db.activeKeys stayId = []) : db.retireKeys stayId = db := by
  rw [Db.retireKeys, Table.updateWhere_eq_self]
  intro k hk
  by_cases hs : k.stayId = stayId
  · simp [Db.activeKeys_eq_nil_iff.mp h k hk hs]
  · simp [hs]

theorem dropKeys_eq_self (h : db.activeKeys stayId = []) (now : Int) (reason : String) :
    dropKeys db stayId now reason = db := by
  rw [dropKeys, h, retireKeys_eq_self h]
  rfl

theorem dropKeys_run {β : Type} (reason : String) (f : List String → Call β) :
    Call.run (do
      let revoked ← deactivateKeysForStay stayId
      revokeKeys now reason revoked
      f revoked) db
      = Call.run (f (db.activeKeys stayId)) (dropKeys db stayId now reason) := by
  have hd : (deactivateKeysForStay stayId).run db
      = (.ok (db.activeKeys stayId), db.retireKeys stayId) := rfl
  rw [run_bind, hd]
  simp only
  rw [run_bind, revokeKeys_run]
  rfl

/-- **`checkout`**: there is nothing in it that raises once the stay is found. -/
theorem checkout_run {stay : StayRow} (h : db.getStay stayId = some stay) :
    (checkout stayId now).run db = (.ok (db.activeKeys stayId),
      ((dropKeys db stayId now "checkout").retireAssignments stayId).setStayStatus stayId
        .checkedOut) := by
  rw [checkout, run_getStay_bind, h]
  simp only
  rw [dropKeys_run]
  rfl

theorem checkout_run_none (now : Int) (h : db.getStay stayId = none) :
    ∃ msg, (checkout stayId now).run db = (.error (.notFound msg), db) :=
  ⟨_, by rw [checkout, run_getStay_bind, h]; rfl⟩

/-- The stay is there and not checked out: the guard of `refresh_key` and of
`change_room`. -/
def Open (db : Db) (stayId : String) : Prop :=
  ∃ stay, db.getStay stayId = some stay ∧ stay.status ≠ .checkedOut

/-- **`refresh_key`**: past its guard, the prior keys are deactivated before
a new one is issued. -/
theorem refreshKey_run (E : Env) (sk : PrivateKey) (db : Db) (stayId : String) (now : Int)
    (fresh : Fresh) :
    (¬ Open db stayId ∧ ∃ e, e.isStayKeyError = true ∧
      (refreshKey E sk stayId now fresh).run db = (.error e, db)) ∨
    Open db stayId ∧ (refreshKey E sk stayId now fresh).run db
      = (issueForStay E sk stayId now fresh).run (db.retireKeys stayId) := by
  rw [refreshKey, run_getStay_bind]
  cases hs : db.getStay stayId with
  | none =>
    refine .inl ⟨?_, _, rfl, rfl⟩
    rintro ⟨stay', h, -⟩
    rw [hs] at h
    cases h
  | some stay =>
    simp only
    by_cases hst : stay.status = .checkedOut
    · rw [if_pos hst]
      refine .inl ⟨?_, _, rfl, rfl⟩
      rintro ⟨stay', h, hne⟩
      rw [hs] at h
      cases h
      exact hne hst
    · rw [if_neg hst]
      exact .inr ⟨⟨stay, hs, hst⟩, rfl⟩

/-- **`lifecycle.change_room`**: past its guard, the keys are dropped, then
the room is changed, then a key is issued. -/
theorem changeRoom_run (E : Env) (sk : PrivateKey) (db : Db) (stayId : String) (now : Int)
    (newRoomId : Option Int) (fresh : Fresh) :
    (¬ Open db stayId ∧ ∃ e, e.isStayKeyError = true ∧
      (changeRoom E sk stayId now newRoomId fresh).run db = (.error e, db)) ∨
    ∃ stay, db.getStay stayId = some stay ∧ stay.status ≠ .checkedOut ∧
      (changeRoom E sk stayId now newRoomId fresh).run db =
        match exec (.changeTransaction stayId stay newRoomId)
            (dropKeys db stayId now "room_change") with
        | (.error e, db₂) => (.error e, db₂)
        | (.ok newRoom, db₂) =>
          match (issueForStay E sk stayId now fresh).run db₂ with
          | (.error e, db₃) => (.error e, db₃)
          | (.ok issued, db₃) => (.ok (newRoom, db.activeKeys stayId, issued), db₃) := by
  rw [changeRoom, run_getStay_bind]
  cases hs : db.getStay stayId with
  | none =>
    refine .inl ⟨?_, _, rfl, rfl⟩
    rintro ⟨stay', h, -⟩
    rw [hs] at h
    cases h
  | some stay =>
    simp only
    by_cases hst : stay.status = .checkedOut
    · rw [if_pos hst]
      refine .inl ⟨?_, _, rfl, rfl⟩
      rintro ⟨stay', h, hne⟩
      rw [hs] at h
      cases h
      exact hne hst
    · rw [if_neg hst]
      refine .inr ⟨stay, rfl, hst, ?_⟩
      have hget : (dropKeys db stayId now "room_change").getStay stayId = some stay :=
        (getStay_dropKeys ..).trans hs
      rw [dropKeys_run, run_bind, moveRoom_run hget]
      rcases exec (.changeTransaction stayId stay newRoomId)
        (dropKeys db stayId now "room_change") with ⟨e | newRoom, db₂⟩
      · rfl
      · simp only
        rw [run_bind]
        rcases (issueForStay E sk stayId now fresh).run db₂ with ⟨e | issued, db₃⟩ <;> rfl

/-- **Check-in**: whatever the status was, it is set before the key is issued. -/
theorem checkin_run {stay : StayRow} (h : db.getStay stayId = some stay) :
    (checkin E sk stayId now fresh).run db
      = (issueForStay E sk stayId now fresh).run (db.setStayStatus stayId .checkedIn) := by
  rw [checkin, run_getStay_bind, h]
  rfl

theorem checkin_run_none (E : Env) (sk : PrivateKey) (now : Int) (fresh : Fresh)
    (h : db.getStay stayId = none) :
    ∃ msg, (checkin E sk stayId now fresh).run db = (.error (.notFound msg), db) :=
  ⟨_, by rw [checkin, run_getStay_bind, h]; rfl⟩

/-! ## Keys that are handed out -/

/-- The key was issued in the database `db` and stored, which left `db'`. -/
def IssuedIn (E : Env) (sk : PrivateKey) (db db' : Db) (stayId : String) (now : Int) (fresh : Fresh)
    (key : IssuedKey) : Prop :=
  ∃ stay roomId, IssuedFor E sk db stayId now fresh stay roomId key ∧
    db.addKey (stayKeyRow stay stayId roomId now key) = .ok db'

variable {db' : Db} {key : IssuedKey}

theorem issueForStay_issued (h : (issueForStay E sk stayId now fresh).run db = (.ok key, db')) :
    IssuedIn E sk db db' stayId now fresh key := by
  obtain ⟨e, hrun, -⟩ | ⟨stay, roomId, issued, db₁, hissued, hadd, hrun⟩ :=
    issueForStay_run E sk db stayId now fresh
  · rw [hrun] at h
    cases h
  · rw [hrun] at h
    cases h
    exact ⟨stay, roomId, hissued, hadd⟩

theorem checkin_issued (h : (checkin E sk stayId now fresh).run db = (.ok key, db')) :
    IssuedIn E sk (db.setStayStatus stayId .checkedIn) db' stayId now fresh key := by
  cases hs : db.getStay stayId with
  | none =>
    obtain ⟨msg, hrun⟩ := checkin_run_none E sk now fresh hs
    rw [hrun] at h
    cases h
  | some stay =>
    rw [checkin_run hs] at h
    exact issueForStay_issued h

theorem refreshKey_issued (h : (refreshKey E sk stayId now fresh).run db = (.ok key, db')) :
    Open db stayId ∧ IssuedIn E sk (db.retireKeys stayId) db' stayId now fresh key := by
  obtain ⟨-, e, -, hrun⟩ | ⟨hopen, hrun⟩ := refreshKey_run E sk db stayId now fresh
  · rw [hrun] at h
    cases h
  · rw [hrun] at h
    exact ⟨hopen, issueForStay_issued h⟩

/-- The key of a move is issued after the new room was booked. -/
theorem changeRoom_issued {newRoomId : Option Int} {r : Int × List String × IssuedKey}
    (h : (changeRoom E sk stayId now newRoomId fresh).run db = (.ok r, db')) :
    ∃ stay db₁, db.getStay stayId = some stay ∧ stay.status ≠ .checkedOut ∧
      exec (.changeTransaction stayId stay newRoomId) (dropKeys db stayId now "room_change")
        = (.ok r.1, db₁) ∧
      IssuedIn E sk db₁ db' stayId now fresh r.2.2 := by
  obtain ⟨-, e, -, hrun⟩ | ⟨stay, hs, hst, hrun⟩ := changeRoom_run E sk db stayId now newRoomId fresh
  · rw [hrun] at h
    cases h
  · rw [hrun] at h
    rcases hx : exec (.changeTransaction stayId stay newRoomId) (dropKeys db stayId now "room_change")
      with ⟨e | newRoom, db₁⟩ <;> rw [hx] at h
    · cases h
    · simp only at h
      rcases hi : (issueForStay E sk stayId now fresh).run db₁ with ⟨e | issued, db₂⟩ <;> rw [hi] at h
      · cases h
      · cases h
        exact ⟨stay, db₁, hs, hst, hx, issueForStay_issued hi⟩

end StayKey.Store
