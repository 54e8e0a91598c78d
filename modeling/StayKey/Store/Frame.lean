/-
StayKey.Store.Frame — a call on one stay leaves the rows of every other
stay alone.

`Stmt.Spares S op` says that the statement writes no row of the stay `S`;
`SameRows S db db'` that the stay row, the assignments and the keys of `S`
are the same in both databases. Statements that spare `S` keep its rows
(`frame_exec`), hence so do programs made of such statements (`frame_run`).
One lemma per call says which statements it runs (`checkout_only` and its
neighbours); on another stay they all spare `S` (`checkout_spares`).
Revocations are not part of a stay's rows: they only grow (`Extends`).
-/
import StayKey.Store.CallTheorems
import StayKey.Store.Extends

namespace StayKey.Store

open StayKey.Codec StayKey.Door StayKey.Program

/-- The rows of the stay `S` are the same in both databases. -/
structure SameRows (S : String) (db db' : Db) : Prop where
  stay : db'.getStay S = db.getStay S
  assignments : ∀ a : AssignmentRow, a.stayId = S → (a ∈ db'.assignments ↔ a ∈ db.assignments)
  keys : ∀ k : KeyRow, k.stayId = S → (k ∈ db'.keys ↔ k ∈ db.keys)

theorem SameRows.refl (S : String) (db : Db) : SameRows S db db :=
  ⟨rfl, fun _ _ => Iff.rfl, fun _ _ => Iff.rfl⟩

theorem SameRows.trans {S : String} {db₁ db₂ db₃ : Db} (h : SameRows S db₁ db₂)
    (h' : SameRows S db₂ db₃) : SameRows S db₁ db₃ where
  stay := h'.stay.trans h.stay
  assignments a ha := (h'.assignments a ha).trans (h.assignments a ha)
  keys k hk := (h'.keys k hk).trans (h.keys k hk)

/-- The statement writes no row of the stay `S`. -/
def Stmt.Spares (S : String) : Stmt → Prop
  | .addStay stayId .. | .setStayStatus stayId _ | .retireKeys stayId | .retireAssignments stayId
  | .assignTransaction stayId .. | .changeTransaction stayId .. => stayId ≠ S
  | .addKey row => row.stayId ≠ S
  | .addGuest .. | .addRoom .. | .guestExists _ | .getRoom _ | .getStay _ | .activeKeys _
  | .revokeKey .. | .revocationList => True

/-! ## Statement by statement -/

variable {S stayId : String} {db db' : Db}

/-- The id of a stay that is added is new, so no other stay is touched. -/
theorem sameRows_addStay {guestId propertyId roomType : String} {checkIn checkOut : Int}
    (hne : stayId ≠ S) (h : db.addStay stayId guestId propertyId roomType checkIn checkOut = .ok db') :
    SameRows S db db' := by
  obtain ⟨-, stays, rfl, hmem⟩ := Db.addStay_ok h
  refine ⟨Option.ext fun s => ?_, fun _ _ => Iff.rfl, fun _ _ => Iff.rfl⟩
  rw [Db.getStay_eq_some_iff, Db.getStay_eq_some_iff]
  constructor
  · rintro ⟨hs, hid⟩
    rcases (hmem s).mp hs with hs | rfl
    · exact ⟨hs, hid⟩
    · exact absurd hid hne
  · rintro ⟨hs, hid⟩
    exact ⟨(hmem s).mpr (.inl hs), hid⟩

/-- A key is stored for its own stay. -/
theorem sameRows_addKey {row : KeyRow} (hne : row.stayId ≠ S) (h : db.addKey row = .ok db') :
    SameRows S db db' := by
  have hmem (k : KeyRow) : k ∈ db'.keys ↔ k ∈ db.keys ∨ k = row := Db.mem_addKey h
  obtain ⟨-, -, keys, rfl⟩ := Db.addKey_ok h
  refine ⟨rfl, fun _ _ => Iff.rfl, fun k hk => ?_⟩
  rw [hmem]
  exact or_iff_left fun he => hne (he ▸ hk)

/-- `UPDATE stays ... WHERE stay_id = ?` writes the one row. -/
theorem sameRows_setStayStatus (hne : stayId ≠ S) (status : StayStatus) :
    SameRows S db (db.setStayStatus stayId status) := by
  refine ⟨?_, fun _ _ => Iff.rfl, fun _ _ => Iff.rfl⟩
  rw [Db.getStay_setStayStatus]
  simp only [if_neg hne.symm, Option.map_id']

/-- A key of `S` that the update returns was not written by it. -/
theorem sameRows_retireKeys (hne : stayId ≠ S) : SameRows S db (db.retireKeys stayId) := by
  refine ⟨rfl, fun _ _ => Iff.rfl, fun k hk => ?_⟩
  rw [Db.mem_retireKeys]
  constructor
  · rintro ⟨k₀, hk₀, rfl⟩
    by_cases hs : k₀.stayId = stayId
    · rw [if_pos hs] at hk
      exact absurd (hs.symm.trans hk) hne
    · rwa [if_neg hs]
  · intro hmem
    exact ⟨k, hmem, by rw [if_neg (hk ▸ hne.symm)]⟩

theorem sameRows_retireAssignments (hne : stayId ≠ S) :
    SameRows S db (db.retireAssignments stayId) := by
  refine ⟨rfl, fun a ha => ?_, fun _ _ => Iff.rfl⟩
  rw [Db.mem_retireAssignments]
  constructor
  · rintro ⟨a₀, ha₀, rfl⟩
    by_cases hs : a₀.stayId = stayId
    · rw [if_pos hs] at ha
      exact absurd (hs.symm.trans ha) hne
    · rwa [if_neg hs]
  · intro hmem
    exact ⟨a, hmem, by rw [if_neg (ha ▸ hne.symm)]⟩

/-- A booking adds a row for its own stay and sets the room of that stay. -/
theorem sameRows_occupied (hne : stayId ≠ S) (stay : StayRow) (chosen : Int) :
    SameRows S db (db.occupied stayId stay chosen) := by
  refine ⟨?_, fun a ha => ?_, fun _ _ => Iff.rfl⟩
  · rw [Db.getStay_occupied]
    simp only [if_neg hne.symm, Option.map_id']
  · rw [Db.mem_occupied]
    exact or_iff_left fun he => hne (by rw [he] at ha; exact ha)

/-- **A statement that spares a stay keeps its rows.** -/
theorem frame_exec {op : Stmt} (h : op.Spares S) (db : Db) : SameRows S db (exec op db).2 := by
  cases op with
  | addGuest guestId name email =>
    refine write_preserves (.refl S db) fun db' hdb => ?_
    obtain ⟨guests, rfl⟩ := Db.addGuest_ok hdb
    exact ⟨rfl, fun _ _ => Iff.rfl, fun _ _ => Iff.rfl⟩
  | addRoom roomId propertyId number roomType =>
    refine write_preserves (.refl S db) fun db' hdb => ?_
    obtain ⟨rooms, rfl, -⟩ := Db.addRoom_ok hdb
    exact ⟨rfl, fun _ _ => Iff.rfl, fun _ _ => Iff.rfl⟩
  | addStay => exact write_preserves (.refl S db) fun _ hdb => sameRows_addStay h hdb
  | addKey row => exact write_preserves (.refl S db) fun _ hdb => sameRows_addKey h hdb
  | setStayStatus stayId status => exact sameRows_setStayStatus h status
  | retireKeys stayId => exact sameRows_retireKeys h
  | retireAssignments stayId => exact sameRows_retireAssignments h
  | revokeKey keyId revokedAt reason =>
    obtain ⟨r, hr⟩ := Db.revokeKey_eq db keyId revokedAt reason
    simp only [exec, hr]
    exact ⟨rfl, fun _ _ => Iff.rfl, fun _ _ => Iff.rfl⟩
  | assignTransaction stayId stay preferred =>
    obtain ⟨e, he, -⟩ | ⟨chosen, he, -⟩ := Db.assignTransaction_booking stayId stay preferred db
    · rw [he]; exact .refl S db
    · rw [he]; exact sameRows_occupied h stay chosen
  | changeTransaction stayId stay newRoomId =>
    obtain ⟨e, he, -⟩ | ⟨chosen, he, -⟩ := Db.changeTransaction_booking stayId stay newRoomId db
    · rw [he]; exact .refl S db
    · rw [he]
      exact (sameRows_retireAssignments h).trans (sameRows_occupied h stay chosen)
  | guestExists | getRoom | getStay | activeKeys | revocationList => exact .refl S db

/-- **A program that spares a stay keeps its rows.** -/
theorem frame_run {α : Type} {p : Call α} (h : p.Only (Stmt.Spares S)) (db : Db) :
    SameRows S db (p.run db).2 :=
  Prog.run_preserves exec (fun _ db' hop hdb => hdb.trans (frame_exec hop db')) h (.refl S db)

/-! ## What each call runs -/

section Footprints

variable {E : Env} {sk : PrivateKey} {now : Int} {fresh : Fresh} {P : Stmt → Prop}

theorem call_only (op : Stmt) (h : P op) : op.call.Only P := ⟨h, fun _ => trivial⟩

/-- `assign_room` reads its stay and may run the booking transaction. -/
theorem assignRoom_only (hget : P (.getStay stayId))
    (hassign : ∀ stay preferred, P (.assignTransaction stayId stay preferred))
    (preferred : Option Int) : (assignRoom stayId preferred).Only P := by
  refine ⟨hget, fun stay => ?_⟩
  cases stay with
  | none => trivial
  | some stay =>
    simp only [Prog.bind]
    cases stay.roomId with
    | some roomId => trivial
    | none => exact ⟨hassign stay preferred, fun _ => trivial⟩

/-- `change_room` of the reservations reads its stay and may run its
transaction. -/
theorem moveRoom_only (hget : P (.getStay stayId))
    (hchange : ∀ stay newRoomId, P (.changeTransaction stayId stay newRoomId))
    (newRoomId : Option Int) : (moveRoom stayId newRoomId).Only P := by
  refine ⟨hget, fun stay => ?_⟩
  cases stay with
  | none => trivial
  | some stay => exact ⟨hchange stay newRoomId, fun _ => trivial⟩

/-- Issuing reads the stay and may store one key for it. -/
theorem issueForStay_only (hget : P (.getStay stayId))
    (hadd : ∀ row, row.stayId = stayId → P (.addKey row)) :
    (issueForStay E sk stayId now fresh).Only P := by
  refine ⟨hget, fun stay => ?_⟩
  cases stay with
  | none => trivial
  | some stay =>
    simp only [Prog.bind]
    cases stay.roomId with
    | none => trivial
    | some roomId =>
      simp only
      split
      · trivial
      · split
        · trivial
        · exact ⟨hadd _ rfl, fun _ => trivial⟩

/-- The revocations are written one key at a time. -/
theorem revokeKeys_only (hrevoke : ∀ keyId t reason, P (.revokeKey keyId t reason)) (reason : String)
    (keyIds : List String) : (revokeKeys now reason keyIds).Only P := by
  induction keyIds with
  | nil => trivial
  | cons k keyIds ih => exact ⟨hrevoke k now reason, fun _ => ih⟩

theorem deactivateKeysForStay_only (hactive : P (.activeKeys stayId))
    (hretire : P (.retireKeys stayId)) : (deactivateKeysForStay stayId).Only P :=
  ⟨hactive, fun _ => ⟨hretire, fun _ => trivial⟩⟩

/-- A refresh deactivates the keys of the stay, then issues. -/
theorem refreshKey_only (hget : P (.getStay stayId)) (hretire : P (.retireKeys stayId))
    (hadd : ∀ row, row.stayId = stayId → P (.addKey row)) :
    (refreshKey E sk stayId now fresh).Only P := by
  refine ⟨hget, fun stay => ?_⟩
  cases stay with
  | none => trivial
  | some stay =>
    simp only [Prog.bind]
    split
    · trivial
    · exact ⟨hretire, fun _ => issueForStay_only hget hadd⟩

/-- A checkout writes its stay, the keys and the assignments of it, and
revocations. -/
theorem checkout_only (hget : P (.getStay stayId)) (hactive : P (.activeKeys stayId))
    (hretire : P (.retireKeys stayId)) (hrevoke : ∀ keyId t reason, P (.revokeKey keyId t reason))
    (hassignments : P (.retireAssignments stayId)) (hstatus : P (.setStayStatus stayId .checkedOut)) :
    (checkout stayId now).Only P := by
  refine ⟨hget, fun stay => ?_⟩
  cases stay with
  | none => trivial
  | some stay =>
    exact (deactivateKeysForStay_only hactive hretire).bind fun revoked =>
      (revokeKeys_only hrevoke "checkout" revoked).bind fun _ =>
        ⟨hassignments, fun _ => ⟨hstatus, fun _ => trivial⟩⟩

/-- A room change drops the keys, moves the stay and issues; it ends early
wherever one of these raises. -/
theorem changeRoom_only (hget : P (.getStay stayId)) (hactive : P (.activeKeys stayId))
    (hretire : P (.retireKeys stayId)) (hrevoke : ∀ keyId t reason, P (.revokeKey keyId t reason))
    (hchange : ∀ stay newRoomId, P (.changeTransaction stayId stay newRoomId))
    (hadd : ∀ row, row.stayId = stayId → P (.addKey row)) (newRoomId : Option Int) :
    (changeRoom E sk stayId now newRoomId fresh).Only P := by
  refine ⟨hget, fun stay => ?_⟩
  cases stay with
  | none => trivial
  | some stay =>
    simp only [Prog.bind]
    split
    · trivial
    · exact (deactivateKeysForStay_only hactive hretire).bind fun revoked =>
        (revokeKeys_only hrevoke "room_change" revoked).bind fun _ =>
          (moveRoom_only hget hchange newRoomId).bind fun _ =>
            (issueForStay_only hget hadd).bind fun _ => trivial

/-- A check-in sets the status before it issues. -/
theorem checkin_only (hget : P (.getStay stayId)) (hstatus : P (.setStayStatus stayId .checkedIn))
    (hadd : ∀ row, row.stayId = stayId → P (.addKey row)) :
    (checkin E sk stayId now fresh).Only P := by
  refine ⟨hget, fun stay => ?_⟩
  cases stay with
  | none => trivial
  | some stay => exact ⟨hstatus, fun _ => issueForStay_only hget hadd⟩

end Footprints

/-! ## The calls on other stays -/

variable {E : Env} {sk : PrivateKey} {now : Int} {fresh : Fresh}

theorem assignRoom_spares (h : stayId ≠ S) (preferred : Option Int) :
    (assignRoom stayId preferred).Only (Stmt.Spares S) :=
  assignRoom_only trivial (fun _ _ => h) preferred

theorem issueForStay_spares (h : stayId ≠ S) :
    (issueForStay E sk stayId now fresh).Only (Stmt.Spares S) :=
  issueForStay_only trivial fun _ hrow => hrow.trans_ne h

theorem refreshKey_spares (h : stayId ≠ S) :
    (refreshKey E sk stayId now fresh).Only (Stmt.Spares S) :=
  refreshKey_only trivial h fun _ hrow => hrow.trans_ne h

theorem checkout_spares (h : stayId ≠ S) : (checkout stayId now).Only (Stmt.Spares S) :=
  checkout_only trivial trivial h (fun _ _ _ => trivial) h h

theorem changeRoom_spares (h : stayId ≠ S) (newRoomId : Option Int) :
    (changeRoom E sk stayId now newRoomId fresh).Only (Stmt.Spares S) :=
  changeRoom_only trivial trivial h (fun _ _ _ => trivial) (fun _ _ => h)
    (fun _ hrow => hrow.trans_ne h) newRoomId

theorem checkin_spares (h : stayId ≠ S) :
    (checkin E sk stayId now fresh).Only (Stmt.Spares S) :=
  checkin_only trivial h fun _ hrow => hrow.trans_ne h

end StayKey.Store
