/-
StayKey.Store.Reserved — keys of a stay that is still reserved.

`KeylessAt` says of one stay that it has no key while it is reserved. The
check-in sets the status before it issues, so it keeps this; a refresh and
a move ask only for a stay that is not checked out, so they keep it where
the stay is not reserved, or where no key can be issued
(`keylessAt_refreshKey`, `keylessAt_changeRoom`).
-/
import StayKey.Store.Atomicity
import StayKey.Store.KeyRows
import StayKey.Store.Status

namespace StayKey.Store

open StayKey.Codec StayKey.Door StayKey.Program

variable {E : Env} {sk : PrivateKey} {db db' : Db} {S stayId : String} {now : Int} {fresh : Fresh}
  {status : StayStatus}

/-! ## Where a status comes from -/

/-- The statement gives the stay another status than this one, or none. -/
def Stmt.GivesNot (S : String) (status : StayStatus) : Stmt → Prop
  | .setStayStatus stayId status' => stayId = S → status' ≠ status
  | .addStay stayId .. => stayId = S → status ≠ .reserved
  | .addGuest .. | .addRoom .. | .guestExists _ | .getRoom _ | .getStay _ | .addKey _ | .activeKeys _
  | .retireKeys _ | .revokeKey .. | .revocationList | .retireAssignments _ | .assignTransaction ..
  | .changeTransaction .. => True

theorem statusIs_of_occupied {stay : StayRow} {chosen : Int}
    (h : StatusIs (db.occupied stayId stay chosen) S status) : StatusIs db S status := by
  obtain ⟨s', hs', hst⟩ := h
  rw [Db.getStay_occupied] at hs'
  obtain ⟨s, hs, rfl⟩ := Option.map_eq_some_iff.mp hs'
  refine ⟨s, hs, ?_⟩
  split at hst <;> exact hst

/-- **A status that a statement does not give was there before.** -/
theorem statusIs_of_exec {op : Stmt} (hop : op.GivesNot S status)
    (h : StatusIs (exec op db).2 S status) : StatusIs db S status := by
  by_cases hspares : op.Spares S
  · exact (statusIs_congr (frame_exec hspares db).stay).mp h
  cases op with
  | addStay stayId guestId propertyId roomType checkIn checkOut =>
    obtain rfl : stayId = S := not_not.mp hspares
    simp only [exec] at h
    cases ha : db.addStay stayId guestId propertyId roomType checkIn checkOut with
    | error e => rw [ha] at h; exact h
    | ok db' =>
      rw [ha] at h
      obtain ⟨s, hs, hst⟩ := h
      obtain ⟨-, stays, rfl, hmem⟩ := Db.addStay_ok ha
      obtain ⟨hs, hid⟩ := Db.getStay_eq_some_iff.mp hs
      rcases (hmem s).mp hs with hs | rfl
      · exact ⟨s, Db.getStay_eq_some_iff.mpr ⟨hs, hid⟩, hst⟩
      · exact absurd hst.symm (hop rfl)
  | setStayStatus stayId status' =>
    obtain rfl : stayId = S := not_not.mp hspares
    obtain ⟨s', hs', hst⟩ := h
    simp only [exec] at hs'
    rw [Db.getStay_setStayStatus] at hs'
    obtain ⟨s, -, rfl⟩ := Option.map_eq_some_iff.mp hs'
    rw [if_pos rfl] at hst
    exact absurd hst (hop rfl)
  | addKey row =>
    simp only [exec] at h
    cases ha : db.addKey row with
    | error e => rw [ha] at h; exact h
    | ok db' =>
      obtain ⟨-, -, keys, rfl⟩ := Db.addKey_ok ha
      rw [ha] at h
      exact h
  | assignTransaction stayId stay preferred =>
    obtain ⟨e, he, -⟩ | ⟨chosen, he, -⟩ := Db.assignTransaction_booking stayId stay preferred db
    · rw [he] at h; exact h
    · rw [he] at h; exact statusIs_of_occupied h
  | changeTransaction stayId stay newRoomId =>
    obtain ⟨e, he, -⟩ | ⟨chosen, he, -⟩ := Db.changeTransaction_booking stayId stay newRoomId db
    · rw [he] at h; exact h
    · rw [he] at h
      have hretired := statusIs_of_occupied h
      exact hretired
  | retireKeys | retireAssignments => exact h
  | addGuest | addRoom | guestExists | getRoom | getStay | activeKeys | revokeKey | revocationList =>
    exact absurd trivial hspares

theorem statusIs_of_run {α : Type} {p : Call α} (hp : p.Only (Stmt.GivesNot S status))
    (h : StatusIs (p.run db).2 S status) : StatusIs db S status :=
  Prog.run_preserves exec (I := fun db' => StatusIs db' S status → StatusIs db S status)
    (fun _ _ hop hdb h => hdb (statusIs_of_exec hop h)) hp id h

/-! ## Stays without a key -/

/-- While the stay is reserved it has no key. -/
def KeylessAt (db : Db) (S : String) : Prop :=
  StatusIs db S .reserved → ∀ k ∈ db.keys, k.stayId ≠ S

theorem keylessAt_of_status (h : StatusIs db S status) (hne : status ≠ .reserved) : KeylessAt db S :=
  fun hreserved => absurd (h.unique hreserved) hne

theorem KeylessAt.frame (h : KeylessAt db S) (hrows : SameRows S db db') : KeylessAt db' S :=
  fun hreserved k hk hs =>
    h ((statusIs_congr hrows.stay).mp hreserved) k ((hrows.keys k hs).mp hk) hs

/-- The statement neither makes the stay a reserved one nor stores a key for it. -/
def Stmt.KeepsKeyless (S : String) (op : Stmt) : Prop :=
  op.GivesNot S .reserved ∧ ∀ row, op = .addKey row → row.stayId ≠ S

theorem keylessAt_exec (op : Stmt) (hop : op.KeepsKeyless S) (h : KeylessAt db S) :
    KeylessAt (exec op db).2 S := by
  intro hreserved k hk
  have hbefore := h (statusIs_of_exec hop.1 hreserved)
  rcases mem_keys_exec op hk with ⟨k₀, hk₀, rfl | rfl⟩ | hadd
  · exact hbefore k hk₀
  · exact hbefore k₀ hk₀
  · exact hop.2 k hadd

theorem keylessAt_run {α : Type} {p : Call α} (hp : p.Only (Stmt.KeepsKeyless S))
    (h : KeylessAt db S) : KeylessAt (p.run db).2 S :=
  Prog.run_preserves exec (fun _ db' hop (h : KeylessAt db' S) => keylessAt_exec _ hop h) hp h

/-- A new stay has no key: keys are for stays that are there. -/
theorem keylessAt_addStay {guestId propertyId roomType : String} {checkIn checkOut : Int}
    (hagree : Agree db) (h : KeylessAt db S)
    (hadd : db.addStay stayId guestId propertyId roomType checkIn checkOut = .ok db') :
    KeylessAt db' S := by
  by_cases hid : stayId = S
  · subst hid
    intro _ k hk hs
    obtain ⟨hnew, stays, rfl, -⟩ := Db.addStay_ok hadd
    obtain ⟨s, hget, -⟩ := hagree.keyStay k hk
    obtain ⟨hmem, hkey⟩ := Db.getStay_eq_some_iff.mp hget
    exact hnew s hmem (hkey.trans hs)
  · exact h.frame (sameRows_addStay hid hadd)

theorem keylessAt_assignRoom (h : KeylessAt db S) (preferred : Option Int) :
    KeylessAt ((assignRoom stayId preferred).run db).2 S :=
  keylessAt_run (assignRoom_only ⟨trivial, nofun⟩ (fun _ _ => ⟨trivial, nofun⟩) preferred) h

theorem keylessAt_retireKeys (h : KeylessAt db S) (stayId : String) :
    KeylessAt (db.retireKeys stayId) S :=
  keylessAt_exec (.retireKeys stayId) ⟨trivial, nofun⟩ h

theorem keylessAt_dropKeys (h : KeylessAt db S) (stayId : String) (now : Int) (reason : String) :
    KeylessAt (dropKeys db stayId now reason) S := by
  obtain ⟨r, hr⟩ := dropKeys_eq db stayId now reason
  rw [hr]
  exact keylessAt_retireKeys h stayId

/-- After a check-in the stay is not reserved. -/
theorem keylessAt_checkin (h : KeylessAt db S) :
    KeylessAt ((checkin E sk stayId now fresh).run db).2 S := by
  by_cases hid : stayId = S
  · subst hid
    cases hs : db.getStay stayId with
    | none =>
      obtain ⟨msg, hrun⟩ := checkin_run_none E sk now fresh hs
      rw [hrun]
      exact h
    | some stay => exact keylessAt_of_status (status_checkin hs) nofun
  · exact h.frame (frame_run (checkin_spares hid) db)

/-- No key is issued where none can be. -/
theorem keylessAt_issueForStay (h : KeylessAt db S)
    (hno : ∀ stay, db.getStay stayId = some stay → ¬ Issuable stay now) :
    KeylessAt ((issueForStay E sk stayId now fresh).run db).2 S := by
  obtain ⟨e, hrun, -⟩ | ⟨stay, roomId, issued, db', hfor, -, -⟩ :=
    issueForStay_run E sk db stayId now fresh
  · rw [hrun]
    exact h
  · exact absurd ⟨⟨roomId, hfor.room⟩, hfor.window⟩ (hno stay hfor.getStay)

/-- **A refresh** keeps a stay keyless where it is no longer reserved or no
key can be issued for it. -/
theorem keylessAt_refreshKey (h : KeylessAt db S)
    (hno : ∀ stay, db.getStay stayId = some stay → stay.status = .reserved → ¬ Issuable stay now) :
    KeylessAt ((refreshKey E sk stayId now fresh).run db).2 S := by
  by_cases hid : stayId = S
  swap
  · exact h.frame (frame_run (refreshKey_spares hid) db)
  subst hid
  obtain ⟨-, e, -, hrun⟩ | ⟨⟨stay, hs, -⟩, hrun⟩ := refreshKey_run E sk db stayId now fresh
  · rw [hrun]
    exact h
  by_cases hst : stay.status = .reserved
  · rw [hrun]
    refine keylessAt_issueForStay (keylessAt_retireKeys h stayId) fun stay' hs' => ?_
    obtain rfl : stay = stay' := Option.some.inj (hs.symm.trans hs')
    exact hno stay hs hst
  · exact keylessAt_of_status (status_refreshKey ⟨stay, hs, rfl⟩) hst

/-- **A move** likewise, where no room is free or the window is empty. -/
theorem keylessAt_changeRoom (h : KeylessAt db S) {newRoomId : Option Int}
    (hno : ∀ stay, db.getStay stayId = some stay → stay.status = .reserved →
      ¬ (HasAlternative db stay newRoomId ∧ stay.checkIn < min stay.checkOut (now + keyTtlSeconds))) :
    KeylessAt ((changeRoom E sk stayId now newRoomId fresh).run db).2 S := by
  by_cases hid : stayId = S
  swap
  · exact h.frame (frame_run (changeRoom_spares hid newRoomId) db)
  subst hid
  obtain ⟨-, e, -, hrun⟩ | ⟨stay, hs, -, hrun⟩ := changeRoom_run E sk db stayId now newRoomId fresh
  · rw [hrun]
    exact h
  by_cases hst : stay.status = .reserved
  swap
  · exact keylessAt_of_status (status_changeRoom ⟨stay, hs, rfl⟩ newRoomId) hst
  have hdrop := keylessAt_dropKeys h stayId now "room_change"
  rw [hrun]
  obtain ⟨⟨chosen, hok⟩, ha⟩ | ⟨⟨msg, herr⟩, -⟩ := changeTransaction_dropKeys hs now newRoomId
  · -- the room is changed, and no key can be issued
    rw [hok]
    have hmoved : KeylessAt (((dropKeys db stayId now "room_change").retireAssignments stayId).occupied
        stayId stay chosen) stayId := by
      have := keylessAt_exec (.changeTransaction stayId stay newRoomId) ⟨trivial, nofun⟩ hdrop
      rwa [hok] at this
    have hissue : KeylessAt ((issueForStay E sk stayId now fresh).run
        (((dropKeys db stayId now "room_change").retireAssignments stayId).occupied stayId stay
          chosen)).2 stayId := by
      refine keylessAt_issueForStay hmoved fun stay' hs' hissuable => ?_
      obtain rfl := Option.some.inj ((getStay_moved hs now chosen).symm.trans hs')
      exact hno stay hs hst ⟨ha, hissuable.2⟩
    simp only
    rcases hi : (issueForStay E sk stayId now fresh).run
        (((dropKeys db stayId now "room_change").retireAssignments stayId).occupied stayId stay chosen)
      with ⟨e | issued, db₃⟩ <;> rw [hi] at hissue
    · exact hissue
    · exact hissue
  · rw [herr]
    exact hdrop

theorem keylessAt_checkout (h : KeylessAt db S) : KeylessAt ((checkout stayId now).run db).2 S :=
  keylessAt_run (checkout_only ⟨trivial, nofun⟩ ⟨trivial, nofun⟩ ⟨trivial, nofun⟩
    (fun _ _ _ => ⟨trivial, nofun⟩) ⟨trivial, nofun⟩ ⟨fun _ => nofun, nofun⟩) h

end StayKey.Store
