/-
StayKey.Store.Agreement — the booking and the key tables agree.

`Agree` is the cross-table invariant of the store: an active assignment is
the only one of its stay, has the stay's room and window and a room of the
stay's property; an active key is for the stay's present room and not
revoked. It is strengthened by what makes it inductive: a stay that ever
had an assignment or a key has a room, and only keys that were issued are
revoked.

One lemma per write says under which condition it keeps `Agree`; the calls
of `Store.Calls` meet these conditions where they run alone
(`agree_changeRoom` and its neighbours).
-/
import StayKey.Store.CallTheorems
import StayKey.Store.Extends

namespace StayKey.Store

open StayKey.Codec StayKey.Door StayKey.Program

/-- The stay row with this id satisfies `P`. -/
def StayIs (db : Db) (stayId : String) (P : StayRow → Prop) : Prop :=
  ∃ s, db.getStay stayId = some s ∧ P s

structure Agree (db : Db) : Prop where
  /-- An assignment has its stay's window, and the stay has a room. -/
  assigned : ∀ a ∈ db.assignments, StayIs db a.stayId fun s =>
    s.roomId ≠ none ∧ s.checkIn = a.checkIn ∧ s.checkOut = a.checkOut
  /-- An active one has its stay's room. -/
  assignedRoom : ∀ a ∈ db.assignments, a.active = true →
    StayIs db a.stayId fun s => s.roomId = some a.roomId
  /-- There is at most one for a stay. -/
  assignedOnce : ∀ a ∈ db.assignments, ∀ b ∈ db.assignments, a.active = true → b.active = true →
    a.stayId = b.stayId → a = b
  /-- The room of a stay is in its property. -/
  property : ∀ id s roomId, db.getStay id = some s → s.roomId = some roomId →
    ∃ room ∈ db.rooms, room.roomId = roomId ∧ room.propertyId = s.propertyId
  /-- A key belongs to a stay with a room. -/
  keyStay : ∀ k ∈ db.keys, StayIs db k.stayId fun s => s.roomId ≠ none
  /-- An active key is for the stay's present room. -/
  keyRoom : ∀ k ∈ db.keys, k.active = true → StayIs db k.stayId fun s => s.roomId = some k.roomId
  /-- An active key is not revoked. -/
  keyUnrevoked : ∀ k ∈ db.keys, k.active = true → k.keyId ∉ db.revocationList
  /-- What is revoked was issued. -/
  revokedKey : ∀ id ∈ db.revocationList, ∃ k ∈ db.keys, k.keyId = id

theorem agree_empty : Agree .empty where
  assigned _ h := absurd h (Table.notMem_empty _)
  assignedRoom _ h := absurd h (Table.notMem_empty _)
  assignedOnce _ h := absurd h (Table.notMem_empty _)
  property _ _ _ h := by cases h
  keyStay _ h := absurd h (Table.notMem_empty _)
  keyRoom _ h := absurd h (Table.notMem_empty _)
  keyUnrevoked _ h := absurd h (Table.notMem_empty _)
  revokedKey _ h := absurd h List.not_mem_nil

variable {db db' : Db} {stayId : String}

theorem StayIs.mono {P Q : StayRow → Prop} {id : String} (h : StayIs db id P)
    (hPQ : ∀ s, db.getStay id = some s → P s → ∃ s', db'.getStay id = some s' ∧ Q s') :
    StayIs db' id Q := by
  obtain ⟨s, hs, hP⟩ := h
  exact hPQ s hs hP

/-! ## Writes to one table -/

/-- A statement that can fail writes or changes nothing. -/
theorem agree_addGuest {guestId name email : String} (h : Agree db)
    (hadd : db.addGuest guestId name email = .ok db') : Agree db' := by
  obtain ⟨guests, rfl⟩ := Db.addGuest_ok hadd
  exact ⟨h.assigned, h.assignedRoom, h.assignedOnce, h.property, h.keyStay, h.keyRoom,
    h.keyUnrevoked, h.revokedKey⟩

theorem agree_addRoom {roomId : Int} {propertyId number roomType : String} (h : Agree db)
    (hadd : db.addRoom roomId propertyId number roomType = .ok db') : Agree db' := by
  obtain ⟨rooms, rfl, hmem⟩ := Db.addRoom_ok hadd
  refine ⟨h.assigned, h.assignedRoom, h.assignedOnce, ?_, h.keyStay, h.keyRoom, h.keyUnrevoked,
    h.revokedKey⟩
  intro id s r hs hr
  obtain ⟨room, hin, hroom⟩ := h.property id s r hs hr
  exact ⟨room, (hmem room).mpr (.inl hin), hroom⟩

/-- A new stay has no room, and no row refers to it. -/
theorem agree_addStay {id guestId propertyId roomType : String} {checkIn checkOut : Int}
    (h : Agree db) (hadd : db.addStay id guestId propertyId roomType checkIn checkOut = .ok db') :
    Agree db' := by
  obtain ⟨-, stays, rfl, hmem⟩ := Db.addStay_ok hadd
  have hold {i : String} {P : StayRow → Prop} (hi : StayIs db i P) :
      StayIs { db with stays } i P := by
    refine hi.mono fun s hs hP => ⟨s, ?_, hP⟩
    obtain ⟨hs, hid⟩ := Db.getStay_eq_some_iff.mp hs
    exact Db.getStay_eq_some_iff.mpr ⟨(hmem s).mpr (.inl hs), hid⟩
  refine ⟨fun a hm => hold (h.assigned a hm), fun a hm hact => hold (h.assignedRoom a hm hact),
    h.assignedOnce, ?_, fun k hm => hold (h.keyStay k hm),
    fun k hm hact => hold (h.keyRoom k hm hact), h.keyUnrevoked, h.revokedKey⟩
  intro i s roomId hs hr
  obtain ⟨hs, hid⟩ := Db.getStay_eq_some_iff.mp hs
  rcases (hmem s).mp hs with hs | rfl
  · exact h.property i s roomId (Db.getStay_eq_some_iff.mpr ⟨hs, hid⟩) hr
  · cases hr

/-- A change to stays that keeps windows, properties and rooms. -/
theorem agree_setStayStatus (h : Agree db) (stayId : String) (status : StayStatus) :
    Agree (db.setStayStatus stayId status) := by
  have hold {i : String} {P : StayRow → Prop} (hP : ∀ s, P s → P { s with status })
      (hi : StayIs db i P) : StayIs (db.setStayStatus stayId status) i P := by
    refine hi.mono fun s hs hs' => ⟨_, by rw [Db.getStay_setStayStatus, hs, Option.map_some], ?_⟩
    split
    · exact hP s hs'
    · exact hs'
  refine ⟨fun a hm => hold (fun s hs => hs) (h.assigned a hm),
    fun a hm hact => hold (fun s hs => hs) (h.assignedRoom a hm hact), h.assignedOnce, ?_,
    fun k hm => hold (fun s hs => hs) (h.keyStay k hm),
    fun k hm hact => hold (fun s hs => hs) (h.keyRoom k hm hact), h.keyUnrevoked, h.revokedKey⟩
  intro i s r hs hr
  rw [Db.getStay_setStayStatus] at hs
  obtain ⟨s₀, hs₀, rfl⟩ := Option.map_eq_some_iff.mp hs
  by_cases hi : i = stayId
  · rw [if_pos hi] at hr ⊢
    exact h.property i s₀ r hs₀ hr
  · rw [if_neg hi] at hr ⊢
    exact h.property i s₀ r hs₀ hr

theorem agree_retireKeys (h : Agree db) (stayId : String) : Agree (db.retireKeys stayId) where
  assigned := h.assigned
  assignedRoom := h.assignedRoom
  assignedOnce := h.assignedOnce
  property := h.property
  keyStay k hk := by
    obtain ⟨k₀, hk₀, rfl⟩ := Db.mem_retireKeys.mp hk
    split <;> exact h.keyStay k₀ hk₀
  keyRoom k hk hact := by
    obtain ⟨hk, hact, -⟩ := Db.active_retireKeys.mp ⟨hk, hact⟩
    exact h.keyRoom k hk hact
  keyUnrevoked k hk hact := by
    obtain ⟨hk, hact, -⟩ := Db.active_retireKeys.mp ⟨hk, hact⟩
    exact h.keyUnrevoked k hk hact
  revokedKey id hid := by
    obtain ⟨k, hk, rfl⟩ := h.revokedKey id hid
    refine ⟨_, Db.mem_retireKeys.mpr ⟨k, hk, rfl⟩, ?_⟩
    split <;> rfl

/-- Keys that are stored and not active can be revoked. -/
theorem agree_revokeAll (h : Agree db) (now : Int) (reason : String) {keyIds : List String}
    (hids : ∀ id ∈ keyIds, ∃ k ∈ db.keys, k.keyId = id ∧ k.active = false) :
    Agree (db.revokeAll now reason keyIds) := by
  have hmem (id : String) : id ∈ (db.revokeAll now reason keyIds).revocationList ↔
      id ∈ db.revocationList ∨ id ∈ keyIds := Db.mem_revocationList_revokeAll
  obtain ⟨r, hr⟩ := Db.revokeAll_eq db now reason keyIds
  rw [hr] at hmem ⊢
  refine ⟨h.assigned, h.assignedRoom, h.assignedOnce, h.property, h.keyStay, h.keyRoom, ?_, ?_⟩
  · intro k hk hact hrev
    rcases (hmem k.keyId).mp hrev with hrev | hrev
    · exact h.keyUnrevoked k hk hact hrev
    · obtain ⟨k', hk', hid, hoff⟩ := hids _ hrev
      rw [Table.eq_of_key hk' hk hid, hact] at hoff
      cases hoff
  · intro id hid
    rcases (hmem id).mp hid with hid | hid
    · exact h.revokedKey id hid
    · obtain ⟨k, hk, hkid, -⟩ := hids id hid
      exact ⟨k, hk, hkid⟩

/-- The keys that were active are still there, and inactive. -/
theorem retired_of_activeKeys {stayId id : String} (hid : id ∈ db.activeKeys stayId) :
    ∃ k ∈ (db.retireKeys stayId).keys, k.keyId = id ∧ k.active = false := by
  obtain ⟨k, hk, rfl, hs, -⟩ := Db.mem_activeKeys.mp hid
  exact ⟨{ k with active := false }, Db.mem_retireKeys.mpr ⟨k, hk, by rw [if_pos hs]⟩, rfl, rfl⟩

theorem agree_dropKeys (h : Agree db) (stayId : String) (now : Int) (reason : String) :
    Agree (dropKeys db stayId now reason) :=
  agree_revokeAll (agree_retireKeys h stayId) now reason fun _ => retired_of_activeKeys

theorem extends_dropKeys (db : Db) (stayId : String) (now : Int) (reason : String) :
    Extends db (dropKeys db stayId now reason) :=
  (extends_retireKeys db stayId).trans (extends_revokeAll _ now reason _)

/-- A key is stored for the present room of its stay. -/
theorem agree_addKey {row : KeyRow} (h : Agree db)
    (hroom : StayIs db row.stayId fun s => s.roomId = some row.roomId)
    (hadd : db.addKey row = .ok db') : Agree db' := by
  have hmem (k : KeyRow) : k ∈ db'.keys ↔ k ∈ db.keys ∨ k = row := Db.mem_addKey hadd
  obtain ⟨-, hnew, keys, rfl⟩ := Db.addKey_ok hadd
  refine ⟨h.assigned, h.assignedRoom, h.assignedOnce, h.property, ?_, ?_, ?_, ?_⟩
  · intro k hk
    rcases (hmem k).mp hk with hk | rfl
    · exact h.keyStay k hk
    · exact hroom.mono fun s hs hr => ⟨s, hs, by rw [hr]; exact nofun⟩
  · intro k hk hact
    rcases (hmem k).mp hk with hk | rfl
    · exact h.keyRoom k hk hact
    · exact hroom
  · intro k hk hact hrev
    rcases (hmem k).mp hk with hk | rfl
    · exact h.keyUnrevoked k hk hact hrev
    · obtain ⟨k', hk', hid⟩ := h.revokedKey _ hrev
      exact hnew k' hk' hid
  · intro id hid
    obtain ⟨k, hk, hkid⟩ := h.revokedKey id hid
    exact ⟨k, (hmem k).mpr (.inl hk), hkid⟩

theorem agree_retireAssignments (h : Agree db) (stayId : String) :
    Agree (db.retireAssignments stayId) where
  assigned a ha := by
    obtain ⟨a₀, ha₀, rfl⟩ := Db.mem_retireAssignments.mp ha
    split <;> exact h.assigned a₀ ha₀
  assignedRoom a ha hact := by
    obtain ⟨ha, hact, -⟩ := Db.active_retireAssignments.mp ⟨ha, hact⟩
    exact h.assignedRoom a ha hact
  assignedOnce a ha b hb haa hba := by
    obtain ⟨ha, haa, -⟩ := Db.active_retireAssignments.mp ⟨ha, haa⟩
    obtain ⟨hb, hba, -⟩ := Db.active_retireAssignments.mp ⟨hb, hba⟩
    exact h.assignedOnce a ha b hb haa hba
  property := h.property
  keyStay := h.keyStay
  keyRoom := h.keyRoom
  keyUnrevoked := h.keyUnrevoked
  revokedKey := h.revokedKey

/-- A room of the stay's property is occupied by a stay that has neither an
active assignment nor an active key. -/
theorem agree_occupied {stay : StayRow} {chosen : Int} (h : Agree db)
    (hs : db.getStay stayId = some stay)
    (hroom : ∃ room ∈ db.rooms, room.roomId = chosen ∧ room.propertyId = stay.propertyId)
    (hfreeA : ∀ a ∈ db.assignments, a.active = true → a.stayId ≠ stayId)
    (hfreeK : ∀ k ∈ db.keys, k.active = true → k.stayId ≠ stayId) :
    Agree (db.occupied stayId stay chosen) := by
  have hget (id : String) : (db.occupied stayId stay chosen).getStay id
      = (db.getStay id).map fun r => if id = stayId then { r with roomId := some chosen } else r :=
    Db.getStay_occupied id
  have hself : (db.occupied stayId stay chosen).getStay stayId
      = some { stay with roomId := some chosen } := by
    rw [hget, hs, Option.map_some, if_pos rfl]
  have hother {id : String} {P : StayRow → Prop} (hne : id ≠ stayId) (hi : StayIs db id P) :
      StayIs (db.occupied stayId stay chosen) id P :=
    hi.mono fun s hs' hP => ⟨s, by rw [hget, hs', Option.map_some, if_neg hne], hP⟩
  have hkept {id : String} {P : StayRow → Prop}
      (hP : ∀ s, P s → P { s with roomId := some chosen }) (hi : StayIs db id P) :
      StayIs (db.occupied stayId stay chosen) id P := by
    refine hi.mono fun s hs' hPs => ⟨_, by rw [hget, hs', Option.map_some], ?_⟩
    split
    · exact hP s hPs
    · exact hPs
  constructor
  · intro a ha
    rcases Db.mem_occupied.mp ha with ha | rfl
    · exact hkept (fun s hs' => ⟨nofun, hs'.2⟩) (h.assigned a ha)
    · exact ⟨_, hself, nofun, rfl, rfl⟩
  · intro a ha hact
    rcases Db.mem_occupied.mp ha with ha | rfl
    · exact hother (hfreeA a ha hact) (h.assignedRoom a ha hact)
    · exact ⟨_, hself, rfl⟩
  · intro a ha b hb haa hba hab
    rcases Db.mem_occupied.mp ha with ha | rfl
    · rcases Db.mem_occupied.mp hb with hb | rfl
      · exact h.assignedOnce a ha b hb haa hba hab
      · exact absurd hab (hfreeA a ha haa)
    · rcases Db.mem_occupied.mp hb with hb | rfl
      · exact absurd hab.symm (hfreeA b hb hba)
      · rfl
  · intro id s roomId hs' hr
    rw [hget] at hs'
    obtain ⟨s₀, hs₀, rfl⟩ := Option.map_eq_some_iff.mp hs'
    by_cases hid : id = stayId
    · subst hid
      rw [hs] at hs₀
      cases hs₀
      rw [if_pos rfl] at hr ⊢
      cases hr
      exact hroom
    · rw [if_neg hid] at hr ⊢
      exact h.property id s₀ roomId hs₀ hr
  · exact fun k hk => hkept (fun _ _ => nofun) (h.keyStay k hk)
  · exact fun k hk hact => hother (hfreeK k hk hact) (h.keyRoom k hk hact)
  · exact h.keyUnrevoked
  · exact h.revokedKey

/-! ## The calls -/

variable {E : Env} {sk : PrivateKey} {now : Int} {fresh : Fresh}

/-- A stay without a room has no assignment and no key. -/
theorem Agree.unused (h : Agree db) {stay : StayRow} (hs : db.getStay stayId = some stay)
    (hr : stay.roomId = none) :
    (∀ a ∈ db.assignments, a.stayId ≠ stayId) ∧ ∀ k ∈ db.keys, k.stayId ≠ stayId := by
  constructor
  · rintro a ha rfl
    obtain ⟨s, hs', hne, -⟩ := h.assigned a ha
    rw [hs] at hs'
    cases hs'
    exact hne hr
  · rintro k hk rfl
    obtain ⟨s, hs', hne⟩ := h.keyStay k hk
    rw [hs] at hs'
    cases hs'
    exact hne hr

theorem agree_assignRoom (h : Agree db) (stayId : String) (preferred : Option Int) :
    Agree ((assignRoom stayId preferred).run db).2 := by
  cases hs : db.getStay stayId with
  | none =>
    obtain ⟨msg, hrun⟩ := assignRoom_run_none hs preferred
    rw [hrun]
    exact h
  | some stay =>
    rw [assignRoom_run hs]
    cases hr : stay.roomId with
    | some roomId => exact h
    | none =>
      obtain ⟨e, he, -⟩ | ⟨chosen, he, ⟨room, hmem, hid, hp, -⟩, -⟩ :=
        Db.assignTransaction_booking stayId stay preferred db
      · rw [he]; exact h
      · rw [he]
        obtain ⟨ha, hk⟩ := h.unused hs hr
        exact agree_occupied h hs ⟨room, hmem, hid, hp⟩ (fun a hm _ => ha a hm) fun k hm _ => hk k hm

theorem agree_issueForStay (h : Agree db) :
    Agree ((issueForStay E sk stayId now fresh).run db).2 := by
  obtain ⟨e, hrun, -⟩ | ⟨stay, roomId, issued, db', hissued, hadd, hrun⟩ :=
    issueForStay_run E sk db stayId now fresh
  · rw [hrun]; exact h
  · rw [hrun]
    exact agree_addKey h ⟨stay, hissued.getStay, hissued.room⟩ hadd

theorem agree_checkin (h : Agree db) : Agree ((checkin E sk stayId now fresh).run db).2 := by
  cases hs : db.getStay stayId with
  | none =>
    obtain ⟨msg, hrun⟩ := checkin_run_none E sk now fresh hs
    rw [hrun]
    exact h
  | some stay =>
    rw [checkin_run hs]
    exact agree_issueForStay (agree_setStayStatus h stayId .checkedIn)

theorem agree_refreshKey (h : Agree db) : Agree ((refreshKey E sk stayId now fresh).run db).2 := by
  obtain ⟨-, e, -, hrun⟩ | ⟨-, hrun⟩ := refreshKey_run E sk db stayId now fresh
  · rw [hrun]; exact h
  · rw [hrun]; exact agree_issueForStay (agree_retireKeys h stayId)

theorem agree_checkout (h : Agree db) : Agree ((checkout stayId now).run db).2 := by
  cases hs : db.getStay stayId with
  | none =>
    obtain ⟨msg, hrun⟩ := checkout_run_none now hs
    rw [hrun]
    exact h
  | some stay =>
    rw [checkout_run hs]
    exact agree_setStayStatus (agree_retireAssignments (agree_dropKeys h stayId now "checkout")
      stayId) stayId .checkedOut

/-- The transaction of a move, after the keys were dropped. -/
theorem agree_changeTransaction {stay : StayRow} (h : Agree db)
    (hs : db.getStay stayId = some stay) (hk : ∀ k ∈ db.keys, k.active = true → k.stayId ≠ stayId)
    (newRoomId : Option Int) : Agree (exec (.changeTransaction stayId stay newRoomId) db).2 := by
  obtain ⟨e, he, -⟩ | ⟨chosen, he, ⟨room, hmem, hid, hp, -⟩, -⟩ :=
    Db.changeTransaction_booking stayId stay newRoomId db
  · rw [he]; exact h
  · rw [he]
    refine agree_occupied (agree_retireAssignments h stayId) hs ⟨room, hmem, hid, hp⟩ ?_ hk
    exact fun a ha hact => (Db.active_retireAssignments.mp ⟨ha, hact⟩).2.2

theorem active_dropKeys {reason : String} {k : KeyRow} (hk : k ∈ (dropKeys db stayId now reason).keys)
    (hact : k.active = true) : k ∈ db.keys ∧ k.stayId ≠ stayId := by
  obtain ⟨r, hr⟩ := dropKeys_eq db stayId now reason
  rw [hr] at hk
  obtain ⟨hk, -, hne⟩ := Db.active_retireKeys.mp ⟨hk, hact⟩
  exact ⟨hk, hne⟩

theorem agree_changeRoom (h : Agree db) (newRoomId : Option Int) :
    Agree ((changeRoom E sk stayId now newRoomId fresh).run db).2 := by
  obtain ⟨-, e, -, hrun⟩ | ⟨stay, hs, -, hrun⟩ := changeRoom_run E sk db stayId now newRoomId fresh
  · rw [hrun]; exact h
  rw [hrun]
  have hdrop := agree_dropKeys h stayId now "room_change"
  have hs₁ : (dropKeys db stayId now "room_change").getStay stayId = some stay :=
    (getStay_dropKeys ..).trans hs
  have hmove := agree_changeTransaction hdrop hs₁
    (fun k hk hact => (active_dropKeys hk hact).2) newRoomId
  rcases hx : exec (.changeTransaction stayId stay newRoomId) (dropKeys db stayId now "room_change")
    with ⟨e | newRoom, db₂⟩ <;> rw [hx] at hmove
  · exact hmove
  · have hissue : Agree ((issueForStay E sk stayId now fresh).run db₂).2 := agree_issueForStay hmove
    simp only
    rcases hi : (issueForStay E sk stayId now fresh).run db₂ with ⟨e | issued, db₃⟩
    · rw [hi] at hissue; exact hissue
    · rw [hi] at hissue; exact hissue

end StayKey.Store
