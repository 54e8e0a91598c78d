/-
StayKey.Store.DbTheorems — what the statements do to the tables.

For each statement that writes there is one lemma on the rows afterwards.
The two transactions are inverted once (`assignTransaction_cases`,
`changeTransaction_cases`): either the database is as before, or a room
free of overlap was occupied. When the latter happens is
`changeTransaction_ok_iff`, in terms of the rows alone (`Free`,
`IsCandidate`).
-/
import StayKey.Store.Db

namespace StayKey.Store

open StayKey.Codec StayKey.Door StayKey.Program

/-! ## Statements that write or raise -/

/-- What holds before and after every write that succeeds. -/
theorem write_preserves {P : Db → Prop} {db : Db} {r : Except Exc Db} (h : P db)
    (hr : ∀ db', r = .ok db' → P db') : P (write db r).2 := by
  cases r with
  | error e => exact h
  | ok db' => exact hr db' rfl

/-- A table that the write leaves alone. -/
theorem write_keeps {β : Type} (table : Db → β) {db : Db} {r : Except Exc Db}
    (hr : ∀ db', r = .ok db' → table db' = table db) : table (write db r).2 = table db :=
  write_preserves (P := fun t => table t = table db) rfl hr

namespace Db

variable {db db' : Db} {stayId keyId : String}

/-! ## Guests and rooms -/

theorem addGuest_ok {guestId name email : String} (h : db.addGuest guestId name email = .ok db') :
    ∃ guests, db' = { db with guests } := by
  unfold addGuest at h
  split at h <;> cases h
  exact ⟨_, rfl⟩

/-- A room is added under a new id, and nothing else changes. -/
theorem addRoom_ok {roomId : Int} {propertyId number roomType : String}
    (h : db.addRoom roomId propertyId number roomType = .ok db') :
    ∃ rooms, db' = { db with rooms } ∧
      ∀ r, r ∈ rooms ↔ r ∈ db.rooms ∨ r = ⟨roomId, propertyId, number, roomType⟩ := by
  unfold addRoom at h
  split at h
  · cases h
  · rename_i hi
    cases h
    exact ⟨_, rfl, fun r => Table.mem_of_insert? hi⟩

/-! ## Keys and revocations -/

theorem mem_retireKeys {k : KeyRow} :
    k ∈ (db.retireKeys stayId).keys ↔
      ∃ k₀ ∈ db.keys, k = if k₀.stayId = stayId then { k₀ with active := false } else k₀ := by
  have hrow : ∀ k₀ : KeyRow,
      (if k₀.stayId = stayId && k₀.active then { k₀ with active := false } else k₀)
        = if k₀.stayId = stayId then { k₀ with active := false } else k₀ := by
    rintro ⟨_, s, _, _, _, _, _, active⟩
    by_cases h : s = stayId <;> cases active <;> simp [h]
  simp only [retireKeys, Table.mem_updateWhere, hrow, eq_comm (b := k)]

/-- No key of the stay is active after its keys were retired, and no other
key has changed. -/
theorem active_retireKeys {k : KeyRow} :
    (k ∈ (db.retireKeys stayId).keys ∧ k.active = true) ↔
      k ∈ db.keys ∧ k.active = true ∧ k.stayId ≠ stayId := by
  rw [mem_retireKeys]
  constructor
  · rintro ⟨⟨k₀, hk₀, rfl⟩, ha⟩
    by_cases h : k₀.stayId = stayId
    · simp [h] at ha
    · rw [if_neg h] at ha ⊢
      exact ⟨hk₀, ha, h⟩
  · rintro ⟨hk, ha, h⟩
    exact ⟨⟨k, hk, by rw [if_neg h]⟩, ha⟩

theorem mem_activeKeys : keyId ∈ db.activeKeys stayId ↔
    ∃ k ∈ db.keys, k.keyId = keyId ∧ k.stayId = stayId ∧ k.active = true := by
  simp only [activeKeys, List.mem_map, List.mem_filter, Table.mem_rows, Bool.and_eq_true,
    decide_eq_true_eq]
  refine exists_congr fun k => ?_
  constructor
  · rintro ⟨⟨hk, hs, ha⟩, hid⟩; exact ⟨hk, hid, hs, ha⟩
  · rintro ⟨hk, hid, hs, ha⟩; exact ⟨⟨hk, hs, ha⟩, hid⟩

theorem activeKeys_eq_nil_iff : db.activeKeys stayId = [] ↔
    ∀ k ∈ db.keys, k.stayId = stayId → k.active = false := by
  rw [List.eq_nil_iff_forall_not_mem]
  simp only [mem_activeKeys, not_exists, not_and, Bool.not_eq_true]
  exact ⟨fun h k hk hs => h _ k hk rfl hs, fun h _ k hk _ hs => h k hk hs⟩

theorem mem_addKey {row k : KeyRow} (h : db.addKey row = .ok db') :
    k ∈ db'.keys ↔ k ∈ db.keys ∨ k = row := by
  unfold addKey at h
  split at h
  · cases h
  split at h
  · cases h
  · rename_i hi; cases h; exact Table.mem_of_insert? hi

/-- What a stored key row says about the tables before. -/
theorem addKey_ok {row : KeyRow} (h : db.addKey row = .ok db') :
    (∃ stay, db.getStay row.stayId = some stay) ∧ (∀ k ∈ db.keys, k.keyId ≠ row.keyId) ∧
      ∃ keys, db' = { db with keys } := by
  unfold addKey at h
  split at h
  · cases h
  · rename_i hs
    split at h
    · cases h
    · rename_i hi
      cases h
      exact ⟨Option.ne_none_iff_exists'.mp (by simpa [getStay] using hs), Table.key_notMem_of_insert? hi,
        _, rfl⟩

theorem revokeKey_eq (db : Db) (keyId : String) (revokedAt : Int) (reason : String) :
    ∃ revocations, db.revokeKey keyId revokedAt reason = { db with revocations } := by
  unfold revokeKey
  split
  · exact ⟨db.revocations, rfl⟩
  · exact ⟨_, rfl⟩

theorem mem_revocationList : keyId ∈ db.revocationList ↔ ∃ r ∈ db.revocations, r.keyId = keyId :=
  List.mem_map

theorem mem_revocationList_revokeKey {k : String} {revokedAt : Int} {reason : String} :
    keyId ∈ (db.revokeKey k revokedAt reason).revocationList ↔
      keyId ∈ db.revocationList ∨ keyId = k := by
  unfold revokeKey
  split
  · rename_i hi
    obtain ⟨r, hr, hk⟩ := Table.insert?_eq_none_iff.mp hi
    refine ⟨.inl, ?_⟩
    rintro (h | rfl)
    · exact h
    · exact mem_revocationList.mpr ⟨r, hr, hk⟩
  · rename_i hi
    simp only [mem_revocationList, Table.mem_of_insert? hi]
    constructor
    · rintro ⟨r, hr | rfl, hk⟩
      · exact .inl ⟨r, hr, hk⟩
      · exact .inr hk.symm
    · rintro (⟨r, hr, hk⟩ | rfl)
      · exact ⟨r, .inl hr, hk⟩
      · exact ⟨_, .inr rfl, rfl⟩

/-- The loop that revokes a list of keys. -/
def revokeAll (db : Db) (now : Int) (reason : String) (keyIds : List String) : Db :=
  keyIds.foldl (fun db keyId => db.revokeKey keyId now reason) db

theorem revokeAll_cons (now : Int) (reason : String) (k : String) (keyIds : List String) :
    db.revokeAll now reason (k :: keyIds) = (db.revokeKey k now reason).revokeAll now reason keyIds :=
  rfl

theorem revokeAll_eq (db : Db) (now : Int) (reason : String) (keyIds : List String) :
    ∃ revocations, db.revokeAll now reason keyIds = { db with revocations } := by
  induction keyIds generalizing db with
  | nil => exact ⟨db.revocations, rfl⟩
  | cons k keyIds ih =>
    obtain ⟨r, hr⟩ := revokeKey_eq db k now reason
    obtain ⟨r', hr'⟩ := ih (db.revokeKey k now reason)
    exact ⟨r', by rw [revokeAll_cons, hr', hr]⟩

theorem mem_revocationList_revokeAll {now : Int} {reason : String} {keyIds : List String} :
    keyId ∈ (db.revokeAll now reason keyIds).revocationList ↔
      keyId ∈ db.revocationList ∨ keyId ∈ keyIds := by
  induction keyIds generalizing db with
  | nil => simp [revokeAll]
  | cons k keyIds ih =>
    rw [revokeAll_cons, ih, mem_revocationList_revokeKey, List.mem_cons, or_assoc]

/-- The revocation list only gets longer at its end. -/
theorem revokeKey_rows (db : Db) (keyId : String) (revokedAt : Int) (reason : String) :
    (db.revokeKey keyId revokedAt reason).revocations.rows = db.revocations.rows ++
      if keyId ∈ db.revocationList then [] else [⟨keyId, revokedAt, reason⟩] := by
  unfold revokeKey
  split
  · rename_i hi
    obtain ⟨r, hr, hk⟩ := Table.insert?_eq_none_iff.mp hi
    rw [if_pos (mem_revocationList.mpr ⟨r, hr, hk⟩), List.append_nil]
  · rename_i hi
    have hnew : keyId ∉ db.revocationList := fun h => by
      obtain ⟨r, hr, hk⟩ := mem_revocationList.mp h
      exact Table.key_notMem_of_insert? hi r hr hk
    rw [if_neg hnew]
    exact Table.rows_of_insert? hi

/-- Of a list of distinct keys those are added that were not revoked yet. -/
theorem revokeAll_rows (now : Int) (reason : String) {keyIds : List String} (hnodup : keyIds.Nodup) :
    (db.revokeAll now reason keyIds).revocations.rows = db.revocations.rows ++
      (keyIds.filter fun k => k ∉ db.revocationList).map fun k => ⟨k, now, reason⟩ := by
  induction keyIds generalizing db with
  | nil => simp [revokeAll]
  | cons k keyIds ih =>
    rw [List.nodup_cons] at hnodup
    have hrest : (keyIds.filter fun k' => k' ∉ (db.revokeKey k now reason).revocationList)
        = keyIds.filter fun k' => k' ∉ db.revocationList := by
      refine List.filter_congr fun k' hk' => ?_
      have hne : k' ≠ k := fun he => hnodup.1 (he ▸ hk')
      simp [mem_revocationList_revokeKey, hne]
    rw [revokeAll_cons, ih hnodup.2, revokeKey_rows, hrest, List.append_assoc, List.filter_cons]
    by_cases hk : k ∈ db.revocationList <;> simp [hk]

theorem activeKeys_nodup (db : Db) (stayId : String) : (db.activeKeys stayId).Nodup :=
  db.keys.nodup.sublist (List.filter_sublist.map _)

/-! ## Stays -/

theorem getStay_eq_some_iff {stay : StayRow} :
    db.getStay stayId = some stay ↔ stay ∈ db.stays ∧ stay.stayId = stayId :=
  Table.find?_eq_some_iff

/-- The row `add_stay` inserts. -/
def newStay (stayId guestId propertyId roomType : String) (checkIn checkOut : Int) : StayRow :=
  ⟨stayId, guestId, propertyId, roomType, none, checkIn, checkOut, .reserved⟩

/-- A stay is added under a new id, and nothing else changes. -/
theorem addStay_ok {guestId propertyId roomType : String} {checkIn checkOut : Int}
    (h : db.addStay stayId guestId propertyId roomType checkIn checkOut = .ok db') :
    (∀ s ∈ db.stays, s.stayId ≠ stayId) ∧ ∃ stays, db' = { db with stays } ∧
      ∀ s, s ∈ stays ↔ s ∈ db.stays ∨ s = newStay stayId guestId propertyId roomType checkIn checkOut := by
  unfold addStay at h
  split at h
  · cases h
  split at h
  · cases h
  · rename_i stays hi
    cases h
    exact ⟨Table.key_notMem_of_insert? hi, stays, rfl, fun s => Table.mem_of_insert? hi⟩

theorem getStay_setStayStatus (status : StayStatus) (s : String) :
    (db.setStayStatus stayId status).getStay s
      = (db.getStay s).map fun r => if s = stayId then { r with status } else r := by
  rw [getStay, setStayStatus, Table.find?_updateWhere, getStay]
  cases h : db.stays.find? s with
  | none => rfl
  | some r =>
    obtain ⟨-, rfl⟩ := Table.find?_eq_some_iff.mp h
    simp

theorem getStay_setStayRoom (roomId : Int) (s : String) :
    (db.setStayRoom stayId roomId).getStay s
      = (db.getStay s).map fun r => if s = stayId then { r with roomId := some roomId } else r := by
  rw [getStay, setStayRoom, Table.find?_updateWhere, getStay]
  cases h : db.stays.find? s with
  | none => rfl
  | some r =>
    obtain ⟨-, rfl⟩ := Table.find?_eq_some_iff.mp h
    simp

/-! ## Assignments -/

theorem mem_insertAssignment {a : AssignmentRow} {roomId checkIn checkOut : Int} :
    a ∈ (db.insertAssignment roomId stayId checkIn checkOut).assignments ↔
      a ∈ db.assignments ∨ a = db.newAssignment roomId stayId checkIn checkOut := by
  rw [← Table.mem_rows, insertAssignment]
  simp [Table.mem_rows]

theorem mem_retireAssignments {a : AssignmentRow} :
    a ∈ (db.retireAssignments stayId).assignments ↔
      ∃ a₀ ∈ db.assignments, a = if a₀.stayId = stayId then { a₀ with active := false } else a₀ := by
  have hrow : ∀ a₀ : AssignmentRow,
      (if a₀.stayId = stayId && a₀.active then { a₀ with active := false } else a₀)
        = if a₀.stayId = stayId then { a₀ with active := false } else a₀ := by
    rintro ⟨_, _, s, _, _, active⟩
    by_cases h : s = stayId <;> cases active <;> simp [h]
  simp only [retireAssignments, Table.mem_updateWhere, hrow, eq_comm (b := a)]

theorem active_retireAssignments {a : AssignmentRow} :
    (a ∈ (db.retireAssignments stayId).assignments ∧ a.active = true) ↔
      a ∈ db.assignments ∧ a.active = true ∧ a.stayId ≠ stayId := by
  rw [mem_retireAssignments]
  constructor
  · rintro ⟨⟨a₀, ha₀, rfl⟩, ha⟩
    by_cases h : a₀.stayId = stayId
    · simp [h] at ha
    · rw [if_neg h] at ha ⊢
      exact ⟨ha₀, ha, h⟩
  · rintro ⟨ha, hact, h⟩
    exact ⟨⟨a, ha, by rw [if_neg h]⟩, hact⟩

theorem foldl_newer (rows : List AssignmentRow) : ∀ best : Option AssignmentRow,
    match rows.foldl newer best with
    | none => rows = [] ∧ best = none
    | some b => (b ∈ rows ∨ best = some b) ∧ (∀ c ∈ rows, c.id ≤ b.id) ∧
        ∀ c, best = some c → c.id ≤ b.id := by
  induction rows with
  | nil =>
    intro best
    cases best with
    | none => exact ⟨rfl, rfl⟩
    | some b => exact ⟨.inr rfl, by simp, fun c h => by cases h; exact le_refl _⟩
  | cons a rows ih =>
    intro best
    have hbest : ∃ b, newer best a = some b ∧ (b = a ∨ best = some b) ∧ a.id ≤ b.id ∧
        ∀ c, best = some c → c.id ≤ b.id := by
      cases best with
      | none => exact ⟨a, rfl, .inl rfl, le_refl _, nofun⟩
      | some b =>
        by_cases hlt : b.id < a.id
        · exact ⟨a, if_pos hlt, .inl rfl, le_refl _, fun c h => by cases h; exact hlt.le⟩
        · exact ⟨b, if_neg hlt, .inr rfl, not_lt.mp hlt, fun c h => by cases h; exact le_refl _⟩
    obtain ⟨b, hb, hfrom, ha, hold⟩ := hbest
    have := ih (newer best a)
    rw [List.foldl_cons]
    cases hfold : rows.foldl newer (newer best a) with
    | none =>
      rw [hfold] at this
      rw [hb] at this
      cases this.2
    | some d =>
      rw [hfold] at this
      obtain ⟨hd, hrows, hprev⟩ := this
      have hbd := hprev b hb
      refine ⟨?_, ?_, fun c hc => (hold c hc).trans hbd⟩
      · rcases hd with hd | hd
        · exact .inl (List.mem_cons_of_mem a hd)
        · rw [hb] at hd
          cases hd
          rcases hfrom with rfl | hfrom
          · exact .inl List.mem_cons_self
          · exact .inr hfrom
      · intro c hc
        rcases List.mem_cons.mp hc with rfl | hc
        · exact ha.trans hbd
        · exact hrows c hc

/-- The newest active assignment of a room. -/
theorem activeAssignmentForRoom_eq_some {roomId : Int} {b : AssignmentRow}
    (h : db.activeAssignmentForRoom roomId = some b) :
    (b ∈ db.assignments ∧ b.roomId = roomId ∧ b.active = true) ∧
      ∀ c ∈ db.assignments, c.roomId = roomId → c.active = true → c.id ≤ b.id := by
  have hnewest := foldl_newer (db.assignments.rows.filter fun a => a.roomId = roomId && a.active) none
  rw [activeAssignmentForRoom, newest] at h
  rw [h] at hnewest
  obtain ⟨hb, hmax, -⟩ := hnewest
  have hb := hb.resolve_right nofun
  simp only [List.mem_filter, Table.mem_rows, Bool.and_eq_true, decide_eq_true_eq] at hb hmax
  exact ⟨hb, fun c hc hroom hact => hmax c ⟨hc, hroom, hact⟩⟩

theorem activeAssignmentForRoom_isSome {roomId : Int} {a : AssignmentRow} (ha : a ∈ db.assignments)
    (hroom : a.roomId = roomId) (hact : a.active = true) :
    ∃ b, db.activeAssignmentForRoom roomId = some b := by
  have hnewest := foldl_newer (db.assignments.rows.filter fun a => a.roomId = roomId && a.active) none
  rw [activeAssignmentForRoom, newest]
  cases hfold : (db.assignments.rows.filter fun a => a.roomId = roomId && a.active).foldl newer none with
  | some b => exact ⟨b, rfl⟩
  | none =>
    rw [hfold] at hnewest
    have hmem : a ∈ db.assignments.rows.filter fun a => a.roomId = roomId && a.active := by
      simp only [List.mem_filter, Table.mem_rows, Bool.and_eq_true, decide_eq_true_eq]
      exact ⟨ha, hroom, hact⟩
    rw [hnewest.1] at hmem
    cases hmem

/-! ## The transactions -/

/-- No active assignment of the room overlaps the window. -/
def Free (db : Db) (roomId checkIn checkOut : Int) : Prop :=
  ∀ a ∈ db.assignments, a.active = true → a.roomId = roomId →
    ¬ Overlap a.checkIn a.checkOut checkIn checkOut

theorem hasOverlap_eq_false_iff {roomId checkIn checkOut : Int} :
    db.hasOverlap roomId checkIn checkOut = false ↔ db.Free roomId checkIn checkOut := by
  rw [hasOverlap, List.any_eq_false]
  simp only [Bool.and_eq_true, decide_eq_true_eq, Free, Overlap, Table.mem_rows]
  constructor
  · intro h a ha hact hr ho
    exact h a ha ⟨⟨⟨hr, hact⟩, ho.1⟩, ho.2⟩
  · rintro h a ha ⟨⟨⟨hr, hact⟩, h1⟩, h2⟩
    exact h a ha hact hr ⟨h1, h2⟩

/-- With its own assignments out of the way, a stay meets those of the others. -/
theorem free_retireAssignments_iff {roomId checkIn checkOut : Int} :
    (db.retireAssignments stayId).Free roomId checkIn checkOut ↔
      ∀ a ∈ db.assignments, a.active = true → a.stayId ≠ stayId → a.roomId = roomId →
        ¬ Overlap a.checkIn a.checkOut checkIn checkOut := by
  constructor
  · intro h a ha hact hne
    obtain ⟨ha', hact'⟩ := active_retireAssignments.mpr ⟨ha, hact, hne⟩
    exact h a ha' hact'
  · intro h a ha hact
    obtain ⟨ha', hact', hne⟩ := active_retireAssignments.mp ⟨ha, hact⟩
    exact h a ha' hact' hne

/-- The rooms a transaction considers: the requested room, if it is in the
property, else the rooms of the property and type but the one to avoid. -/
def IsCandidate (db : Db) (stay : StayRow) (requested avoid : Option Int) (roomId : Int) : Prop :=
  ∃ room ∈ db.rooms, room.roomId = roomId ∧ room.propertyId = stay.propertyId ∧
    match requested with
    | some r => r = roomId
    | none => room.roomType = stay.roomType ∧ avoid ≠ some roomId

theorem mem_candidateRooms {propertyId roomType : String} {roomId : Int} :
    roomId ∈ db.candidateRooms propertyId roomType ↔
      ∃ room ∈ db.rooms, room.roomId = roomId ∧ room.propertyId = propertyId ∧
        room.roomType = roomType := by
  simp only [candidateRooms, List.mem_insertionSort, List.mem_map, List.mem_filter, Table.mem_rows,
    Bool.and_eq_true, decide_eq_true_eq]
  refine exists_congr fun room => ?_
  constructor
  · rintro ⟨⟨h, hp, ht⟩, hr⟩; exact ⟨h, hr, hp, ht⟩
  · rintro ⟨h, hr, hp, ht⟩; exact ⟨⟨h, hp, ht⟩, hr⟩

/-- The state after a room was occupied. -/
def occupied (db : Db) (stayId : String) (stay : StayRow) (chosen : Int) : Db :=
  (db.insertAssignment chosen stayId stay.checkIn stay.checkOut).setStayRoom stayId chosen

theorem mem_occupied {stay : StayRow} {chosen : Int} {a : AssignmentRow} :
    a ∈ (db.occupied stayId stay chosen).assignments ↔
      a ∈ db.assignments ∨ a = db.newAssignment chosen stayId stay.checkIn stay.checkOut :=
  mem_insertAssignment

theorem getStay_occupied {stay : StayRow} {chosen : Int} (s : String) :
    (db.occupied stayId stay chosen).getStay s
      = (db.getStay s).map fun r => if s = stayId then { r with roomId := some chosen } else r :=
  getStay_setStayRoom chosen s

theorem requestedRoom_cases (db : Db) (roomId : Int) (propertyId : String) :
    ((∃ msg, db.requestedRoom roomId propertyId = .error (.roomUnavailable msg)) ∧
      ∀ room ∈ db.rooms, room.roomId = roomId → room.propertyId ≠ propertyId) ∨
    (db.requestedRoom roomId propertyId = .ok [roomId] ∧
      ∃ room ∈ db.rooms, room.roomId = roomId ∧ room.propertyId = propertyId) := by
  unfold requestedRoom getRoom
  cases hr : db.rooms.find? roomId with
  | none =>
    exact .inl ⟨⟨_, rfl⟩, fun room h hid => absurd hid (Table.find?_eq_none_iff.mp hr room h)⟩
  | some room =>
    obtain ⟨hmem, rfl⟩ := Table.find?_eq_some_iff.mp hr
    by_cases hp : room.propertyId = propertyId
    · exact .inr ⟨by simp [hp], room, hmem, rfl, hp⟩
    · refine .inl ⟨⟨_, by simp only [ne_eq, hp, not_false_eq_true, if_true]; rfl⟩, ?_⟩
      intro room' h hid
      rwa [Table.eq_of_key h hmem hid]

theorem firstFree_eq_some {candidates : List Int} {checkIn checkOut chosen : Int}
    (h : db.firstFree candidates checkIn checkOut = some chosen) :
    chosen ∈ candidates ∧ db.Free chosen checkIn checkOut :=
  ⟨List.mem_of_find?_eq_some h,
    hasOverlap_eq_false_iff.mp (by simpa using List.find?_some h)⟩

theorem firstFree_eq_none {candidates : List Int} {checkIn checkOut : Int}
    (h : db.firstFree candidates checkIn checkOut = none) :
    ∀ r ∈ candidates, ¬ db.Free r checkIn checkOut := by
  intro r hr hfree
  have := List.find?_eq_none.mp h r hr
  rw [hasOverlap_eq_false_iff.mpr hfree] at this
  exact this rfl

/-- The list is searched from the front: of a sorted one the least is chosen. -/
theorem firstFree_le {candidates : List Int} {checkIn checkOut chosen : Int}
    (hsorted : candidates.Pairwise (· ≤ ·))
    (h : db.firstFree candidates checkIn checkOut = some chosen) :
    ∀ r ∈ candidates, db.Free r checkIn checkOut → chosen ≤ r := by
  induction candidates with
  | nil => exact fun r hr => absurd hr List.not_mem_nil
  | cons c candidates ih =>
    rw [List.pairwise_cons] at hsorted
    rw [firstFree, List.find?_cons] at h
    split at h
    · obtain rfl := Option.some.inj h
      intro r hr _
      rcases List.mem_cons.mp hr with rfl | hr
      · exact le_refl r
      · exact hsorted.1 r hr
    · rename_i hc
      intro r hr hfree
      rcases List.mem_cons.mp hr with rfl | hr
      · rw [hasOverlap_eq_false_iff.mpr hfree] at hc
        cases hc
      · exact ih hsorted.2 h r hr hfree

theorem candidateRooms_sorted (propertyId roomType : String) :
    (db.candidateRooms propertyId roomType).Pairwise (· ≤ ·) :=
  List.pairwise_insertionSort _ _

/-- Once a room is chosen only a stay that is not there can fail. -/
theorem occupy_eq {stay : StayRow} {chosen : Int} (hroom : ∃ room ∈ db.rooms, room.roomId = chosen) :
    db.occupy stayId stay chosen =
      if (db.getStay stayId).isNone then (.error .integrityError, db)
      else (.ok chosen, db.occupied stayId stay chosen) := by
  obtain ⟨room, hmem, rfl⟩ := hroom
  rw [occupy, Table.find?_of_mem hmem, getStay]
  simp [occupied]

/-- What either transaction does, in terms of the rows: it raises and
leaves the database as it was, or it occupies a free candidate. -/
def Booking (db₁ db : Db) (stayId : String) (stay : StayRow) (requested avoid : Option Int)
    (result : Except Exc Int × Db) : Prop :=
  (∃ e, result = (.error e, db) ∧
    ((∃ msg, e = .roomUnavailable msg) ∧
        (∀ r, db.IsCandidate stay requested avoid r → ¬ db₁.Free r stay.checkIn stay.checkOut) ∨
      e = .integrityError ∧ db.getStay stayId = none)) ∨
  ∃ chosen, result = (.ok chosen, db₁.occupied stayId stay chosen) ∧
      db.IsCandidate stay requested avoid chosen ∧ db₁.Free chosen stay.checkIn stay.checkOut ∧
      ∃ s, db.getStay stayId = some s

theorem occupy_booking {db₁ : Db} {stay : StayRow} {requested avoid : Option Int} {chosen : Int}
    (hrooms : db₁.rooms = db.rooms) (hstays : db₁.stays = db.stays)
    (hcand : db.IsCandidate stay requested avoid chosen)
    (hfree : db₁.Free chosen stay.checkIn stay.checkOut) :
    Booking db₁ db stayId stay requested avoid
      (transaction (fun _ => db₁.occupy stayId stay chosen) db) := by
  obtain ⟨room, hmem, hid, -⟩ := id hcand
  have hget : db₁.getStay stayId = db.getStay stayId := by rw [getStay, getStay, hstays]
  rw [transaction, occupy_eq ⟨room, hrooms ▸ hmem, hid⟩, hget]
  cases hs : db.getStay stayId with
  | none => exact .inl ⟨_, rfl, .inr ⟨rfl, hs⟩⟩
  | some s => exact .inr ⟨chosen, rfl, hcand, hfree, s, hs⟩

/-- **The transaction of `assign_room`.** -/
theorem assignTransaction_booking (stayId : String) (stay : StayRow) (preferred : Option Int)
    (db : Db) :
    Booking db db stayId stay preferred none (exec (.assignTransaction stayId stay preferred) db) := by
  have hunavailable {msg : String} (h : ∀ r, db.IsCandidate stay preferred none r →
      ¬ db.Free r stay.checkIn stay.checkOut) :
      Booking db db stayId stay preferred none (.error (.roomUnavailable msg), db) :=
    Or.inl ⟨_, rfl, .inl ⟨⟨msg, rfl⟩, h⟩⟩
  simp only [exec, transaction, assignBody]
  cases preferred with
  | some roomId =>
    obtain ⟨⟨msg, hreq⟩, hno⟩ | ⟨hreq, room, hmem, hid, hp⟩ :=
      requestedRoom_cases db roomId stay.propertyId
    · simp only [hreq]
      refine hunavailable ?_
      rintro r ⟨room, hmem, hid, hp, rfl⟩
      exact absurd hp (hno room hmem hid)
    · simp only [hreq]
      cases hf : db.firstFree [roomId] stay.checkIn stay.checkOut with
      | none =>
        simp only
        refine hunavailable ?_
        rintro r ⟨room, -, -, -, rfl⟩
        exact firstFree_eq_none hf _ List.mem_cons_self
      | some chosen =>
        obtain ⟨hc, hfree⟩ := firstFree_eq_some hf
        obtain rfl := List.mem_singleton.mp hc
        exact occupy_booking rfl rfl ⟨room, hmem, hid, hp, rfl⟩ hfree
  | none =>
    cases hf : db.firstFree (db.candidateRooms stay.propertyId stay.roomType) stay.checkIn
        stay.checkOut with
    | none =>
      simp only [hf]
      refine hunavailable ?_
      rintro r ⟨room, hmem, hid, hp, ht, -⟩
      exact firstFree_eq_none hf r (mem_candidateRooms.mpr ⟨room, hmem, hid, hp, ht⟩)
    | some chosen =>
      obtain ⟨hc, hfree⟩ := firstFree_eq_some hf
      obtain ⟨room, hmem, hid, hp, ht⟩ := mem_candidateRooms.mp hc
      have hcand : db.IsCandidate stay none none chosen := ⟨room, hmem, hid, hp, ht, nofun⟩
      simp only [hf]
      exact occupy_booking rfl rfl hcand hfree

/-- **The transaction of `change_room`.** The old assignment is out of the
way while the room is chosen, and back when none is free. -/
theorem changeTransaction_booking (stayId : String) (stay : StayRow) (newRoomId : Option Int)
    (db : Db) :
    Booking (db.retireAssignments stayId) db stayId stay newRoomId stay.roomId
      (exec (.changeTransaction stayId stay newRoomId) db) := by
  have hunavailable {msg : String} (h : ∀ r, db.IsCandidate stay newRoomId stay.roomId r →
      ¬ (db.retireAssignments stayId).Free r stay.checkIn stay.checkOut) :
      Booking (db.retireAssignments stayId) db stayId stay newRoomId stay.roomId
        (.error (.roomUnavailable msg), db) :=
    Or.inl ⟨_, rfl, .inl ⟨⟨msg, rfl⟩, h⟩⟩
  simp only [exec, transaction, changeBody]
  cases newRoomId with
  | some roomId =>
    obtain ⟨⟨msg, hreq⟩, hno⟩ | ⟨hreq, room, hmem, hid, hp⟩ :=
      requestedRoom_cases (db.retireAssignments stayId) roomId stay.propertyId
    · simp only [hreq]
      refine hunavailable ?_
      rintro r ⟨room, hmem, hid, hp, rfl⟩
      exact absurd hp (hno room hmem hid)
    · simp only [hreq]
      cases hf : (db.retireAssignments stayId).firstFree [roomId] stay.checkIn stay.checkOut with
      | none =>
        simp only
        refine hunavailable ?_
        rintro r ⟨room, -, -, -, rfl⟩
        exact firstFree_eq_none hf _ List.mem_cons_self
      | some chosen =>
        obtain ⟨hc, hfree⟩ := firstFree_eq_some hf
        obtain rfl := List.mem_singleton.mp hc
        exact occupy_booking rfl rfl ⟨room, hmem, hid, hp, rfl⟩ hfree
  | none =>
    cases hf : (db.retireAssignments stayId).firstFree
        (((db.retireAssignments stayId).candidateRooms stay.propertyId stay.roomType).filter
          fun r => some r ≠ stay.roomId) stay.checkIn stay.checkOut with
    | none =>
      simp only [hf]
      refine hunavailable ?_
      rintro r ⟨room, hmem, hid, hp, ht, hne⟩
      refine firstFree_eq_none hf r (List.mem_filter.mpr ⟨?_, by simpa using hne.symm⟩)
      exact mem_candidateRooms.mpr ⟨room, hmem, hid, hp, ht⟩
    | some chosen =>
      obtain ⟨hc, hfree⟩ := firstFree_eq_some hf
      obtain ⟨hc, hne⟩ := List.mem_filter.mp hc
      obtain ⟨room, hmem, hid, hp, ht⟩ := mem_candidateRooms.mp hc
      have hcand : db.IsCandidate stay none stay.roomId chosen :=
        ⟨room, hmem, hid, hp, ht, fun h => of_decide_eq_true hne h.symm⟩
      simp only [hf]
      exact occupy_booking rfl rfl hcand hfree

/-! ## Which room is chosen -/

variable {stay : StayRow} {chosen : Int}

theorem occupy_ok {db₁ : Db} {c : Int}
    (h : transaction (fun _ => db₁.occupy stayId stay c) db = (.ok chosen, db')) : chosen = c := by
  unfold transaction occupy at h
  split at h
  · rename_i hif
    split at hif <;> cases hif
    cases h
    rfl
  · cases h

/-- A room is chosen where the search finds one. -/
theorem assignTransaction_firstFree
    (h : exec (.assignTransaction stayId stay none) db = (.ok chosen, db')) :
    db.firstFree (db.candidateRooms stay.propertyId stay.roomType) stay.checkIn stay.checkOut
      = some chosen := by
  simp only [exec, transaction, assignBody] at h
  cases hf : db.firstFree (db.candidateRooms stay.propertyId stay.roomType) stay.checkIn
      stay.checkOut with
  | none => simp only [hf] at h; cases h
  | some c =>
    simp only [hf] at h
    rw [occupy_ok h]

theorem changeTransaction_firstFree
    (h : exec (.changeTransaction stayId stay none) db = (.ok chosen, db')) :
    (db.retireAssignments stayId).firstFree
        (((db.retireAssignments stayId).candidateRooms stay.propertyId stay.roomType).filter
          fun r => some r ≠ stay.roomId) stay.checkIn stay.checkOut = some chosen := by
  simp only [exec, transaction, changeBody] at h
  cases hf : (db.retireAssignments stayId).firstFree
      (((db.retireAssignments stayId).candidateRooms stay.propertyId stay.roomType).filter
        fun r => some r ≠ stay.roomId) stay.checkIn stay.checkOut with
  | none => simp only [hf] at h; cases h
  | some c =>
    simp only [hf] at h
    rw [occupy_ok h]

/-- **The first free candidate in room-id order.** -/
theorem assignTransaction_le {preferred : Option Int}
    (h : exec (.assignTransaction stayId stay preferred) db = (.ok chosen, db')) {r : Int}
    (hcand : db.IsCandidate stay preferred none r) (hfree : db.Free r stay.checkIn stay.checkOut) :
    chosen ≤ r := by
  cases preferred with
  | some roomId =>
    obtain ⟨e, he, -⟩ | ⟨c, he, ⟨-, -, -, -, rfl⟩, -⟩ :=
      assignTransaction_booking stayId stay (some roomId) db
    · rw [h] at he; cases he
    · rw [h] at he
      cases he
      obtain ⟨-, -, -, -, rfl⟩ := hcand
      exact le_refl _
  | none =>
    obtain ⟨room, hmem, hid, hp, ht, -⟩ := hcand
    exact firstFree_le (candidateRooms_sorted _ _) (assignTransaction_firstFree h) r
      (mem_candidateRooms.mpr ⟨room, hmem, hid, hp, ht⟩) hfree

theorem changeTransaction_le {newRoomId : Option Int}
    (h : exec (.changeTransaction stayId stay newRoomId) db = (.ok chosen, db')) {r : Int}
    (hcand : db.IsCandidate stay newRoomId stay.roomId r)
    (hfree : (db.retireAssignments stayId).Free r stay.checkIn stay.checkOut) : chosen ≤ r := by
  cases newRoomId with
  | some roomId =>
    obtain ⟨e, he, -⟩ | ⟨c, he, ⟨-, -, -, -, rfl⟩, -⟩ :=
      changeTransaction_booking stayId stay (some roomId) db
    · rw [h] at he; cases he
    · rw [h] at he
      cases he
      obtain ⟨-, -, -, -, rfl⟩ := hcand
      exact le_refl _
  | none =>
    obtain ⟨room, hmem, hid, hp, ht, hne⟩ := hcand
    refine firstFree_le ((candidateRooms_sorted _ _).filter _) (changeTransaction_firstFree h) r
      (List.mem_filter.mpr ⟨?_, by simpa using hne.symm⟩) hfree
    exact mem_candidateRooms.mpr ⟨room, hmem, hid, hp, ht⟩

end Db

end StayKey.Store
