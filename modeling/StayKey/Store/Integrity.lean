/-
StayKey.Store.Integrity — what the tables have between any two statements.

`Store.Agreement` is about the states between requests. Here is what holds
between any two statements of any requests, and so also where a process
dies: every stay belongs to the property and has a guest; the room of a
stay, of an assignment and of a key is a room of the property; an
assignment has the window of its stay; and what is revoked is a key that was
issued and is no longer active. The foreign keys of the schema are among
these, and SQLite checks them; the rest is due to the order of the
statements.

What a call writes it has read before, and others write in between. So an
allowed statement is one whose arguments are right when it is run
(`StmtSound`), and it is shown of every call that it runs no other.
-/
import StayKey.Program.Keeps
import StayKey.Store.Agreement

namespace StayKey.Store

open StayKey.Codec StayKey.Door StayKey.Program

variable {P : String} {db db' : Db} {stayId : String}

/-- The room is one of the property. -/
def InProperty (P : String) (db : Db) (roomId : Int) : Prop :=
  ∃ room ∈ db.rooms, room.roomId = roomId ∧ room.propertyId = P

/-- The key has a row that is not active. -/
def Dropped (db : Db) (keyId : String) : Prop := ∃ k ∈ db.keys, k.keyId = keyId ∧ k.active = false

structure Integrity (P : String) (db : Db) : Prop where
  /-- A stay is of the property, and has a guest. -/
  stay : ∀ id s, db.getStay id = some s → s.propertyId = P ∧ ∃ g ∈ db.guests, g.guestId = s.guestId
  /-- Its room is one of the property. -/
  stayRoom : ∀ id s roomId, db.getStay id = some s → s.roomId = some roomId → InProperty P db roomId
  assignmentRoom : ∀ a ∈ db.assignments, InProperty P db a.roomId
  assignment : ∀ a ∈ db.assignments, StayIs db a.stayId fun s =>
    s.roomId ≠ none ∧ s.checkIn = a.checkIn ∧ s.checkOut = a.checkOut
  keyRoom : ∀ k ∈ db.keys, InProperty P db k.roomId
  key : ∀ k ∈ db.keys, StayIs db k.stayId fun s => s.roomId ≠ none
  /-- What is revoked was issued, and is no longer active. -/
  revocation : ∀ id ∈ db.revocationList, Dropped db id

theorem integrity_empty : Integrity P .empty where
  stay _ _ h := by cases h
  stayRoom _ _ _ h := by cases h
  assignmentRoom a h := absurd h (Table.notMem_empty a)
  assignment a h := absurd h (Table.notMem_empty a)
  keyRoom k h := absurd h (Table.notMem_empty k)
  key k h := absurd h (Table.notMem_empty k)
  revocation _ h := absurd h List.not_mem_nil

/-- What has been read of a stay stays so. -/
theorem StayIs.extends {Q : StayRow → Prop} {id : String} (h : StayIs db id Q) (hext : Extends db db')
    (hQ : ∀ s s', SameBooking s s' → Q s → Q s') : StayIs db' id Q :=
  h.mono fun s hs hq => by
    obtain ⟨s', hs', hbook⟩ := hext.stays id s hs
    exact ⟨s', hs', hQ s s' hbook hq⟩

theorem InProperty.extends {roomId : Int} (h : InProperty P db roomId) (hext : Extends db db') :
    InProperty P db' roomId := by
  obtain ⟨room, hin, hroom⟩ := h
  exact ⟨room, hext.rooms room hin, hroom⟩

theorem Dropped.extends {keyId : String} (h : Dropped db keyId) (hext : Extends db db') :
    Dropped db' keyId := by
  obtain ⟨k, hk, hid, hact⟩ := h
  obtain hkept | hretired := hext.keys k hk
  · exact ⟨k, hkept, hid, hact⟩
  · exact ⟨_, hretired, hid, rfl⟩

/-! ## Statements -/

/-- The arguments of a statement are right when it is run. -/
def StmtSound (P : String) : Stmt → Db → Prop
  | .addStay _ _ propertyId .., _ => propertyId = P
  | .addKey row, db => InProperty P db row.roomId ∧ StayIs db row.stayId fun s => s.roomId ≠ none
  | .revokeKey keyId .., db => Dropped db keyId
  | .assignTransaction stayId stay _, db | .changeTransaction stayId stay _, db =>
    stay.propertyId = P ∧ ∀ s, db.getStay stayId = some s →
      s.checkIn = stay.checkIn ∧ s.checkOut = stay.checkOut
  | _, _ => True

/-- A statement that changes no key, no room and no assignment, and keeps the
bookings. -/
theorem Integrity.of_stays (h : Integrity P db) (hguests : ∀ g ∈ db.guests, g ∈ db'.guests)
    (hassignments : db'.assignments = db.assignments)
    (hkeys : db'.keys = db.keys) (hrevoked : db'.revocations = db.revocations)
    (hext : Extends db db')
    (hstay : ∀ id s', db'.getStay id = some s' →
      (∃ s, db.getStay id = some s ∧ s.guestId = s'.guestId ∧ s.propertyId = s'.propertyId ∧
        s.roomId = s'.roomId) ∨
      s'.propertyId = P ∧ s'.roomId = none ∧ ∃ g ∈ db'.guests, g.guestId = s'.guestId) :
    Integrity P db' where
  stay id s' hs' := by
    obtain ⟨s, hs, hguest, hproperty, -⟩ | ⟨hproperty, -, hguest⟩ := hstay id s' hs'
    · obtain ⟨hp, g, hg, hid⟩ := h.stay id s hs
      exact ⟨hproperty ▸ hp, g, hguests g hg, hid.trans hguest⟩
    · exact ⟨hproperty, hguest⟩
  stayRoom id s' roomId hs' hr := by
    obtain ⟨s, hs, -, -, hroom⟩ | ⟨-, hnone, -⟩ := hstay id s' hs'
    · exact (h.stayRoom id s roomId hs (hroom.trans hr)).extends hext
    · rw [hnone] at hr
      cases hr
  assignmentRoom a ha := by
    rw [hassignments] at ha
    exact (h.assignmentRoom a ha).extends hext
  assignment a ha := by
    rw [hassignments] at ha
    refine (h.assignment a ha).extends hext fun s s' hbook hs => ?_
    exact ⟨hbook.room hs.1, hbook.checkIn.trans hs.2.1, hbook.checkOut.trans hs.2.2⟩
  keyRoom k hk := by
    rw [hkeys] at hk
    exact (h.keyRoom k hk).extends hext
  key k hk := by
    rw [hkeys] at hk
    exact (h.key k hk).extends hext fun s s' hbook hs => hbook.room hs
  revocation id hid := by
    rw [Db.revocationList, hrevoked] at hid
    exact (h.revocation id hid).extends hext

theorem integrity_addGuest {guestId name email : String} (h : Integrity P db)
    (hadd : db.addGuest guestId name email = .ok db') : Integrity P db' := by
  rw [Db.addGuest] at hadd
  cases hi : db.guests.insert? ⟨guestId, name, email⟩ with
  | none =>
    rw [hi] at hadd
    cases hadd
  | some guests =>
    rw [hi] at hadd
    cases hadd
    refine h.of_stays (fun g hg => (Table.mem_of_insert? hi).mpr (.inl hg)) rfl rfl rfl
      (Extends.of_eq rfl rfl rfl rfl) fun id s hs => ?_
    exact .inl ⟨s, hs, rfl, rfl, rfl⟩

theorem integrity_addRoom {roomId : Int} {propertyId number roomType : String} (h : Integrity P db)
    (hadd : db.addRoom roomId propertyId number roomType = .ok db') : Integrity P db' := by
  have hext := extends_addRoom hadd
  obtain ⟨rooms, rfl, -⟩ := Db.addRoom_ok hadd
  refine h.of_stays (fun _ hg => hg) rfl rfl rfl hext fun id s hs => ?_
  exact .inl ⟨s, hs, rfl, rfl, rfl⟩

/-- A new stay is of the property, and its guest is there. -/
theorem integrity_addStay {id guestId roomType : String} {checkIn checkOut : Int} (h : Integrity P db)
    (hadd : db.addStay id guestId P roomType checkIn checkOut = .ok db') : Integrity P db' := by
  have hext := extends_addStay hadd
  have hguest : ∃ g ∈ db.guests, g.guestId = guestId := by
    rw [Db.addStay] at hadd
    cases hg : db.guests.find? guestId with
    | none =>
      rw [hg, if_pos Option.isNone_none] at hadd
      cases hadd
    | some g => exact ⟨g, Table.find?_eq_some_iff.mp hg⟩
  obtain ⟨-, stays, rfl, hmem⟩ := Db.addStay_ok hadd
  refine h.of_stays (fun _ hg => hg) rfl rfl rfl hext fun i s hs => ?_
  obtain ⟨hin, hid⟩ := Db.getStay_eq_some_iff.mp hs
  rcases (hmem s).mp hin with hold | rfl
  · exact .inl ⟨s, Db.getStay_eq_some_iff.mpr ⟨hold, hid⟩, rfl, rfl, rfl⟩
  · exact .inr ⟨rfl, rfl, hguest⟩

theorem integrity_setStayStatus (h : Integrity P db) (stayId : String) (status : StayStatus) :
    Integrity P (db.setStayStatus stayId status) := by
  refine h.of_stays (fun _ hg => hg) rfl rfl rfl (extends_setStayStatus db stayId status)
    fun id s hs => ?_
  rw [Db.getStay_setStayStatus] at hs
  obtain ⟨s₀, hs₀, rfl⟩ := Option.map_eq_some_iff.mp hs
  refine .inl ⟨s₀, hs₀, ?_⟩
  split <;> exact ⟨rfl, rfl, rfl⟩

theorem integrity_addKey {row : KeyRow} (h : Integrity P db) (hroom : InProperty P db row.roomId)
    (hstay : StayIs db row.stayId fun s => s.roomId ≠ none) (hadd : db.addKey row = .ok db') :
    Integrity P db' := by
  have hmem (k : KeyRow) : k ∈ db'.keys ↔ k ∈ db.keys ∨ k = row := Db.mem_addKey hadd
  have hext := extends_addKey hadd
  obtain ⟨-, -, keys, rfl⟩ := Db.addKey_ok hadd
  refine ⟨h.stay, h.stayRoom, h.assignmentRoom, h.assignment, fun k hk => ?_, fun k hk => ?_, fun id hid => ?_⟩
  · rcases (hmem k).mp hk with hk | rfl
    · exact h.keyRoom k hk
    · exact hroom
  · rcases (hmem k).mp hk with hk | rfl
    · exact h.key k hk
    · exact hstay
  · exact (h.revocation id hid).extends hext

theorem integrity_retireKeys (h : Integrity P db) (stayId : String) :
    Integrity P (db.retireKeys stayId) := by
  refine ⟨h.stay, h.stayRoom, h.assignmentRoom, h.assignment, fun k hk => ?_, fun k hk => ?_, fun id hid => ?_⟩
  · obtain ⟨k₀, hk₀, rfl⟩ := Db.mem_retireKeys.mp hk
    split <;> exact h.keyRoom k₀ hk₀
  · obtain ⟨k₀, hk₀, rfl⟩ := Db.mem_retireKeys.mp hk
    split <;> exact h.key k₀ hk₀
  · exact (h.revocation id hid).extends (extends_retireKeys db stayId)

theorem integrity_revokeKey (h : Integrity P db) {keyId : String} (hkey : Dropped db keyId) (now : Int)
    (reason : String) : Integrity P (db.revokeKey keyId now reason) := by
  have hmem (id : String) : id ∈ (db.revokeKey keyId now reason).revocationList ↔
      id ∈ db.revocationList ∨ id = keyId := Db.mem_revocationList_revokeKey
  obtain ⟨revocations, hr⟩ := Db.revokeKey_eq db keyId now reason
  rw [hr] at hmem ⊢
  refine ⟨h.stay, h.stayRoom, h.assignmentRoom, h.assignment, h.keyRoom, h.key, fun id hid => ?_⟩
  rcases (hmem id).mp hid with hid | rfl
  · exact h.revocation id hid
  · exact hkey

theorem integrity_retireAssignments (h : Integrity P db) (stayId : String) :
    Integrity P (db.retireAssignments stayId) := by
  refine ⟨h.stay, h.stayRoom, fun a ha => ?_, fun a ha => ?_, h.keyRoom, h.key, h.revocation⟩
  · obtain ⟨a₀, ha₀, rfl⟩ := Db.mem_retireAssignments.mp ha
    split <;> exact h.assignmentRoom a₀ ha₀
  · obtain ⟨a₀, ha₀, rfl⟩ := Db.mem_retireAssignments.mp ha
    split <;> exact h.assignment a₀ ha₀

/-- A room of the property is occupied. `stay` may have been read before. -/
theorem integrity_occupied {stay : StayRow} {chosen : Int} (h : Integrity P db)
    (hroom : InProperty P db chosen) (hstay : ∃ s, db.getStay stayId = some s)
    (hwindow : ∀ s, db.getStay stayId = some s → s.checkIn = stay.checkIn ∧ s.checkOut = stay.checkOut) :
    Integrity P (db.occupied stayId stay chosen) := by
  have hget (id : String) : (db.occupied stayId stay chosen).getStay id
      = (db.getStay id).map fun r => if id = stayId then { r with roomId := some chosen } else r :=
    Db.getStay_occupied id
  have hext := extends_occupied db stayId stay chosen
  refine ⟨fun id s hs => ?_, fun id s roomId hs hr => ?_, fun a ha => ?_, fun a ha => ?_, h.keyRoom,
    fun k hk => (h.key k hk).extends hext fun _ _ hbook => hbook.room, h.revocation⟩
  · rw [hget] at hs
    obtain ⟨s₀, hs₀, rfl⟩ := Option.map_eq_some_iff.mp hs
    split <;> exact h.stay id s₀ hs₀
  · rw [hget] at hs
    obtain ⟨s₀, hs₀, rfl⟩ := Option.map_eq_some_iff.mp hs
    by_cases hid : id = stayId
    · rw [if_pos hid] at hr
      cases hr
      exact hroom
    · rw [if_neg hid] at hr
      exact h.stayRoom id s₀ roomId hs₀ hr
  · rcases Db.mem_occupied.mp ha with ha | rfl
    · exact h.assignmentRoom a ha
    · exact hroom
  · rcases Db.mem_occupied.mp ha with ha | rfl
    · refine (h.assignment a ha).extends hext fun s s' hbook hs => ?_
      exact ⟨hbook.room hs.1, hbook.checkIn.trans hs.2.1, hbook.checkOut.trans hs.2.2⟩
    · obtain ⟨s, hs⟩ := hstay
      refine ⟨{ s with roomId := some chosen }, ?_, nofun, hwindow s hs⟩
      have hself := hget stayId
      rwa [hs, Option.map_some, if_pos rfl] at hself

/-- Both transactions, on tables `db₁` that have the same stays and rooms. -/
theorem integrity_booking {db₁ : Db} {stay : StayRow} {requested avoid : Option Int}
    {result : Except Exc Int × Db} (h : Integrity P db) (h₁ : Integrity P db₁)
    (hrooms : db₁.rooms = db.rooms) (hstays : db₁.stays = db.stays) (hp : stay.propertyId = P)
    (hwindow : ∀ s, db.getStay stayId = some s → s.checkIn = stay.checkIn ∧ s.checkOut = stay.checkOut)
    (hbooking : Db.Booking db₁ db stayId stay requested avoid result) : Integrity P result.2 := by
  obtain ⟨e, rfl, -⟩ | ⟨chosen, rfl, ⟨room, hin, hid, hproperty, -⟩, -, hs⟩ := hbooking
  · exact h
  · have hroom : InProperty P db₁ chosen := ⟨room, hrooms ▸ hin, hid, hproperty.trans hp⟩
    rw [Db.getStay, ← hstays] at hs
    refine integrity_occupied h₁ hroom hs fun s hs => hwindow s ?_
    rwa [Db.getStay, ← hstays]

/-- **Every allowed statement keeps the integrity of the tables.** -/
theorem integrity_exec (op : Stmt) (db : Db) (hop : StmtSound P op db) (h : Integrity P db) :
    Integrity P (exec op db).2 := by
  cases op with
  | addGuest => exact write_preserves h fun _ => integrity_addGuest h
  | addRoom => exact write_preserves h fun _ => integrity_addRoom h
  | addStay =>
    obtain rfl := hop
    exact write_preserves h fun _ => integrity_addStay h
  | addKey row => exact write_preserves h fun _ => integrity_addKey h hop.1 hop.2
  | setStayStatus stayId status => exact integrity_setStayStatus h stayId status
  | retireKeys stayId => exact integrity_retireKeys h stayId
  | revokeKey keyId now reason => exact integrity_revokeKey h hop now reason
  | retireAssignments stayId => exact integrity_retireAssignments h stayId
  | assignTransaction stayId stay preferred =>
    exact integrity_booking h h rfl rfl hop.1 hop.2 (Db.assignTransaction_booking stayId stay preferred db)
  | changeTransaction stayId stay newRoomId =>
    exact integrity_booking h (integrity_retireAssignments h stayId) rfl rfl hop.1 hop.2
      (Db.changeTransaction_booking stayId stay newRoomId db)
  | guestExists | getRoom | getStay | activeKeys | revocationList => exact h

/-! ## Calls -/

/-- The program runs no statement but with the right arguments, whatever
others write in between. -/
abbrev KeepsTables (P : String) {α : Type} (Q : α → Db → Prop) (p : Call α) (db : Db) : Prop :=
  p.KeepsFrom exec Extends (Integrity P) (StmtSound P) Q db

/-- What is still true of a stay that was read. -/
structure Seen (P : String) (S : String) (stay : StayRow) (db : Db) : Prop where
  property : stay.propertyId = P
  booking : StayIs db S (SameBooking stay)
  room : ∀ roomId, stay.roomId = some roomId → InProperty P db roomId

variable {S : String} {now : Int} {stay : StayRow}

theorem Seen.extends (h : Seen P S stay db) (hext : Extends db db') : Seen P S stay db' where
  property := h.property
  booking := h.booking.extends hext fun _ _ h' h => h.trans h'
  room roomId hr := (h.room roomId hr).extends hext

/-- The transactions are given a stay that was read. -/
theorem Seen.window (h : Seen P S stay db) :
    stay.propertyId = P ∧ ∀ s, db.getStay S = some s → s.checkIn = stay.checkIn ∧ s.checkOut = stay.checkOut := by
  refine ⟨h.property, fun s hs => ?_⟩
  obtain ⟨s', hs', hbook⟩ := h.booking
  obtain rfl := Option.some.inj (hs.symm.trans hs')
  exact ⟨hbook.checkIn, hbook.checkOut⟩

/-- A statement on its own. -/
theorem keepsTables_stmt {op : Stmt} {Q : op.Res → Db → Prop} (h : Integrity P db)
    (hop : ∀ t, Extends db t → StmtSound P op t)
    (hQ : ∀ t r u, Integrity P t → exec op t = (.ok r, u) → ∀ v, Extends u v → Q r v) :
    KeepsTables P Q op.call db :=
  Prog.keepsFrom_call integrity_exec h (fun t ht _ => hop t ht) fun t r u _ ht he hu =>
    Prog.keepsFrom_ret hu fun v hv _ => hQ t r u ht he v hv

/-- A statement of which nothing is asked, and that says nothing. -/
theorem keepsTables_any (op : Stmt) (h : Integrity P db) (hop : ∀ t, StmtSound P op t) :
    KeepsTables P (fun _ _ => True) op.call db :=
  keepsTables_stmt h (fun t _ => hop t) fun _ _ _ _ _ _ _ => trivial

theorem keepsTables_getStay (h : Integrity P db) (S : String) :
    KeepsTables P (fun found db => ∀ stay, found = some stay → Seen P S stay db)
      (Stmt.call (.getStay S)) db := by
  refine keepsTables_stmt h (fun _ _ => trivial) fun t found u ht he v hv stay hfound => ?_
  cases he
  have hseen : Seen P S stay t :=
    ⟨(ht.stay S stay hfound).1, ⟨stay, hfound, .refl stay⟩, fun roomId hr => ht.stayRoom S stay roomId hfound hr⟩
  exact hseen.extends hv

/-- Read a stay, and go on with what was seen. -/
theorem keepsTables_bind_getStay {β : Type} {f : Option StayRow → Call β} {Q : β → Db → Prop}
    (h : Integrity P db) (hnone : ∃ e, f none = raise e)
    (hsome : ∀ stay db, Seen P S stay db → Integrity P db → KeepsTables P Q (f (some stay)) db) :
    KeepsTables P Q (Stmt.call (.getStay S) >>= f) db := by
  refine (keepsTables_getStay h S).bind Extends.refl fun found db hseen hdb => ?_
  cases found with
  | none =>
    obtain ⟨e, he⟩ := hnone
    rw [he]
    exact Prog.keepsFrom_throw e db
  | some stay => exact hsome stay db (hseen stay rfl) hdb

theorem assignRoom_keeps (h : Integrity P db) (S : String) (preferred : Option Int) :
    KeepsTables P (fun _ _ => True) (assignRoom S preferred) db := by
  refine keepsTables_bind_getStay h ⟨_, rfl⟩ fun stay db hseen hdb => ?_
  cases hr : stay.roomId with
  | some roomId =>
    simp only [hr]
    exact Prog.keepsFrom_ret hdb fun _ _ _ => trivial
  | none =>
    simp only [hr]
    exact keepsTables_stmt hdb (fun t ht => (hseen.extends ht).window) fun _ _ _ _ _ _ _ => trivial

theorem moveRoom_keeps (h : Integrity P db) (S : String) (newRoomId : Option Int) :
    KeepsTables P (fun _ _ => True) (moveRoom S newRoomId) db := by
  refine keepsTables_bind_getStay h ⟨_, rfl⟩ fun stay db hseen hdb => ?_
  exact keepsTables_stmt hdb (fun t ht => (hseen.extends ht).window) fun _ _ _ _ _ _ _ => trivial

section Keys

variable {E : Env} {sk : PrivateKey} {fresh : Fresh}

/-- A key is stored for a room that the stay had. -/
theorem issueForStay_keeps (h : Integrity P db) (S : String) :
    KeepsTables P (fun _ _ => True) (issueForStay E sk S now fresh) db := by
  refine keepsTables_bind_getStay h ⟨_, rfl⟩ fun stay db hseen hdb => ?_
  cases hr : stay.roomId with
  | none =>
    simp only [hr]
    exact Prog.keepsFrom_throw _ db
  | some roomId =>
    simp only [hr]
    split
    · exact Prog.keepsFrom_throw _ db
    · cases issueCredential E sk (stayCredential stay S roomId now fresh) fresh with
      | error e => exact Prog.keepsFrom_throw e db
      | ok issued =>
        have hop (t : Db) (ht : Extends db t) : StmtSound P (.addKey (stayKeyRow stay S roomId now issued)) t := by
          have hseen' := hseen.extends ht
          refine ⟨hseen'.room roomId hr, hseen'.booking.mono fun s hs hbook => ⟨s, hs, hbook.room ?_⟩⟩
          rw [hr]
          exact nofun
        have hadd : KeepsTables P (fun _ _ => True)
            (Stmt.call (.addKey (stayKeyRow stay S roomId now issued))) db :=
          keepsTables_stmt hdb hop fun _ _ _ _ _ _ _ => trivial
        exact hadd.bind Extends.refl fun _ db _ hdb => Prog.keepsFrom_ret hdb fun _ _ _ => trivial

theorem refreshKey_keeps (h : Integrity P db) (S : String) :
    KeepsTables P (fun _ _ => True) (refreshKey E sk S now fresh) db := by
  refine keepsTables_bind_getStay h ⟨_, rfl⟩ fun stay db _ hdb => ?_
  simp only
  split
  · exact Prog.keepsFrom_throw _ db
  · refine (keepsTables_any (.retireKeys S) hdb fun _ => trivial).bind Extends.refl fun _ db _ hdb => ?_
    exact issueForStay_keeps hdb S

theorem checkin_keeps (h : Integrity P db) (S : String) :
    KeepsTables P (fun _ _ => True) (checkin E sk S now fresh) db := by
  refine keepsTables_bind_getStay h ⟨_, rfl⟩ fun stay db _ hdb => ?_
  refine (keepsTables_any (.setStayStatus S .checkedIn) hdb fun _ => trivial).bind Extends.refl
    fun _ db _ hdb => ?_
  exact issueForStay_keeps hdb S

/-- The key ids are those of keys of the stay. -/
def OfStay (S : String) (keyIds : List String) (db : Db) : Prop :=
  ∀ id ∈ keyIds, ∃ k ∈ db.keys, k.keyId = id ∧ k.stayId = S

theorem OfStay.extends {keyIds : List String} (h : OfStay S keyIds db) (hext : Extends db db') :
    OfStay S keyIds db' := by
  intro id hid
  obtain ⟨k, hk, rfl, hS⟩ := h id hid
  obtain hkept | hretired := hext.keys k hk
  · exact ⟨k, hkept, rfl, hS⟩
  · exact ⟨_, hretired, rfl, hS⟩

theorem OfStay.retireKeys {keyIds : List String} (h : OfStay S keyIds db) :
    ∀ id ∈ keyIds, Dropped (db.retireKeys S) id := by
  intro id hid
  obtain ⟨k, hk, rfl, hS⟩ := h id hid
  exact ⟨{ k with active := false }, Db.mem_retireKeys.mpr ⟨k, hk, by rw [if_pos hS]⟩, rfl, rfl⟩

/-- The keys that were active are dropped before they are revoked. -/
theorem deactivateKeysForStay_keeps (h : Integrity P db) (S : String) :
    KeepsTables P (fun keyIds db => ∀ id ∈ keyIds, Dropped db id) (deactivateKeysForStay S) db := by
  have hactive : KeepsTables P (OfStay S) (Stmt.call (.activeKeys S)) db := by
    refine keepsTables_stmt h (fun _ _ => trivial) fun t keyIds u _ he v hv => ?_
    cases he
    have hstay : OfStay S (t.activeKeys S) t := by
      intro id hid
      obtain ⟨k, hk, hkid, hS, -⟩ := Db.mem_activeKeys.mp hid
      exact ⟨k, hk, hkid, hS⟩
    exact hstay.extends hv
  refine hactive.bind Extends.refl fun keyIds db hstay hdb => ?_
  refine Prog.keepsFrom_call integrity_exec hdb (fun _ _ _ => trivial) fun t _ u ht _ he hu => ?_
  cases he
  exact Prog.keepsFrom_ret hu fun v hv _ id hid => ((hstay.extends ht).retireKeys id hid).extends hv

/-- The keys that are revoked are dropped, one by one. -/
theorem revokeKeys_keeps (reason : String) {keyIds : List String} (h : Integrity P db)
    (hdropped : ∀ id ∈ keyIds, Dropped db id) :
    KeepsTables P (fun _ _ => True) (revokeKeys now reason keyIds) db := by
  induction keyIds generalizing db with
  | nil => exact Prog.keepsFrom_ret h fun _ _ _ => trivial
  | cons keyId rest ih =>
    refine Prog.keepsFrom_call integrity_exec h (fun t ht _ => ?_) fun t _ u ht _ he hu => ?_
    · exact (hdropped keyId List.mem_cons_self).extends ht
    · have htu := extends_exec (.revokeKey keyId now reason) t
      rw [he] at htu
      exact ih hu fun id hid => (hdropped id (List.mem_cons_of_mem keyId hid)).extends (ht.trans htu)

theorem checkout_keeps (h : Integrity P db) (S : String) :
    KeepsTables P (fun _ _ => True) (checkout S now) db := by
  refine keepsTables_bind_getStay h ⟨_, rfl⟩ fun stay db _ hdb => ?_
  refine (deactivateKeysForStay_keeps hdb S).bind Extends.refl fun revoked db hdropped hdb => ?_
  refine (revokeKeys_keeps "checkout" hdb hdropped).bind Extends.refl fun _ db _ hdb => ?_
  refine (keepsTables_any (.retireAssignments S) hdb fun _ => trivial).bind Extends.refl
    fun _ db _ hdb => ?_
  refine (keepsTables_any (.setStayStatus S .checkedOut) hdb fun _ => trivial).bind Extends.refl
    fun _ db _ hdb => ?_
  exact Prog.keepsFrom_ret hdb fun _ _ _ => trivial

theorem changeRoom_keeps (h : Integrity P db) (S : String) (newRoomId : Option Int) :
    KeepsTables P (fun _ _ => True) (changeRoom E sk S now newRoomId fresh) db := by
  refine keepsTables_bind_getStay h ⟨_, rfl⟩ fun stay db _ hdb => ?_
  simp only
  split
  · exact Prog.keepsFrom_throw _ db
  · refine (deactivateKeysForStay_keeps hdb S).bind Extends.refl fun revoked db hdropped hdb => ?_
    refine (revokeKeys_keeps "room_change" hdb hdropped).bind Extends.refl fun _ db _ hdb => ?_
    refine (moveRoom_keeps hdb S newRoomId).bind Extends.refl fun newRoom db _ hdb => ?_
    refine (issueForStay_keeps hdb S).bind Extends.refl fun issued db _ hdb => ?_
    exact Prog.keepsFrom_ret hdb fun _ _ _ => trivial

end Keys

end StayKey.Store
