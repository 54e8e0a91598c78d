/-
StayKey.Service.ConnectedTheorems — which commands the authorizer allows.

`authorize_issue`: an issued credential, answered by its own device, is
allowed exactly where the static checks hold, its stay is the active one
of the room, and the challenge is fresh. The stay is the active one when
the newest active assignment of the room is its own: so a reservation that
is made later, for a window far off, takes the room from a guest who is in
it (`authorize_allows_iff`).
-/
import StayKey.Service.TablesAgree

namespace StayKey.Service

open StayKey.Codec StayKey.Door StayKey.Store StayKey.Program

variable {E : Env} {sk : PrivateKey} {propertyId : String} {h : List ApiEntry} {s : AppState} {db : Db}

/-! ## The decision on issued credentials -/

/-- The stay holds the newest active assignment of the room, is checked in
and has the room. -/
def ActiveStay (db : Db) (stayId : String) (roomId : Int) : Prop :=
  ∃ a stay, db.activeAssignmentForRoom roomId = some a ∧ a.stayId = stayId ∧
    db.getStay stayId = some stay ∧ stay.status = .checkedIn ∧ stay.roomId = some roomId

theorem isActiveStay_eq_true_iff {payload : JsonDict} {stayId : String}
    (hp : dictGet? payload (py "stay_id") = some (.str (py stayId))) (roomId : Int) :
    isActiveStay E db payload roomId = .ok true ↔ ActiveStay db stayId roomId := by
  simp only [isActiveStay, hp, bind, Except.bind, pyStr, getStayByText_py, ActiveStay]
  cases db.activeAssignmentForRoom roomId with
  | none => simp [pure, Except.pure]
  | some a =>
    cases db.getStay stayId with
    | none => simp [pure, Except.pure]
    | some stay =>
      have hid : eqStr (.str (py stayId)) (py a.stayId) = decide (a.stayId = stayId) := by
        simp [eqStr, eq_comm, Bool.beq_eq_decide_eq]
      simp only [hid, Option.some.injEq]
      by_cases hstay : a.stayId = stayId
      case neg => simp [hstay, pure, Except.pure]
      by_cases hst : stay.status = .checkedIn
      case neg => simp [hstay, hst, pure, Except.pure]
      cases hr : stay.roomId with
      | none => simp [hstay, hst, hr]
      | some room => simp [hstay, hst, hr, pure, Except.pure]

/-- **An issued credential, answered by its own device,** is allowed exactly
where the static checks hold for the room, its stay is the active one there
and the challenge is fresh. -/
theorem authorize_issue (hE : E.ed.Correct) {a : CredentialIn} {fresh : Fresh} {ik : IssuedKey}
    (hissue : issueCredential E sk a fresh = .ok ik) {c : ConnectedRoomAuthorizer}
    (hc : c.propertyPub = E.ed.publicKey sk) {challenge response : Bytes}
    (hr : deviceSign E ik.deviceSkB64 challenge = .ok response) (roomId : Int) (command : String)
    (now : Int) :
    (c.authorize E db roomId command ik.token challenge response now).1 = .ok (.unlock (py ik.keyId)) ↔
      command ∈ allowedDevices ∧
      firstFailing (staticChecks (a.fields E fresh) c.propertyId roomId now
        (db.revocationList.map py).toFinset) = none ∧
      ActiveStay db a.stayId roomId ∧ c.challenges.Acceptable challenge now := by
  unfold ConnectedRoomAuthorizer.authorize
  by_cases hcmd : command ∈ allowedDevices
  swap
  · rw [if_pos hcmd]
    exact iff_of_false (fun h => by cases h) fun h => hcmd h.1
  rw [if_neg (not_not_intro hcmd)]
  obtain ⟨bytes, -, heval⟩ := evaluateStatic_issue hissue c.propertyPub c.propertyId roomId now
    (db.revocationList.map py).toFinset
  rw [heval, if_pos (hc ▸ hE sk bytes)]
  cases firstFailing (staticChecks (a.fields E fresh) c.propertyId roomId now
    (db.revocationList.map py).toFinset) with
  | some reason => exact iff_of_false (fun h => by cases h) fun h => by cases h.2.1
  | none =>
    have hcarries := carries_payload (E := E) a fresh
    have hactive : isActiveStay E db (sortByKey (a.payload E fresh)) roomId = .ok true ↔
        ActiveStay db a.stayId roomId := isActiveStay_eq_true_iff hcarries.stayId roomId
    simp only [StaticResult.ofReason]
    cases hb : isActiveStay E db (sortByKey (a.payload E fresh)) roomId with
    | error e =>
      rw [hb] at hactive
      exact iff_of_false (fun h => by cases h) fun h => by cases hactive.mpr h.2.2.1
    | ok b =>
      rw [hb] at hactive
      cases b with
      | false => exact iff_of_false (fun h => by cases h) fun h => by cases hactive.mpr h.2.2.1
      | true =>
        obtain ⟨_, bytes', -, hik⟩ := issueCredential_ok hissue
        have hkey : ik.keyId = a.issuedKeyId fresh := by rw [hik]
        rw [deviceSign_issue hissue, Except.ok.injEq] at hr
        subst hr
        have hans := presentChallenge_answers (E := E) c.challenges (py (a.issuedKeyId fresh))
          (a.fields E fresh).devicePub challenge (E.ed.sign (a.device fresh) challenge) now
        simp only [payloadKeyId, payloadDevicePub, hcarries.keyId, hcarries.devicePub,
          Option.getD_some, pyStr, hkey]
        refine hans.unlock_iff.trans (presentationChecks_hold_iff.trans ?_)
        have hpossession : possession E (a.fields E fresh).devicePub challenge
            (E.ed.sign (a.device fresh) challenge) = true := possession_sign hE (a.device fresh) challenge
        exact ⟨fun h => ⟨hcmd, trivial, hactive.mp rfl, h.1⟩, fun h => ⟨h.2.2.2, hpossession⟩⟩

/-! ## The property of a stay -/

/-- Every stay belongs to the property. -/
def StaysOf (propertyId : String) (db : Db) : Prop := ∀ stay ∈ db.stays, stay.propertyId = propertyId

/-- The statement adds no stay. -/
def Stmt.AddsNoStay : Stmt → Prop
  | .addStay .. => False
  | .addGuest .. | .addRoom .. | .guestExists _ | .getRoom _ | .getStay _ | .setStayStatus ..
  | .addKey _ | .activeKeys _ | .retireKeys _ | .revokeKey .. | .revocationList
  | .retireAssignments _ | .assignTransaction .. | .changeTransaction .. => True

theorem staysOf_update {p : StayRow → Bool} {f : StayRow → StayRow} {hkey : ∀ r, (f r).stayId = r.stayId}
    (hf : ∀ r, (f r).propertyId = r.propertyId) (hdb : StaysOf propertyId db) :
    StaysOf propertyId { db with stays := db.stays.updateWhere p f hkey } := by
  intro stay (hstay : stay ∈ db.stays.updateWhere p f hkey)
  obtain ⟨r, hr, rfl⟩ := Table.mem_updateWhere.mp hstay
  split
  · rw [hf]; exact hdb r hr
  · exact hdb r hr

theorem staysOf_exec {op : Stmt} (hop : Stmt.AddsNoStay op) (hdb : StaysOf propertyId db) :
    StaysOf propertyId (exec op db).2 := by
  cases op with
  | addGuest guestId name email =>
    simp only [exec]
    cases ha : db.addGuest guestId name email with
    | error e => exact hdb
    | ok db' =>
      obtain ⟨guests, rfl⟩ := Db.addGuest_ok ha
      exact hdb
  | addRoom roomId property number roomType =>
    simp only [exec]
    cases ha : db.addRoom roomId property number roomType with
    | error e => exact hdb
    | ok db' =>
      obtain ⟨rooms, rfl, -⟩ := Db.addRoom_ok ha
      exact hdb
  | addKey row =>
    simp only [exec]
    cases ha : db.addKey row with
    | error e => exact hdb
    | ok db' =>
      obtain ⟨-, -, keys, rfl⟩ := Db.addKey_ok ha
      exact hdb
  | setStayStatus stayId status => exact staysOf_update (fun _ => rfl) hdb
  | revokeKey keyId revokedAt reason =>
    obtain ⟨r, hr⟩ := Db.revokeKey_eq db keyId revokedAt reason
    simp only [exec, hr]
    exact hdb
  | assignTransaction stayId stay preferred =>
    obtain ⟨e, he, -⟩ | ⟨chosen, he, -⟩ := Db.assignTransaction_booking stayId stay preferred db
    · rw [he]; exact hdb
    · rw [he]; exact staysOf_update (fun _ => rfl) hdb
  | changeTransaction stayId stay newRoomId =>
    obtain ⟨e, he, -⟩ | ⟨chosen, he, -⟩ := Db.changeTransaction_booking stayId stay newRoomId db
    · rw [he]; exact hdb
    · rw [he]; exact staysOf_update (fun _ => rfl) hdb
  | addStay => exact hop.elim
  | guestExists | getRoom | getStay | activeKeys | retireKeys | revocationList | retireAssignments =>
    exact hdb

theorem staysOf_run {α : Type} {p : Call α} (hp : p.Only Stmt.AddsNoStay)
    (hdb : StaysOf propertyId db) : StaysOf propertyId (p.run db).2 :=
  Prog.run_preserves exec (I := StaysOf propertyId) (fun _ _ hop h => staysOf_exec hop h) hp hdb

theorem staysOf_invariant :
    StoreInvariant E sk propertyId AnyCheckin (StaysOf propertyId) where
  empty _ h := absurd h (Table.notMem_empty _)
  addGuest h ha := by
    obtain ⟨guests, rfl⟩ := Db.addGuest_ok ha
    exact h
  addRoom h ha := by
    obtain ⟨rooms, rfl, -⟩ := Db.addRoom_ok ha
    exact h
  addStay h _ ha := by
    obtain ⟨-, stays, rfl, hmem⟩ := Db.addStay_ok ha
    intro stay hstay
    rcases (hmem stay).mp hstay with hstay | rfl
    · exact h stay hstay
    · rfl
  assignRoom h _ := staysOf_run (assignRoom_only trivial (fun _ _ => trivial) _) h
  checkin h _ := staysOf_run (checkin_only trivial trivial fun _ _ => trivial) h
  refreshKey h := staysOf_run (refreshKey_only trivial trivial fun _ _ => trivial) h
  changeRoom h := staysOf_run (changeRoom_only trivial trivial trivial (fun _ _ _ => trivial)
    (fun _ _ => trivial) (fun _ _ => trivial) _) h
  checkout h := staysOf_run (checkout_only trivial trivial trivial (fun _ _ _ => trivial) trivial
    trivial) h

theorem staysOf_api (hs : ApiHistory E propertyId sk h s) : StaysOf propertyId s.db :=
  (staysOf_invariant.holds hs fun e _ => requestOk_any e.request).1

/-! ## When a guest is served -/

/-- A stay that is checked in and holds an active assignment of its room is
the active one of the room when no other stay has a newer one. -/
theorem activeStay_iff (hagree : Agree db) {S : String} {r : Int}
    (hstay : StayIs db S fun stay => stay.status = .checkedIn ∧ stay.roomId = some r)
    {a : AssignmentRow} (ha : a ∈ db.assignments) (hact : a.active = true) (haS : a.stayId = S)
    (har : a.roomId = r) :
    ActiveStay db S r ↔
      ∀ b ∈ db.assignments, b.active = true → b.roomId = r → b.stayId ≠ S → b.id < a.id := by
  obtain ⟨n, hn⟩ := Db.activeAssignmentForRoom_isSome ha har hact
  obtain ⟨⟨hmem, hnroom, hnact⟩, hmax⟩ := Db.activeAssignmentForRoom_eq_some hn
  obtain ⟨stay, hget, hst, hroom⟩ := hstay
  have hactive : ActiveStay db S r ↔ n.stayId = S := by
    constructor
    · rintro ⟨n', -, hn', hS, -⟩
      rw [hn] at hn'
      cases hn'
      exact hS
    · exact fun hS => ⟨n, stay, hn, hS, hget, hst, hroom⟩
  rw [hactive]
  constructor
  · intro hS b hb hbact hbroom hbS
    have hna : n = a := hagree.assignedOnce n hmem a ha hnact hact (hS.trans haS.symm)
    have hle := hmax b hb hbroom hbact
    rw [hna] at hle
    refine lt_of_le_of_ne hle fun hid => hbS ?_
    rw [Table.eq_of_key hb ha hid]
    exact haS
  · intro hnewest
    by_contra hS
    exact absurd (hmax a ha har hact) (not_le.mpr (hnewest n hmem hnact hnroom hS))

/-- **When a guest who is in the room is served:** in every state of the
service, a valid credential of a checked-in stay, for the room it holds,
answered by its device on a fresh challenge, is allowed exactly when no
other stay has a newer active assignment of the room. -/
theorem authorize_allows_iff (hE : E.ed.Correct) (hs : ApiHistory E propertyId sk h s) {e : ApiEntry}
    (he : e ∈ h) {S : String} {key : IssuedKey} (hout : HandsOut e S key) {f : Fields}
    (hf : Carries key.payload f) {r : Int} (hrooms : f.roomIds = [r])
    (hstay : StayIs s.db S fun stay => stay.status = .checkedIn ∧ stay.roomId = some r)
    {a : AssignmentRow} (ha : a ∈ s.db.assignments) (hact : a.active = true) (haS : a.stayId = S)
    (har : a.roomId = r) (hrev : key.keyId ∉ s.db.revocationList) {now : Int}
    (hfrom : f.validFrom ≤ now) (huntil : now ≤ f.validUntil) {command : String}
    (hcmd : command ∈ allowedDevices) {challenge response : Bytes}
    (hchallenge : s.connected.challenges.Acceptable challenge now)
    (hresponse : deviceSign E key.deviceSkB64 challenge = .ok response) :
    (s.connected.authorize E s.db r command key.token challenge response now).1
        = .ok (.unlock (py key.keyId)) ↔
      ∀ b ∈ s.db.assignments, b.active = true → b.roomId = r → b.stayId ≠ S → b.id < a.id := by
  have hsame := sameInstall_history hs
  -- the key was issued for the stay, which belongs to the property
  obtain ⟨later, earlier, rfl⟩ := List.append_of_mem he
  obtain ⟨hbefore, hans⟩ := hs.of_append
  obtain ⟨db₁, -, stay, room, hfor, hadd⟩ := handsOut_spec hans hout
  rw [(sameInstall_history hbefore).propertySk] at hfor
  have hext : Extends db₁ s.db := hs.since_after he (P := fun s => Extends db₁ s.db)
    (extends_addKey hadd) fun s' r' hext => hext.trans (extends_handle r' s')
  obtain ⟨stay', hget', hbook⟩ := hext.stays S stay hfor.getStay
  have hproperty : stay.propertyId = propertyId :=
    hbook.propertyId.symm.trans (staysOf_api hs stay' (Db.getStay_eq_some_iff.mp hget').1)
  -- so the fields of its payload pass the static checks
  have hfields := hf.unique hfor.carries
  have hstatic : firstFailing (staticChecks f s.connected.propertyId r now
      (s.db.revocationList.map py).toFinset) = none := by
    refine staticChecks_hold_iff.mpr ⟨?_, by rw [hrooms]; exact List.mem_cons_self, hfrom, huntil, ?_⟩
    · rw [hfields, hsame.connectedId]
      exact congrArg py hproperty
    · rw [List.mem_toFinset, List.mem_map]
      rintro ⟨id, hid, hpy⟩
      rw [hfields] at hpy
      rw [hfor.keyId] at hrev
      rw [py_inj.mp hpy] at hid
      exact hrev hid
  have hpub : s.connected.propertyPub = E.ed.publicKey sk := hsame.connectedPub
  rw [authorize_issue hE hfor.credential hpub hresponse, ← hfields,
    ← activeStay_iff (agree_api hs) hstay ha hact haS har]
  exact ⟨fun h => h.2.2.1, fun h => ⟨hcmd, hstatic, h, hchallenge⟩⟩

/-! ## A guest in the room, and a later reservation -/

/-- The check-in of the sample run. -/
abbrev sampleCheckin : ApiEntry :=
  .of (handle Env.sample) (.checkin "s_1", sampleDraw 1000 "" "k1") (runRequests sampleRequests).2

/-- The key of that check-in is for room 101 and the whole stay. -/
theorem sampleCheckin_key : ∃ key f response, HandsOut sampleCheckin "s_1" key ∧
    Carries key.payload f ∧ f.roomIds = [101] ∧ f.validFrom = 1000 ∧ f.validUntil = 2000 ∧
    key.keyId = "k1" ∧ deviceSign Env.sample key.deviceSkB64 [7] = .ok response := by
  obtain ⟨key, hout⟩ := handsOut_of_answeredKey? (E := Env.sample) (e := sampleCheckin) (S := "s_1")
    (by decide) (.inl rfl) rfl
  obtain ⟨db₁, hstate, stay, room, hfor, -⟩ := handsOut_spec (E := Env.sample) rfl hout
  cases hstate
  have hstay : ((runRequests sampleRequests).2.db.setStayStatus "s_1" .checkedIn).getStay "s_1"
      = some sampleStay := by decide
  obtain rfl : sampleStay = stay := Option.some.inj (hstay.symm.trans hfor.getStay)
  obtain rfl : 101 = room := Option.some.inj hfor.room
  exact ⟨key, _, _, hout, hfor.carries, rfl, rfl, rfl, hfor.keyId, deviceSign_issue hfor.credential [7]⟩

/-- The guest is in the room and asks for a command. -/
def inRoomRequests : List (Request × Draw) :=
  sampleRequests ++ [(.checkin "s_1", sampleDraw 1000 "" "k1"), (.roomChallenge 101, sampleDraw 1500 "" "")]

theorem authorize_allows_in_room : ∃ (key : IssuedKey) (response : Bytes),
    ((runRequests inRoomRequests).2.connected.authorize Env.sample (runRequests inRoomRequests).2.db 101
      "tv" key.token [7] response 1500).1 = .ok (.unlock (py key.keyId)) := by
  have hs := History.of_runAll (handle Env.sample) (AppState.new Env.sample "HILTON-DEMO-001" sampleKey)
    inRoomRequests
  obtain ⟨key, f, response, hout, hf, hrooms, hfrom, huntil, hid, hresponse⟩ := sampleCheckin_key
  refine ⟨key, response, (authorize_allows_iff Env.sample_correct hs (.tail _ (.head _)) hout hf hrooms
    ⟨sampleStay, by decide, rfl, rfl⟩ (a := ⟨1, 101, "s_1", 1000, 2000, true⟩)
    (Table.mem_rows.mp (by decide)) rfl rfl rfl (by rw [hid]; decide) (by rw [hfrom]; decide)
    (by rw [huntil]; decide) (by decide) ⟨rfl, 1500, by decide, by decide⟩ hresponse).mpr ?_⟩
  -- there is no other assignment
  intro b hb hact hroom hne
  obtain rfl := List.mem_singleton.mp (Table.mem_rows.mpr hb)
  exact absurd rfl hne

/-- A reservation of the same room, for when the first guest has left. -/
def nextReservation : ReservationIn where
  guestId := some "g_1"
  guest := none
  roomType := "king"
  checkIn := 2000
  checkOut := 3000
  preferredRoomId := none
  roomTypeLength := sampleReservation.roomTypeLength
  checkInPos := sampleReservation.checkOutPos
  checkOutPos := by decide
  window := by decide

/-- It is made while the guest is in the room. -/
def bookedAgainRequests : List (Request × Draw) :=
  sampleRequests ++
    [ (.checkin "s_1", sampleDraw 1000 "" "k1"),
      (.reserve nextReservation, sampleDraw 1400 "2" ""),
      (.roomChallenge 101, sampleDraw 1500 "" "") ]

/-- The guest in the room is refused from then on. -/
theorem later_reservation_locks_out :
    ¬ ∀ (h : List ApiEntry) (s : AppState) (e : ApiEntry) (S : String) (key : IssuedKey) (f : Fields)
      (r : Int) (a : AssignmentRow) (now : Int) (command : String) (challenge response : Bytes),
      ApiHistory Env.sample "HILTON-DEMO-001" sampleKey h s → e ∈ h → HandsOut e S key →
      Carries key.payload f → f.roomIds = [r] →
      (StayIs s.db S fun stay => stay.status = .checkedIn ∧ stay.roomId = some r) →
      a ∈ s.db.assignments → a.active = true → a.stayId = S → a.roomId = r →
      key.keyId ∉ s.db.revocationList → f.validFrom ≤ now → now ≤ f.validUntil →
      command ∈ allowedDevices → s.connected.challenges.Acceptable challenge now →
      deviceSign Env.sample key.deviceSkB64 challenge = .ok response →
      (s.connected.authorize Env.sample s.db r command key.token challenge response now).1
        = .ok (.unlock (py key.keyId)) := by
  intro hclaim
  have hs := History.of_runAll (handle Env.sample) (AppState.new Env.sample "HILTON-DEMO-001" sampleKey)
    bookedAgainRequests
  obtain ⟨key, f, response, hout, hf, hrooms, hfrom, huntil, hid, hresponse⟩ := sampleCheckin_key
  have hallowed := hclaim _ _ _ "s_1" key f 101 ⟨1, 101, "s_1", 1000, 2000, true⟩ 1500 "tv" [7] response
    hs (.tail _ (.tail _ (.head _))) hout hf hrooms ⟨sampleStay, by decide, rfl, rfl⟩
    (Table.mem_rows.mp (by decide)) rfl rfl rfl (by rw [hid]; decide) (by rw [hfrom]; decide)
    (by rw [huntil]; decide) (by decide) ⟨rfl, 1500, by decide, by decide⟩ hresponse
  -- the newest active assignment of the room is that of the next guest
  obtain ⟨db₁, -, stay, room, hfor, -⟩ := handsOut_spec (E := Env.sample) rfl hout
  obtain ⟨-, -, ⟨a, _, ha, hstay, -⟩, -⟩ :=
    (authorize_issue Env.sample_correct hfor.credential rfl hresponse 101 "tv" 1500).mp hallowed
  have hnewest : (runRequests bookedAgainRequests).2.db.activeAssignmentForRoom 101
      = some ⟨2, 101, "s_2", 2000, 3000, true⟩ := by decide
  rw [hnewest] at ha
  cases ha
  have hne : ("s_2" : String) ≠ "s_1" := by decide
  exact hne hstay

end StayKey.Service
