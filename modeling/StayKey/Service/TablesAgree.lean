/-
StayKey.Service.TablesAgree — the booking and key tables agree in every
state of the service.

The invariants of `Store.Agreement` and `Store.Status` are invariants of
the service (`agree_invariant`, `closed_invariant`). They are what the
connected-room authorizer relies on: the stay of an active assignment has
a room, so the check of the active stay never meets a NULL
(`isActiveStay_isOk`), and a credential that was really issued gets a
decision, whatever is presented with it.
-/
import StayKey.Service.ApiTheorems
import StayKey.Store.Booking

namespace StayKey.Service

open StayKey.Codec StayKey.Door StayKey.Store StayKey.Program

variable {E : Env} {sk : PrivateKey} {propertyId : String} {h : List ApiEntry} {s : AppState} {db : Db}

/-- Every check-in is allowed. -/
def AnyCheckin : Db → String → Prop := fun _ _ => True

theorem requestOk_any (r : Request × Draw) : RequestOk AnyCheckin s r := fun _ _ => trivial

theorem agree_invariant : StoreInvariant E sk propertyId AnyCheckin Agree where
  empty := agree_empty
  addGuest := agree_addGuest
  addRoom := agree_addRoom
  addStay h _ := agree_addStay h
  assignRoom h _ := agree_assignRoom h _ _
  checkin h _ := agree_checkin h
  refreshKey h := agree_refreshKey h
  changeRoom h := agree_changeRoom h _
  checkout h := agree_checkout h

theorem closed_invariant :
    StoreInvariant E sk propertyId AnyCheckin fun db => ∀ S, ClosedAt db S where
  empty S := closedAt_of_missing rfl
  addGuest h ha S := by
    obtain ⟨guests, rfl⟩ := Db.addGuest_ok ha
    exact h S
  addRoom h ha S := by
    obtain ⟨rooms, rfl, -⟩ := Db.addRoom_ok ha
    exact h S
  addStay h _ ha S := (closedAt_addStay (h S) ha).1
  assignRoom h hst S := closedAt_assignRoom (h S) hst nofun _
  checkin h _ S := closedAt_checkin (h S)
  refreshKey h S := closedAt_refreshKey (h S)
  changeRoom h S := closedAt_changeRoom (h S) _
  checkout h S := closedAt_checkout (h S)

theorem agree_api (hs : ApiHistory E propertyId sk h s) : Agree s.db :=
  (agree_invariant.holds hs fun e _ => requestOk_any e.request).1

theorem closed_api (hs : ApiHistory E propertyId sk h s) (S : String) : ClosedAt s.db S :=
  (closed_invariant.holds hs fun e _ => requestOk_any e.request).1 S

/-- Every state of the service has tables that statements lead to. -/
theorem reached_api (hs : ApiHistory E propertyId sk h s) : Reached s.db :=
  hs.invariant (I := fun s => Reached s.db) .empty
    (fun s r hdb (_ : True) => by rw [handle_db]; exact hdb.run _) fun _ _ => trivial

/-! ## The authorizer on issued credentials -/

/-- A stay is found by its id as by the text of its id. -/
theorem getStayByText_py (stayId : String) : getStayByText db (py stayId) = .ok (db.getStay stayId) := by
  have hall : ((py stayId).all fun c => decide (IsScalar c)) = true := by
    rw [List.all_eq_true]
    exact fun c hc => decide_eq_true (isScalar_of_mem_py hc)
  rw [getStayByText, if_pos hall, Db.getStay, Table.find?]
  simp only [py_inj]

/-- The payload names a stay, by what the driver encodes as text. -/
def NamesStay (E : Env) (payload : JsonDict) : Prop :=
  ∃ j, dictGet? payload (py "stay_id") = some j ∧ ∀ c ∈ pyStr E.py j, IsScalar c

theorem getStayByText_isOk_iff {stayId : PyStr} :
    (∃ stay, getStayByText db stayId = .ok stay) ↔ ∀ c ∈ stayId, IsScalar c := by
  have hall : (stayId.all fun c => decide (IsScalar c)) = true ↔ ∀ c ∈ stayId, IsScalar c := by
    simp [List.all_eq_true]
  rw [← hall, getStayByText]
  split
  · rename_i h
    exact iff_of_true ⟨_, rfl⟩ h
  · rename_i h
    exact iff_of_false not_isOk_error h

theorem eqStr_iff {j : Json} {t : PyStr} : eqStr j t = true ↔ j = .str t := by
  cases j <;> simp [eqStr]

/-- The check of the active stay asks for the stay of a payload that names
one; that the stay found has a room is the tables' doing. -/
theorem isActiveStay_isOk_iff (hassigned : Assigned db) {payload : JsonDict} (roomId : Int) :
    (∃ b, isActiveStay E db payload roomId = .ok b) ↔ NamesStay E payload := by
  cases hget : dictGet? payload (py "stay_id") with
  | none =>
    simp only [isActiveStay, NamesStay, hget]
    refine iff_of_false not_isOk_error ?_
    rintro ⟨s, h, -⟩
    cases h
  | some j =>
    have hnames : NamesStay E payload ↔ ∃ stay, getStayByText db (pyStr E.py j) = .ok stay := by
      rw [getStayByText_isOk_iff, NamesStay, hget]
      simp
    rw [hnames]
    simp only [isActiveStay, hget, bind, Except.bind]
    cases hs : getStayByText db (pyStr E.py j) with
    | error e => exact iff_of_false not_isOk_error not_isOk_error
    | ok stay =>
      refine iff_of_true ?_ ⟨stay, rfl⟩
      cases ha : db.activeAssignmentForRoom roomId with
      | none => exact ⟨_, rfl⟩
      | some a =>
        cases stay with
        | none => exact ⟨_, rfl⟩
        | some stay =>
          simp only
          by_cases hid : eqStr j (py a.stayId) = true
          swap
          · exact ⟨false, if_pos (by simpa using hid)⟩
          rw [if_neg (by simpa using hid)]
          split
          · exact ⟨_, rfl⟩
          · -- the stay is that of the assignment, so it has a room
            obtain rfl := eqStr_iff.mp hid
            rw [pyStr, getStayByText_py, Except.ok.injEq] at hs
            obtain ⟨⟨hmem, -, -⟩, -⟩ := Db.activeAssignmentForRoom_eq_some ha
            obtain ⟨s, hs', hne⟩ := hassigned a hmem
            obtain rfl := Option.some.inj (hs.symm.trans hs')
            obtain ⟨room, hroom⟩ := Option.ne_none_iff_exists'.mp hne
            rw [hroom]
            exact ⟨_, rfl⟩

/-- **The active stay is checked without an exception**, if the tables agree
and the payload names a stay by a string. -/
theorem isActiveStay_isOk (hagree : Agree db) {payload : JsonDict} {stayId : String}
    (hp : dictGet? payload (py "stay_id") = some (.str (py stayId))) (roomId : Int) :
    ∃ b, isActiveStay E db payload roomId = .ok b := by
  have hassigned : Assigned db := fun a ha => (hagree.assigned a ha).mono fun s hs h => ⟨s, hs, h.1⟩
  exact (isActiveStay_isOk_iff hassigned roomId).mpr ⟨_, hp, fun _ hc => isScalar_of_mem_py hc⟩

/-- **An issued credential is always decided** by the authorizer. -/
theorem authorize_isOk (hagree : Agree db) {a : CredentialIn} {fresh : Fresh} {ik : IssuedKey}
    (hissue : issueCredential E sk a fresh = .ok ik) (c : ConnectedRoomAuthorizer) (roomId : Int)
    (command : String) (challenge response : Bytes) (now : Int) :
    ∃ d, (c.authorize E db roomId command ik.token challenge response now).1 = .ok d := by
  unfold ConnectedRoomAuthorizer.authorize
  split
  · exact ⟨_, rfl⟩
  obtain ⟨bytes, -, heval⟩ := evaluateStatic_issue hissue c.propertyPub c.propertyId roomId now
    (db.revocationList.map py).toFinset
  rw [heval]
  by_cases hv : E.ed.verify c.propertyPub (E.ed.sign sk bytes) bytes = true
  swap
  · rw [if_neg hv]
    exact ⟨_, rfl⟩
  rw [if_pos hv]
  cases firstFailing (staticChecks (a.fields E fresh) c.propertyId roomId now
    (db.revocationList.map py).toFinset) with
  | some reason => exact ⟨_, rfl⟩
  | none =>
    have hcarries := carries_payload (E := E) a fresh
    obtain ⟨b, hb⟩ := isActiveStay_isOk (E := E) hagree hcarries.stayId roomId
    simp only [StaticResult.ofReason, hb]
    cases b with
    | false => exact ⟨_, rfl⟩
    | true =>
      simp only [payloadDevicePub, hcarries.devicePub, Option.getD_some]
      unfold presentChallenge
      cases c.challenges.check challenge now with
      | replayed => exact ⟨_, rfl⟩
      | unknown => exact ⟨_, rfl⟩
      | ok =>
        simp only [verifyDeviceResponse_str]
        cases possession E (a.fields E fresh).devicePub challenge response <;> exact ⟨_, rfl⟩

/-! ## Every state of the service -/

/-- **The booking and key tables agree** in every state of the service. -/
theorem tables_agree (hs : ApiHistory E propertyId sk h s) :
    (∀ a ∈ s.db.assignments, ∀ b ∈ s.db.assignments, a.active = true → b.active = true →
      a.stayId = b.stayId → a = b) ∧
    (∀ a ∈ s.db.assignments, a.active = true → StayIs s.db a.stayId fun stay =>
      stay.roomId = some a.roomId ∧ stay.checkIn = a.checkIn ∧ stay.checkOut = a.checkOut ∧
        ∃ room ∈ s.db.rooms, room.roomId = a.roomId ∧ room.propertyId = stay.propertyId) ∧
    (∀ S, StatusIs s.db S .checkedOut →
      (∀ a ∈ s.db.assignments, a.active = true → a.stayId ≠ S) ∧
        ∀ k ∈ s.db.keys, k.active = true → k.stayId ≠ S) ∧
    (∀ k ∈ s.db.keys, k.active = true →
      (StayIs s.db k.stayId fun stay => stay.roomId = some k.roomId) ∧
        k.keyId ∉ s.db.revocationList) ∧
    ∀ e ∈ h, ∀ S key, HandsOut e S key → ∀ roomId command challenge response now,
      ∃ d, (s.connected.authorize E s.db roomId command key.token challenge response now).1 = .ok d := by
  have hagree := agree_api hs
  refine ⟨hagree.assignedOnce, ?_, closed_api hs,
    fun k hk hact => ⟨hagree.keyRoom k hk hact, hagree.keyUnrevoked k hk hact⟩, ?_⟩
  · intro a ha hact
    obtain ⟨stay, hget, -, hin, hout⟩ := hagree.assigned a ha
    obtain ⟨stay', hget', hroom⟩ := hagree.assignedRoom a ha hact
    rw [hget] at hget'
    cases hget'
    exact ⟨stay, hget, hroom, hin, hout, hagree.property _ _ _ hget hroom⟩
  · intro e he S key hout roomId command challenge response now
    obtain ⟨-, -, hans⟩ := hs.of_mem he
    obtain ⟨db₁, -, stay, room, hfor, -⟩ := handsOut_spec hans hout
    exact authorize_isOk hagree hfor.credential s.connected roomId command challenge response now

/-- The guest of the sample run is checked in: the key is active, and its
token gets a decision. -/
theorem tables_agree_sample :
    ∃ (key : IssuedKey) (d : Decision),
      (runRequests (sampleRequests ++ [(.checkin "s_1", sampleDraw 1000 "" "k1")])).2.db.activeKeys "s_1"
        = ["k1"] ∧
      ((runRequests (sampleRequests ++ [(.checkin "s_1", sampleDraw 1000 "" "k1")])).2.connected.authorize
        Env.sample
        (runRequests (sampleRequests ++ [(.checkin "s_1", sampleDraw 1000 "" "k1")])).2.db 101 "tv"
        key.token [7] [] 1500).1 = .ok d := by
  have hs := History.of_runAll (handle Env.sample) (AppState.new Env.sample "HILTON-DEMO-001" sampleKey)
    (sampleRequests ++ [(.checkin "s_1", sampleDraw 1000 "" "k1")])
  obtain ⟨key, hout⟩ := handsOut_of_answeredKey? (E := Env.sample)
    (e := Entry.of (handle Env.sample) (.checkin "s_1", sampleDraw 1000 "" "k1")
      (runRequests sampleRequests).2) (by decide) (.inl rfl) rfl
  obtain ⟨-, -, -, -, hdecided⟩ := tables_agree hs
  obtain ⟨d, hd⟩ := hdecided _ List.mem_cons_self "s_1" key hout 101 "tv" [7] [] 1500
  exact ⟨key, d, by decide, hd⟩

end StayKey.Service
