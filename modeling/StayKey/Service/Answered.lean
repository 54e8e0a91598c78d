/-
StayKey.Service.Answered — which presentations the verifiers answer.

The authorizer runs the checks of the lock and two more on the payload: the
stay id must be there and be text the database takes, and the room must be
one it can be asked for. `authorizeBound_isOk_iff` is the condition under
which `authorize` returns a decision, in every state of the tables that
statements can lead to; `presentation_answered_iff` puts it next to that of
the lock.
-/
import StayKey.Door.Answered
import StayKey.Service.ConnectedTheorems
import StayKey.Service.Driver

namespace StayKey.Service

open StayKey.Codec StayKey.Door StayKey.Store StayKey.Program

variable {E : Env} {db : Db} {payload : JsonDict}

/-! ## The active stay -/

/-- The stay the payload names is the active one of the room. -/
def IsForActiveStay (db : Db) (payload : JsonDict) (roomId : Int) : Prop :=
  ∃ S, dictGet? payload (py "stay_id") = some (.str (py S)) ∧ ActiveStay db S roomId

/-- A positive check is of a stay named by text. -/
theorem isActiveStay_true_iff (roomId : Int) :
    isActiveStay E db payload roomId = .ok true ↔ IsForActiveStay db payload roomId := by
  constructor
  · intro h
    cases hget : dictGet? payload (py "stay_id") with
    | none => simp only [isActiveStay, hget] at h; cases h
    | some j =>
      have hid : ∃ S, j = .str (py S) := by
        simp only [isActiveStay, hget, bind, Except.bind] at h
        split at h
        · cases h
        split at h
        case h_1 a stay _ _ =>
          by_cases hid : eqStr j (py a.stayId) = true
          · exact ⟨_, eqStr_iff.mp hid⟩
          · rw [if_pos (by simpa using hid)] at h
            cases h
        case h_2 => cases h
      obtain ⟨S, rfl⟩ := hid
      exact ⟨S, hget, (isActiveStay_eq_true_iff hget roomId).mp h⟩
  · rintro ⟨S, hget, hactive⟩
    exact (isActiveStay_eq_true_iff hget roomId).mpr hactive

/-! ## The authorizer -/

/-- What steps 2 to 4 of `authorize` need of a payload: the room can be asked
for, the payload names a stay, and if it is the active one the device key
can be verified under. -/
def StaySafe (E : Env) (c : ConnectedRoomAuthorizer) (db : Db) (roomId : Int) (challenge : Bytes)
    (now : Int) (payload : JsonDict) : Prop :=
  Bindable roomId ∧ NamesStay E payload ∧
    (IsForActiveStay db payload roomId → DeviceKeySafe c.challenges challenge now payload)

/-- Steps 2 to 4 of `authorize`, through the driver. -/
def presentForStay (E : Env) (c : ConnectedRoomAuthorizer) (db : Db) (roomId : Int)
    (challenge response : Bytes) (now : Int) (payload : JsonDict) : Except PyError Decision :=
  if Bindable roomId then
    match isActiveStay E db payload roomId with
    | .error e => .error e
    | .ok false => .ok (.deny .notActiveStay (payloadKeyId E payload))
    | .ok true => (presentChallenge E c.challenges (payloadKeyId E payload) (payloadDevicePub payload)
        challenge response now).1
  else .error .overflowError

theorem authorizeBound_fst {command : String} (hcmd : command ∈ allowedDevices)
    (c : ConnectedRoomAuthorizer) (db : Db) (roomId : Int) (token : PyStr) (challenge response : Bytes)
    (now : Int) :
    (c.authorizeBound E db roomId command token challenge response now).1 =
      afterStatic (evaluateStatic E token c.propertyPub c.propertyId roomId now
        (db.revocationList.map py).toFinset) (presentForStay E c db roomId challenge response now) := by
  unfold ConnectedRoomAuthorizer.authorizeBound ConnectedRoomAuthorizer.looksUp
    ConnectedRoomAuthorizer.authorize afterStatic presentForStay
  rw [if_neg (not_not_intro hcmd), decide_eq_true hcmd]
  cases evaluateStatic E token c.propertyPub c.propertyId roomId now
    (db.revocationList.map py).toFinset with
  | error e => rfl
  | ok result =>
    cases result with
    | deny d => rfl
    | pass payload =>
      by_cases hb : Bindable roomId
      · rw [decide_eq_true hb]
        simp only [hb, if_true, Bool.not_true, Bool.and_false, Bool.false_eq_true, if_false]
        cases isActiveStay E db payload roomId with
        | error e => rfl
        | ok b => cases b <;> rfl
      · rw [decide_eq_false hb]
        simp only [hb, if_false]
        rfl

theorem presentForStay_isOk_iff (hassigned : Assigned db) {c : ConnectedRoomAuthorizer} {roomId : Int}
    {challenge response : Bytes} {now : Int} (payload : JsonDict) :
    (∃ d, presentForStay E c db roomId challenge response now payload = .ok d) ↔
      StaySafe E c db roomId challenge now payload := by
  unfold presentForStay StaySafe
  by_cases hb : Bindable roomId
  swap
  · rw [if_neg hb]
    exact iff_of_false not_isOk_error fun h => hb h.1
  refine Iff.trans ?_ (and_iff_right hb).symm
  rw [if_pos hb, ← isActiveStay_isOk_iff hassigned roomId, ← isActiveStay_true_iff (E := E)]
  cases isActiveStay E db payload roomId with
  | error e => exact iff_of_false not_isOk_error fun ⟨⟨_, h⟩, _⟩ => by cases h
  | ok b =>
    refine Iff.trans ?_ (and_iff_right ⟨b, rfl⟩).symm
    cases b with
    | false => exact iff_of_true ⟨_, rfl⟩ nofun
    | true => exact presentChallenge_isOk_iff.trans ⟨fun h _ => h, fun h => h rfl⟩

/-- **When the authorizer answers.** -/
theorem authorizeBound_isOk_iff (hassigned : Assigned db) (c : ConnectedRoomAuthorizer) (roomId : Int)
    (command : String) (token : PyStr) (challenge response : Bytes) (now : Int) :
    (∃ d, (c.authorizeBound E db roomId command token challenge response now).1 = .ok d) ↔
      command ∉ allowedDevices ∨ ¬ NestedToken E token ∧ SignedPayload E c.propertyPub token
        (SafePayload E c.propertyId roomId now (db.revocationList.map py).toFinset
          (StaySafe E c db roomId challenge now)) := by
  by_cases hcmd : command ∈ allowedDevices
  · rw [authorizeBound_fst hcmd]
    refine (afterStatic_isOk_iff fun payload => ?_).trans (or_iff_right (not_not_intro hcmd)).symm
    exact presentForStay_isOk_iff hassigned payload
  · refine iff_of_true ⟨.deny .badCommand none, ?_⟩ (.inl hcmd)
    simp only [ConnectedRoomAuthorizer.authorizeBound, ConnectedRoomAuthorizer.looksUp,
      decide_eq_false hcmd, Bool.false_and, Bool.false_eq_true, if_false,
      ConnectedRoomAuthorizer.authorize, if_pos hcmd]

/-! ## Both verifiers -/

/-- **Which presentations are answered**: a lock in any state, and the
authorizer over any tables that statements lead to, return a decision
exactly on a token that does not nest too deeply and whose payload, if the
property signed it, is safe for the checks it is put to. -/
theorem presentation_answered_iff (hdb : Reached db) :
    (∀ (l : LockVerifier) (token : PyStr) (challenge response : Bytes) (now : Int),
      (∃ d, (l.finishUnlock E token challenge response now).1 = .ok d) ↔
        ¬ NestedToken E token ∧ SignedPayload E l.propertyPub token
          (SafePayload E l.propertyId l.roomId now l.revoked
            (DeviceKeySafe l.challenges challenge now))) ∧
    ∀ (c : ConnectedRoomAuthorizer) (roomId : Int) (command : String) (token : PyStr)
      (challenge response : Bytes) (now : Int),
      (∃ d, (c.authorizeBound E db roomId command token challenge response now).1 = .ok d) ↔
        command ∉ allowedDevices ∨ ¬ NestedToken E token ∧ SignedPayload E c.propertyPub token
          (SafePayload E c.propertyId roomId now (db.revocationList.map py).toFinset
            (StaySafe E c db roomId challenge now)) :=
  ⟨finishUnlock_isOk_iff, authorizeBound_isOk_iff (assigned_reached hdb)⟩

/-- The key of the sample check-in, presented in the middle of the stay with
a response that is none: the lock and the authorizer answer. -/
theorem presentation_answered_issued : ∃ key, answeredKey? sampleCheckin = some key ∧
    (∃ d, (sampleLock.finishUnlock Env.sample key.token [7] [] 1500).1 = .ok d) ∧
    ∃ d, ((runRequests inRoomRequests).2.connected.authorizeBound Env.sample (runRequests inRoomRequests).2.db
      101 "tv" key.token [7] [] 1500).1 = .ok d := by
  obtain ⟨key, f, _, hout, -⟩ := sampleCheckin_key
  have hkey : answeredKey? sampleCheckin = some key := by
    obtain ⟨-, hans⟩ | ⟨_, _, _, hreq, -⟩ := hout
    · rw [answeredKey?, hans]
    · cases hreq
  obtain ⟨db₁, -, stay, room, hfor, -⟩ := handsOut_spec (E := Env.sample) rfl hout
  have hnested := not_nested_issue hfor.credential
  have hs := History.of_runAll (handle Env.sample) (AppState.new Env.sample "HILTON-DEMO-001" sampleKey)
    inRoomRequests
  obtain ⟨hlock, hroom⟩ := presentation_answered_iff (E := Env.sample) (reached_api hs)
  refine ⟨key, hkey, (hlock _ _ _ _ _).mpr ⟨hnested, fun p hp _ _ => ?_⟩,
    (hroom _ _ _ _ _ _ _).mpr (.inr ⟨hnested, fun p hp _ _ => ?_⟩)⟩
  · have hp := carries_of_parsed hfor.credential hp
    exact ⟨windowSafe_of_carries hp _, fun _ => deviceKeySafe_of_carries hp _ _ _⟩
  · have hp := carries_of_parsed hfor.credential hp
    refine ⟨windowSafe_of_carries hp _, fun _ => ⟨by decide, ⟨_, hp.stayId, ?_⟩, fun _ => ?_⟩⟩
    · exact fun c hc => isScalar_of_mem_py hc
    · exact deviceKeySafe_of_carries hp _ _ _

/-- A payload with the fields a lock requires, the start of its window null. -/
def nullWindow : JsonDict :=
  [ (py "key_id", .str (py "k1")),
    (py "property_id", .str (py "HILTON-DEMO-001")),
    (py "room_ids", .arr [.int 101]),
    (py "valid_from", .null),
    (py "valid_until", .int 2000),
    (py "device_pub", .str []) ]

/-- The token of a payload, signed with the property's key. -/
def signedToken (E : Env) (sk : PrivateKey) (payload : JsonDict) : PyStr :=
  match canonicalBytes E payload with
  | .ok bytes => b64uEncode bytes ++ 46 :: b64uEncode (E.ed.sign sk bytes)
  | .error _ => []

/-- A token that the property signed, over the empty database: the lock and
the authorizer raise `TypeError`. -/
theorem presentation_raises_on_null :
    (sampleLock.finishUnlock Env.sample (signedToken Env.sample sampleKey nullWindow) [] [] 1500).1
        = .error .typeError ∧
      ((ConnectedRoomAuthorizer.new "HILTON-DEMO-001" (Env.sample.ed.publicKey sampleKey)).authorizeBound
        Env.sample .empty 101 "tv" (signedToken Env.sample sampleKey nullWindow) [] [] 1500).1
        = .error .typeError := by
  decide +kernel

end StayKey.Service
