/-
StayKey.Service.Hindsight — what the authorizer approves, in hindsight.

The authorizer is online: it reads the revocation list, the newest active
assignment of the room and the stay by three statements, and the statements
of other requests are run in between. So there need not be one moment at
which the three say what it takes. But each of them did say so at a moment
at which the request had its turn (`control_in_hindsight`), and then the
room was the stay's alone for a time that includes that of the command.

The list is read by the request itself. So what is revoked before a request
begins is never approved by it (`revoked_before_denied`); at a lock it can
be, when an older list is delivered last (`Service.Snapshots`).
-/
import StayKey.Program.Sees
import StayKey.Service.AfterCrash

namespace StayKey.Service

open StayKey.Codec StayKey.Door StayKey.Store StayKey.Program

variable {E : Env} {sk : PrivateKey} {propertyId : String} {roomId now : Int} {token : PyStr}
  {seen : List AppState}

/-! ## What an approval has seen -/

/-- By the list of `s` the static checks let the token pass. -/
def PassesBy (E : Env) (token : PyStr) (roomId now : Int) (s : AppState) (payload : JsonDict) : Prop :=
  ∃ pub property, evaluateStatic E token pub property roomId now (s.db.revocationList.map py).toFinset
    = .ok (.pass payload)

/-- The newest active assignment of the room is of the stay. -/
def NewestFor (db : Db) (roomId : Int) (S : String) : Prop :=
  ∃ a, db.activeAssignmentForRoom roomId = some a ∧ a.stayId = S

/-- The stay is checked in, and has the room. -/
def StaysIn (db : Db) (roomId : Int) (S : String) : Prop :=
  StayIs db S fun stay => stay.status = .checkedIn ∧ stay.roomId = some roomId

/-- What an approval rests on was so when it was read. -/
structure SeenSo (E : Env) (token : PyStr) (roomId now : Int) (payload : JsonDict) (S : String)
    (s₁ s₂ s₃ : AppState) : Prop where
  passes : PassesBy E token roomId now s₁ payload
  stayId : dictGet? payload (py "stay_id") = some (.str (py S))
  newest : NewestFor s₂.db roomId S
  stays : StaysIn s₃.db roomId S

/-- The three were seen, one after the other. -/
def SawAll (E : Env) (token : PyStr) (roomId now : Int) (seen : List AppState) : Prop :=
  ∃ payload S s₁ s₂ s₃, [s₃, s₂, s₁].Sublist seen ∧ SeenSo E token roomId now payload S s₁ s₂ s₃

theorem SawAll.still (s : AppState) (seen : List AppState) (h : SawAll E token roomId now seen) :
    SawAll E token roomId now (s :: seen) := by
  obtain ⟨payload, S, s₁, s₂, s₃, hsub, hseen⟩ := h
  exact ⟨payload, S, s₁, s₂, s₃, hsub.cons s, hseen⟩

theorem isActiveStayCall_sees (payload : JsonDict) :
    (isActiveStayCall E payload roomId).Sees (execApi E) (fun active seen' => active = true →
      ∃ S s₂ s₃, seen' = s₃ :: s₂ :: seen ∧ dictGet? payload (py "stay_id") = some (.str (py S)) ∧
        NewestFor s₂.db roomId S ∧ StaysIn s₃.db roomId S) seen := by
  intro s₂ assignment t he
  obtain rfl : s₂.db.activeAssignmentForRoom roomId = assignment := Except.ok.inj (Prod.mk.inj he).1
  cases dictGet? payload (py "stay_id") with
  | none => trivial
  | some stayId =>
    intro s₃ found t he
    have hfound := escape_ok (Prod.mk.inj he).1
    cases hnewest : s₂.db.activeAssignmentForRoom roomId with
    | none => exact fun h => by cases h
    | some a =>
      cases found with
      | none => exact fun h => by cases h
      | some stay =>
        simp only [Prog.bind]
        split
        · exact fun h => by cases h
        rename_i hown
        split
        · exact fun h => by cases h
        rename_i hstatus
        cases hroom : stay.roomId with
        | none => trivial
        | some room =>
          intro h
          obtain rfl : room = roomId := of_decide_eq_true h
          obtain rfl : stayId = .str (py a.stayId) := eqStr_iff.mp (by simpa using hown)
          rw [pyStr, getStayByText_py] at hfound
          have hget := Except.ok.inj hfound
          exact ⟨a.stayId, s₂, s₃, rfl, rfl, ⟨a, hnewest, rfl⟩, stay, hget, not_not.mp hstatus, hroom⟩

/-- An approval saw all of it. -/
theorem authorizeCall_sees (command : String) (challenge response : Bytes) :
    (authorizeCall E roomId command token challenge response now).Sees (execApi E)
      (fun d seen => d.unlocked = true → SawAll E token roomId now seen) [] := by
  unfold authorizeCall
  split
  · exact fun h => by cases h
  intro s₁ revoked t he
  obtain rfl : s₁.db.revocationList = revoked := Except.ok.inj (Prod.mk.inj he).1
  intro s₀ result t he
  have hstatic := escape_ok (Prod.mk.inj he).1
  cases result with
  | deny d =>
    obtain ⟨_, _, hdeny⟩ | ⟨_, -, -, -, hpass⟩ := evaluateStatic_ok hstatic
    · cases hdeny
      exact fun h => by cases h
    · cases hpass
  | pass payload =>
    refine (isActiveStayCall_sees payload).bind fun active seen hactive => ?_
    cases active with
    | false => exact fun h => by cases h
    | true =>
      obtain ⟨S, s₂, s₃, rfl, hid, hnewest, hstays⟩ := hactive rfl
      have hsaw : SawAll E token roomId now [s₃, s₂, s₀, s₁] :=
        ⟨payload, S, s₁, s₂, s₃, by simp, ⟨_, _, hstatic⟩, hid, hnewest, hstays⟩
      exact (Prog.sees_still SawAll.still _ hsaw).imp fun _ _ hsaw _ => hsaw

theorem roomControlCall_sees (body : ControlIn) (clock : Int) :
    (roomControlCall E roomId body clock).Sees (execApi E) (fun a seen => positive (.ok a) = true →
      SawAll E body.token roomId (nowOr body.now clock) seen) [] := by
  unfold roomControlCall
  rcases presented body.challengeB64 body.responseB64 with e | ⟨challenge, response⟩
  · trivial
  · exact (authorizeCall_sees body.command challenge response).bind fun d seen hsaw => hsaw

section Runs

variable {ι : Type} [DecidableEq ι] {req : ι → Request × Draw} {h : List (ServingTurn ι)} {s t : Serving ι}
  {i : ι} {body : ControlIn}

/-- A request that was approved after `t` saw what it takes after `t`. -/
theorem Granted.sawAll (hunserved : t.prog i = requestProgram E propertyId sk (req i))
    (hreq : (req i).1 = .roomControl roomId body) (hs : Schedule (execApi E) t h s) (hgranted : Granted s i) :
    SawAll E body.token roomId (nowOr body.now (req i).2.clock) (momentsOf i h) := by
  obtain ⟨o, ho, hpositive⟩ := hgranted
  have hstart : (t.prog i).Sees (execApi E) (fun a seen => positive (.ok a) = true →
      SawAll E body.token roomId (nowOr body.now (req i).2.clock) seen) [] := by
    rw [hunserved, requestProgram, hreq]
    exact roomControlCall_sees body (req i).2.clock
  obtain ⟨seen, hsub, hsees⟩ := Schedule.sees hs hstart
  cases o with
  | error e => cases hpositive
  | ok a =>
    rw [Prog.outcome?_ok ho] at hsees
    obtain ⟨payload, S, s₁, s₂, s₃, hseen, hso⟩ := hsees hpositive
    exact ⟨payload, S, s₁, s₂, s₃, hseen.trans hsub, hso⟩

/-! ## Revoked keys -/

/-- **What is revoked before a request begins is never approved**, whatever
else is served, in whatever order the statements are run. -/
theorem revoked_before_denied (hunserved : t.prog i = requestProgram E propertyId sk (req i))
    (hreq : (req i).1 = .roomControl roomId body) (hs : Schedule (execApi E) t h s) {keyId : String}
    (hrevoked : keyId ∈ t.shared.db.revocationList) (hkey : CarriesKey E body.token keyId) :
    ¬ Granted s i := by
  intro hgranted
  obtain ⟨payload, S, s₁, s₂, s₃, hsub, hso⟩ := hgranted.sawAll hunserved hreq hs
  have hfirst : s₁ ∈ momentsOf i h := hsub.subset (by simp)
  obtain ⟨h', t', hbefore, rfl, -⟩ := Schedule.of_moment hs hfirst
  have hlisted := (extends_since hbefore hbefore.visits_start).revocations keyId hrevoked
  obtain ⟨pub, property, hpass⟩ := hso.passes
  exact not_carriesKey_of_pass hpass (fun _ hk => mem_texts List.prefix_rfl hk) hlisted hkey

theorem sampleCommand_length : 1 ≤ "tv".length ∧ "tv".length ≤ 40 :=
  ⟨Nat.le_of_ble_eq_true rfl, Nat.le_of_ble_eq_true rfl⟩

/-- The key of the check-in, presented at the devices of the room. -/
def sampleControl : ControlIn where
  now := none
  token := sampleUnlock.token
  challengeB64 := sampleUnlock.challengeB64
  responseB64 := sampleUnlock.responseB64
  command := "tv"
  commandLength := sampleCommand_length

/-- A guest checks in, and gives two commands around the checkout. -/
def controlRequests : Fin 7 → Request × Draw
  | 3 => (.roomChallenge 101, sampleDraw 1500 "" "")
  | 4 => (.roomControl 101 sampleControl, sampleDraw 1500 "" "")
  | 6 => (.roomControl 101 sampleControl, sampleDraw 1500 "" "")
  | i => guestRequests i

/-- The turns of a run of these requests. -/
abbrev serveControl (turns : List (Fin 7)) : List (ServingTurn (Fin 7)) × Serving (Fin 7) :=
  runAll (fun i s => ((), s.turn (execApi Env.sample) i))
    (Serving.start Env.sample "HILTON-DEMO-001" sampleKey controlRequests) turns

/-- The first command reads the list, and then the checkout revokes the key. -/
abbrev turnsUntilRevoked : List (Fin 7) := [0, 1, 1, 1, 1, 2, 2, 2, 2, 3, 4, 4, 5, 5, 5, 5, 5]

/-- The second command is not approved, although the checkout is still being
served. -/
theorem revoked_before_denied_checkout :
    ¬ Granted (runAll (fun i s => ((), s.turn (execApi Env.sample) i)) (serveControl turnsUntilRevoked).2
      [6, 6, 6, 6, 6, 6]).2 6 := by
  have hs : Schedule (execApi Env.sample) (serveControl turnsUntilRevoked).2 _
      (runAll (fun i s => ((), s.turn (execApi Env.sample) i)) (serveControl turnsUntilRevoked).2
        [6, 6, 6, 6, 6, 6]).2 := History.of_runAll _ _ _
  have hunserved : (serveControl turnsUntilRevoked).2.prog 6
      = requestProgram Env.sample "HILTON-DEMO-001" sampleKey (controlRequests 6) := rfl
  have hrevoked : (serveControl turnsUntilRevoked).2.shared.db.revocationList = ["k1"] := by decide +kernel
  exact revoked_before_denied hunserved rfl hs (hrevoked ▸ List.mem_singleton_self _)
    sampleUnlock_carriesKey

/-! ## Keys of the table -/

/-- A credential that passes has its own payload, and no check fails. -/
theorem passes_issue {a : CredentialIn} {fresh : Fresh} {key : IssuedKey} {pub : PublicKey}
    {property : String} {revoked : Finset PyStr} {payload : JsonDict}
    (hissue : issueCredential E sk a fresh = .ok key)
    (hpass : evaluateStatic E key.token pub property roomId now revoked = .ok (.pass payload)) :
    payload = sortByKey (a.payload E fresh) ∧
      firstFailing (staticChecks (a.fields E fresh) property roomId now revoked) = none := by
  refine ⟨?_, passesStatic_issue hissue ⟨payload, hpass⟩⟩
  obtain ⟨_, _, hdeny⟩ | ⟨p, hparse, -, -, hpayload⟩ := evaluateStatic_ok hpass
  · cases hdeny
  · obtain ⟨bytes, -, hissued⟩ := parseToken_issue hissue
    obtain rfl := Option.some.inj (Except.ok.inj (hparse.symm.trans hissued))
    cases hpayload
    rfl

/-- What the approval of a key of the table saw. -/
theorem SeenSo.key {db : Db} {k : KeyRow} {read stay : StayRow} {fresh : Fresh} {key : IssuedKey}
    (hholds : Holds E sk db k read stay fresh key) {payload : JsonDict} {S : String} {s₁ s₂ s₃ : AppState}
    (h : SeenSo E k.token roomId now payload S s₁ s₂ s₃) :
    S = k.stayId ∧ k.roomId = roomId ∧ k.validFrom ≤ now ∧ now ≤ k.validUntil ∧
      k.keyId ∉ s₁.db.revocationList := by
  obtain ⟨⟨pub, property, hpass⟩, hid, -, -⟩ := h
  rw [hholds.token] at hpass
  obtain ⟨rfl, hchecks⟩ := passes_issue hholds.credential hpass
  obtain ⟨-, hroom, hfrom, huntil, hnot⟩ := staticChecks_hold_iff.mp hchecks
  rw [(carries_payload _ fresh).stayId] at hid
  have hS : S = k.stayId := (py_injective (Json.str.inj (Option.some.inj hid))).symm
  have hkeyId : ((stayCredential read k.stayId k.roomId k.issuedAt fresh).fields E fresh).keyId
      = py k.keyId := by
    obtain ⟨-, bytes, -, hissued⟩ := issueCredential_ok hholds.credential
    rw [hholds.keyId, hissued]
    rfl
  refine ⟨hS, (List.mem_singleton.mp hroom).symm, ?_, ?_, fun hlisted => hnot ?_⟩
  · rw [hholds.validFrom]
    exact hfrom
  · rw [hholds.validUntil]
    exact huntil
  · rw [hkeyId]
    exact mem_texts List.prefix_rfl hlisted

/-- The newest assignment of the room is of the stay, for a window with this
time, and no other assignment of the room meets this window. -/
def RoomIsOf (db : Db) (S : String) (roomId now : Int) : Prop :=
  ∃ a, db.activeAssignmentForRoom roomId = some a ∧ a.stayId = S ∧ a.checkIn ≤ now ∧ now ≤ a.checkOut ∧
    ∀ b ∈ db.assignments, b ≠ a → b.active = true → b.roomId = roomId →
      ¬ Overlap a.checkIn a.checkOut b.checkIn b.checkOut

/-- **Approvals in hindsight.** Say that the authorizer approves a command with
the token of a key, whatever else is served, in whatever order the
statements are run. Then the key is for this room and this time, and among
the turns of the request there was one at which the key was not revoked, a
later one at which the room was that of the key's stay, alone, for a window
with this time, and a later one at which the stay was checked in and had
this room. -/
theorem control_in_hindsight (hrun : ServingRun E propertyId sk req h s)
    (hreq : (req i).1 = .roomControl roomId body) (hgranted : Granted s i) {k : KeyRow}
    (hk : k ∈ s.shared.db.keys) (htoken : body.token = k.token)
    (hnow : nowOr body.now (req i).2.clock = now) :
    (k.roomId = roomId ∧ k.validFrom ≤ now ∧ now ≤ k.validUntil) ∧
    ∃ s₁ s₂ s₃, [s₃, s₂, s₁].Sublist (momentsOf i h) ∧ k.keyId ∉ s₁.db.revocationList ∧
      RoomIsOf s₂.db k.stayId roomId now ∧ StaysIn s₃.db roomId k.stayId := by
  obtain ⟨read, stay, fresh, key, hholds⟩ := (genuine_run hrun).1 k hk
  obtain ⟨payload, S, s₁, s₂, s₃, hsub, hso⟩ := hgranted.sawAll rfl hreq hrun
  rw [htoken, hnow] at hso
  obtain ⟨rfl, hroom, hfrom, huntil, hnot⟩ := hso.key hholds
  refine ⟨⟨hroom, hfrom, huntil⟩, s₁, s₂, s₃, hsub, hnot, ?_, hso.stays⟩
  have hsecond : s₂ ∈ momentsOf i h := hsub.subset (by simp)
  obtain ⟨h', t', hbefore, rfl, hvisited⟩ := Schedule.of_moment hrun hsecond
  obtain ⟨a, hnewest, hstay⟩ := hso.newest
  obtain ⟨⟨ha, hroom', hact⟩, -⟩ := Db.activeAssignmentForRoom_eq_some hnewest
  -- the window of the assignment is that of the stay, which the key was issued in
  obtain ⟨stay', hget', -, hin, hout⟩ := (integrity_run hbefore).assignment a ha
  rw [hstay] at hget'
  obtain ⟨hin', hout'⟩ := window_of_extends (extends_since hrun hvisited) hget' hholds.getStay
  rw [hholds.validFrom] at hfrom
  rw [hholds.validUntil] at huntil
  have hfrom : read.checkIn ≤ now := hfrom
  have huntil : now ≤ min read.checkOut (k.issuedAt + keyTtlSeconds) := huntil
  refine ⟨a, hnewest, hstay, ?_, ?_, fun b hb hne hbact hbroom => ?_⟩
  · have hbooked := hholds.booking.checkIn
    omega
  · have hbooked := hholds.booking.checkOut
    omega
  · exact noDoubleBooking_run hbefore a ha b hb (Ne.symm hne) hact hbact (hroom'.trans hbroom.symm)

end Runs

/-- The first command is approved, and the key was revoked meanwhile. -/
theorem control_in_hindsight_checkout :
    (∃ s₁ s₂ s₃, [s₃, s₂, s₁].Sublist (momentsOf 4 (serveControl (turnsUntilRevoked ++ [4, 4, 4, 4])).1) ∧
      "k1" ∉ s₁.db.revocationList ∧ RoomIsOf s₂.db "s_1" 101 1500 ∧ StaysIn s₃.db 101 "s_1") ∧
    (serveControl (turnsUntilRevoked ++ [4, 4, 4, 4])).2.shared.db.revocationList = ["k1"] := by
  have hrun : ServingRun Env.sample "HILTON-DEMO-001" sampleKey controlRequests _
      (serveControl (turnsUntilRevoked ++ [4, 4, 4, 4])).2 := History.of_runAll _ _ _
  have hgranted : Granted (serveControl (turnsUntilRevoked ++ [4, 4, 4, 4])).2 4 := by
    have hopens : ((serveControl (turnsUntilRevoked ++ [4, 4, 4, 4])).2.prog 4).outcome?.any positive
        = true := by decide +kernel
    exact (Option.any_eq_true _ _).mp hopens
  have hkeys : (serveControl (turnsUntilRevoked ++ [4, 4, 4, 4])).2.shared.db.keys.rows.any (fun k =>
      k.keyId = "k1" && k.stayId = "s_1" && decide (sampleControl.token = k.token)) = true := by
    decide +kernel
  obtain ⟨k, hk, hcols⟩ := List.any_eq_true.mp hkeys
  simp only [Bool.and_eq_true, decide_eq_true_eq] at hcols
  obtain ⟨⟨hid, hstay⟩, htoken⟩ := hcols
  have hseen := (control_in_hindsight hrun (i := 4) rfl hgranted (Table.mem_rows.mp hk) htoken rfl).2
  rw [hid, hstay] at hseen
  exact ⟨hseen, by decide +kernel⟩

end StayKey.Service
