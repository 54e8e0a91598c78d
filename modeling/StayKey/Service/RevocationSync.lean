/-
StayKey.Service.RevocationSync — revoked keys are known at their doors when
the request returns.

Checkout and room change revoke the active keys of a stay and then sync one
room, or two: the room the stay had, and the one it moves to. That is
enough, since a key that is active is for its stay's present room (`Agree`),
however often the stay was moved before. What was issued for an earlier
room was revoked by the move that left it.
-/
import StayKey.Service.Snapshots

namespace StayKey.Service

open StayKey.Codec StayKey.Door StayKey.Store StayKey.Program

variable {E : Env} {sk : PrivateKey} {propertyId : String} {h : List ApiEntry} {s : AppState} {S : String}

/-! ## What the store revokes -/

/-- The keys the list grew by. -/
def RevokesExactly (db db' : Db) (revoked : List String) : Prop :=
  ∀ keyId, keyId ∈ db'.revocationList ↔ keyId ∈ db.revocationList ∨ keyId ∈ revoked

theorem revokesExactly_dropKeys (db : Db) (S : String) (now : Int) (reason : String) :
    RevokesExactly db (dropKeys db S now reason) (db.activeKeys S) := by
  intro keyId
  rw [dropKeys, Db.mem_revocationList_revokeAll]
  exact Iff.rfl

theorem checkout_revokes {db db' : Db} {now : Int} {revoked : List String}
    (hrun : (Store.checkout S now).run db = (.ok revoked, db')) :
    revoked = db.activeKeys S ∧ RevokesExactly db db' revoked := by
  cases hs : db.getStay S with
  | none =>
    obtain ⟨msg, hraised⟩ := checkout_run_none now hs
    rw [hraised] at hrun
    cases hrun
  | some stay =>
    rw [checkout_run hs] at hrun
    cases hrun
    exact ⟨rfl, revokesExactly_dropKeys db S now "checkout"⟩

theorem changeRoom_revokes {db db' : Db} {now : Int} {newRoomId : Option Int} {fresh : Fresh}
    {r : Int × List String × IssuedKey}
    (hrun : (Store.changeRoom E sk S now newRoomId fresh).run db = (.ok r, db')) :
    r.2.1 = db.activeKeys S ∧ RevokesExactly db db' r.2.1 := by
  obtain ⟨-, e, -, hraised⟩ | ⟨stay, -, -, hmoved⟩ := changeRoom_run E sk db S now newRoomId fresh
  · rw [hraised] at hrun
    cases hrun
  rw [hmoved] at hrun
  have hmove := revocations_exec (.changeTransaction S stay newRoomId) trivial
    (dropKeys db S now "room_change")
  rcases hx : exec (.changeTransaction S stay newRoomId) (dropKeys db S now "room_change")
    with ⟨e | newRoom, db₂⟩ <;> rw [hx] at hrun hmove
  · cases hrun
  have hissue := revocations_run (p := issueForStay E sk S now fresh)
    (issueForStay_only trivial fun _ _ => trivial) db₂
  simp only at hrun
  rcases hi : (issueForStay E sk S now fresh).run db₂ with ⟨e | issued, db₃⟩ <;> rw [hi] at hrun hissue
  · cases hrun
  cases hrun
  refine ⟨rfl, fun keyId => ?_⟩
  rw [← revokesExactly_dropKeys db S now "room_change" keyId, Db.revocationList, Db.revocationList, hissue,
    hmove]

/-! ## What a sync delivers -/

/-- The lock of the room has the whole list. -/
def InSync (s : AppState) (roomId : Int) : Prop :=
  ∀ keyId ∈ s.db.revocationList, Knows s roomId (py keyId)

theorem inSync_syncLock (s : AppState) (roomId : Int) : InSync (s.syncLock E roomId) roomId := by
  intro keyId hk
  rw [syncLock_db] at hk
  exact ⟨_, Dict.get?_set_self .., List.mem_toFinset.mpr (List.mem_map.mpr ⟨keyId, hk, rfl⟩)⟩

/-- Syncing another lock takes nothing away. -/
theorem InSync.syncLock {roomId : Int} (hsync : InSync s roomId) (roomId' : Int) :
    InSync (s.syncLock E roomId') roomId := by
  by_cases hroom : roomId = roomId'
  · subst hroom
    exact inSync_syncLock s roomId
  · intro keyId hk
    rw [syncLock_db] at hk
    obtain ⟨lock, hget, hmem⟩ := (hsync keyId hk).lockFor (E := E) roomId'
    exact ⟨lock, ((Dict.get?_set ..).trans (if_neg hroom)).trans hget, hmem⟩

/-! ## One request -/

/-- The ids a checkout or a room change answers with. -/
def revokedIds? : Except Exc Answer → Option (List String)
  | .ok (.checkedOut revoked _) | .ok (.roomChanged _ revoked _) => some revoked
  | _ => none

theorem revokedIds?_answer {α : Type} {f : α → Answer} (hf : ∀ x, revokedIds? (.ok (f x)) = none)
    (r : Except Exc α × AppState) : revokedIds? (answer f r).1 = none := by
  obtain ⟨e | x, s⟩ := r
  · rfl
  · exact hf x

theorem revokedIds?_escape {f : Decision → Answer} (hf : ∀ d, revokedIds? (.ok (f d)) = none)
    (r : Except PyError Decision) : revokedIds? (escape (r.map f)) = none := by
  cases r with
  | error e => rfl
  | ok d => exact hf d

/-- **A request that revokes** took the active keys of one stay, and synced
the lock of the room the stay had. -/
theorem revoking_request {r : Request × Draw} {revoked : List String}
    (hans : revokedIds? (handle E r s).1 = some revoked) :
    ∃ S stay, s.db.getStay S = some stay ∧ revoked = s.db.activeKeys S ∧
      RevokesExactly s.db (handle E r s).2.db revoked ∧
      ∀ roomId, stay.roomId = some roomId → InSync (handle E r s).2 roomId := by
  obtain ⟨req, draw⟩ := r
  cases req with
  | checkout stayId =>
    simp only [handle, AppState.run] at hans ⊢
    obtain ⟨e, db', -, hrun⟩ | ⟨ids, stay, db', hs, hrun, hrun'⟩ :=
      checkoutRequest_run stayId (nowOr none draw.clock) s.db
    · rw [hrun] at hans
      cases hans
    · rw [hrun'] at hans ⊢
      obtain rfl := Option.some.inj hans
      obtain ⟨hids, hexactly⟩ := checkout_revokes hrun
      refine ⟨stayId, stay, hs, hids, ?_, fun roomId hroom => ?_⟩
      · rw [syncRoom_db]
        exact hexactly
      · rw [hroom]
        exact inSync_syncLock _ roomId
  | roomChange stayId body =>
    simp only [handle, AppState.run] at hans ⊢
    obtain ⟨e, db', -, hrun⟩ | ⟨x, stay, db', hs, hrun, hrun'⟩ := roomChangeRequest_run E s.propertySk stayId
      (nowOr body.now draw.clock) body.newRoomId draw.fresh s.db
    · rw [hrun] at hans
      cases hans
    · rw [hrun'] at hans ⊢
      obtain rfl := Option.some.inj hans
      obtain ⟨hids, hexactly⟩ := changeRoom_revokes hrun
      refine ⟨stayId, stay, hs, hids, ?_, fun roomId hroom => ?_⟩
      · rw [syncLock_db, syncRoom_db]
        exact hexactly
      · rw [hroom]
        exact (inSync_syncLock _ roomId).syncLock x.1
  | createGuest | createRoom | reserve | checkin | refresh =>
    rw [handle, revokedIds?_answer fun _ => rfl] at hans
    cases hans
  | revocations | lockChallenge | roomChallenge => cases hans
  | lockUnlock roomId body =>
    simp only [handle, lockUnlock] at hans
    split at hans
    · cases hans
    · rw [revokedIds?_escape fun _ => rfl] at hans
      cases hans
  | roomControl roomId body =>
    simp only [handle, roomControl] at hans
    split at hans
    · cases hans
    · rw [revokedIds?_escape fun _ => rfl] at hans
      cases hans

/-! ## Runs -/

/-- **Revocations reach their doors**: the ids a successful checkout or room
change answers with are those it put on the list, and when it returns each
is known to the lock of the room the key was issued for. -/
theorem revocations_reach_doors (hs : ApiHistory E propertyId sk h s) (r : Request × Draw)
    (revoked : List String) (hans : revokedIds? (handle E r s).1 = some revoked) :
    (∀ keyId, keyId ∈ revoked ↔
      keyId ∈ (handle E r s).2.db.revocationList ∧ keyId ∉ s.db.revocationList) ∧
    ∀ keyId ∈ revoked, ∃ k ∈ (handle E r s).2.db.keys, k.keyId = keyId ∧
      Knows (handle E r s).2 k.roomId (py keyId) := by
  have hagree := agree_api hs
  obtain ⟨S, stay, hget, hids, hexactly, hsync⟩ := revoking_request hans
  have hactive (keyId : String) (hk : keyId ∈ revoked) :
      ∃ k ∈ s.db.keys, k.keyId = keyId ∧ k.active = true ∧ stay.roomId = some k.roomId := by
    rw [hids] at hk
    obtain ⟨k, hk, hid, hstay, hact⟩ := Db.mem_activeKeys.mp hk
    obtain ⟨stay', hget', hroom⟩ := hagree.keyRoom k hk hact
    rw [hstay, hget] at hget'
    obtain rfl := Option.some.inj hget'
    exact ⟨k, hk, hid, hact, hroom⟩
  constructor
  · intro keyId
    rw [hexactly keyId]
    constructor
    · intro hk
      obtain ⟨k, hkeys, rfl, hact, -⟩ := hactive keyId hk
      exact ⟨.inr hk, hagree.keyUnrevoked k hkeys hact⟩
    · rintro ⟨hold | hk, hnew⟩
      · exact absurd hold hnew
      · exact hk
  · intro keyId hk
    obtain ⟨k, hkeys, hid, -, hroom⟩ := hactive keyId hk
    have hknows : Knows (handle E r s).2 k.roomId (py keyId) :=
      hsync k.roomId hroom keyId ((hexactly keyId).mpr (.inr hk))
    rcases (extends_handle r s).keys k hkeys with hkept | hkept
    · exact ⟨k, hkept, hid, hknows⟩
    · exact ⟨_, hkept, hid, hknows⟩

/-- A stay is checked in. -/
def checkedInRequests : List (Request × Draw) :=
  sampleRequests ++ [(.checkin "s_1", sampleDraw 1000 "" "k1")]

/-- Its checkout revokes the one key, at the door of its room. -/
theorem revocations_reach_doors_checkout :
    ∃ k ∈ (handle Env.sample (.checkout "s_1", sampleDraw 1500 "" "") (runRequests checkedInRequests).2).2.db.keys,
      k.keyId = "k1" ∧
        Knows (handle Env.sample (.checkout "s_1", sampleDraw 1500 "" "") (runRequests checkedInRequests).2).2
          k.roomId (py "k1") := by
  have hs := History.of_runAll (handle Env.sample) (AppState.new Env.sample "HILTON-DEMO-001" sampleKey)
    checkedInRequests
  exact (revocations_reach_doors hs (.checkout "s_1", sampleDraw 1500 "" "") ["k1"] (by decide +kernel)).2
    "k1" List.mem_cons_self

end StayKey.Service
