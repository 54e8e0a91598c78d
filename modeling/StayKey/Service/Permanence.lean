/-
StayKey.Service.Permanence — a revoked key is refused for good.

Four places hold that a key is revoked: the `revocations` table, the
`active` flag of its row, the snapshot of each lock, and a lock that is
created later. The table only grows (`Extends`) and the flag follows from
the agreement of the tables. The snapshots need no invariant at all: an
unlock request syncs the lock before it asks it (`lockFor_syncLock`), and
the authorizer reads the table.
-/
import StayKey.Service.ConnectedTheorems

namespace StayKey.Service

open StayKey.Codec StayKey.Door StayKey.Store StayKey.Program

variable {E : Env} {sk : PrivateKey} {propertyId : String} {h : List ApiEntry} {s t : AppState}

/-- The request was answered with a positive decision. -/
def positive : Except Exc Answer → Bool
  | .ok (.decision d) | .ok (.control d _) => d.unlocked
  | _ => false

/-- The token parses, and its payload names this key. -/
def CarriesKey (E : Env) (token : PyStr) (keyId : String) : Prop :=
  ∃ p, parseToken E token = .ok (some p) ∧ payloadKeyId E p.payload = py keyId

/-- A key that was handed out has a token that carries its id. -/
theorem HandsOut.carriesKey {e : ApiEntry} {S : String} {key : IssuedKey} (hout : HandsOut e S key)
    (hans : e.answer = (handle E e.request e.before).1) : CarriesKey E key.token key.keyId := by
  obtain ⟨db₁, -, stay, room, hfor, -⟩ := handsOut_spec hans hout
  obtain ⟨bytes, -, hparse⟩ := parseToken_issue hfor.credential
  have hcarries := carries_payload (E := E)
    (stayCredential stay S room (issueTime e.request) e.request.2.fresh) e.request.2.fresh
  refine ⟨_, hparse, ?_⟩
  rw [payloadKeyId, hcarries.keyId, hfor.keyId]
  rfl

/-! ## One request -/

/-- After a sync the registry holds the lock with the present list. -/
theorem lockFor_syncLock (s : AppState) (roomId : Int) :
    ((s.syncLock E roomId).lockFor E roomId).1
      = (s.lockFor E roomId).1.syncRevocations s.revocationTexts := by
  rw [AppState.lockFor, AppState.syncLock, AppState.setLock]
  simp only [Dict.get?_set_self]

theorem unlocks_of_positive {r : Except PyError Decision} (h : positive (escape (r.map .decision)) = true) :
    unlocks r = true := by
  cases r with
  | error e => cases h
  | ok d => exact h

theorem unlocks_of_positive_control {r : Except PyError Decision} {command : String}
    (h : positive (escape (r.map (.control · command))) = true) : unlocks r = true := by
  cases r with
  | error e => cases h
  | ok d => exact h

/-- The authorizer allows no key that is revoked in the database. -/
theorem authorize_unrevoked {c : ConnectedRoomAuthorizer} {db : Db} {roomId : Int} {command : String}
    {token : PyStr} {challenge response : Bytes} {now : Int} {keyId : String}
    (hu : unlocks (c.authorize E db roomId command token challenge response now).1 = true)
    (hkey : CarriesKey E token keyId) : keyId ∉ db.revocationList := by
  obtain ⟨p, hrests, -⟩ := authorize_restsOn hu
  obtain ⟨p', hparse, hid⟩ := hkey
  obtain rfl : p' = p := Option.some.inj (Except.ok.inj (hparse.symm.trans hrests.parsed))
  intro hrev
  refine hrests.unrevoked ?_
  rw [hid]
  exact List.mem_toFinset.mpr (List.mem_map.mpr ⟨keyId, hrev, rfl⟩)

/-- Nor does an unlock request, whatever the lock knew before. -/
theorem lockUnlock_unrevoked {roomId : Int} {body : UnlockIn} {draw : Draw} {keyId : String}
    (hu : positive (handle E (.lockUnlock roomId body, draw) s).1 = true)
    (hkey : CarriesKey E body.token keyId) : keyId ∉ s.db.revocationList := by
  simp only [handle, lockUnlock] at hu
  split at hu
  · cases hu
  · obtain ⟨p, hrests⟩ := finishUnlock_restsOn (unlocks_of_positive hu)
    obtain ⟨p', hparse, hid⟩ := hkey
    obtain rfl : p' = p := Option.some.inj (Except.ok.inj (hparse.symm.trans hrests.parsed))
    intro hrev
    refine hrests.unrevoked ?_
    rw [hid, lockFor_syncLock]
    exact List.mem_toFinset.mpr (List.mem_map.mpr ⟨keyId, hrev, rfl⟩)

theorem roomControl_unrevoked {roomId : Int} {body : ControlIn} {draw : Draw} {keyId : String}
    (hu : positive (handle E (.roomControl roomId body, draw) s).1 = true)
    (hkey : CarriesKey E body.token keyId) : keyId ∉ s.db.revocationList := by
  simp only [handle, roomControl] at hu
  split at hu
  · cases hu
  · exact authorize_unrevoked (unlocks_of_positive_control hu) hkey

/-! ## Runs -/

/-- **Revocation is permanent.** From the moment a key is revoked on, it
stays so and its row is inactive; no authorization and no unlock request
at any lock accepts a token with that key, whatever has happened since. -/
theorem revocation_permanent (hs : ApiHistory E propertyId sk h s) (hv : History.Visits h s t)
    {keyId : String} (hrevoked : keyId ∈ t.db.revocationList) :
    keyId ∈ s.db.revocationList ∧ (∀ k ∈ s.db.keys, k.keyId = keyId → k.active = false) ∧
    ∀ token, CarriesKey E token keyId →
      (∀ roomId command challenge response now,
        unlocks (s.connected.authorize E s.db roomId command token challenge response now).1 = false) ∧
      (∀ roomId (body : UnlockIn) draw, body.token = token →
        positive (handle E (.lockUnlock roomId body, draw) s).1 = false) ∧
      ∀ roomId (body : ControlIn) draw, body.token = token →
        positive (handle E (.roomControl roomId body, draw) s).1 = false := by
  have hrev : keyId ∈ s.db.revocationList :=
    hs.since_visits (P := fun s => keyId ∈ s.db.revocationList) hv hrevoked
      fun s r hid => (extends_handle r s).revocations keyId hid
  refine ⟨hrev, ?_, fun token hkey => ⟨?_, ?_, ?_⟩⟩
  · rintro k hk rfl
    by_contra hact
    exact (agree_api hs).keyUnrevoked k hk (by simpa using hact) hrev
  · intro roomId command challenge response now
    by_contra hu
    exact authorize_unrevoked (by simpa using hu) hkey hrev
  · rintro roomId body draw rfl
    by_contra hu
    exact lockUnlock_unrevoked (by simpa using hu) hkey hrev
  · rintro roomId body draw rfl
    by_contra hu
    exact roomControl_unrevoked (by simpa using hu) hkey hrev

/-- A key is issued and revoked by a checkout; then the stay is checked in
again. -/
def reopenedRequests : List (Request × Draw) :=
  sampleRequests ++
    [ (.checkin "s_1", sampleDraw 1000 "" "k1"),
      (.checkout "s_1", sampleDraw 1500 "" ""),
      (.checkin "s_1", sampleDraw 1600 "" "k2") ]

/-- The first key stays refused, while the second one is active. -/
theorem revocation_permanent_reopened : ∃ key : IssuedKey,
    CarriesKey Env.sample key.token "k1" ∧
      (runRequests reopenedRequests).2.db.activeKeys "s_1" = ["k2"] ∧
      ∀ challenge response now,
        unlocks ((runRequests reopenedRequests).2.connected.authorize Env.sample
          (runRequests reopenedRequests).2.db 101 "tv" key.token challenge response now).1 = false := by
  have hs := History.of_runAll (handle Env.sample) (AppState.new Env.sample "HILTON-DEMO-001" sampleKey)
    reopenedRequests
  obtain ⟨key, _, _, hout, -, -, -, -, hid, -⟩ := sampleCheckin_key
  have hcarries : CarriesKey Env.sample key.token "k1" := hid ▸ hout.carriesKey rfl
  have hrevoked : "k1" ∈ (runRequests (reopenedRequests.take 4)).2.db.revocationList := by decide
  obtain ⟨-, -, hrefused⟩ := revocation_permanent hs (.inr ⟨_, .head _, rfl⟩) hrevoked
  exact ⟨key, hcarries, by decide, (hrefused key.token hcarries).1 101 "tv"⟩

end StayKey.Service
