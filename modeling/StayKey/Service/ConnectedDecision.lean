/-
StayKey.Service.ConnectedDecision — what `authorize` does to its state, and
what a positive decision of it rests on.

The authorizer treats its challenges as the lock does (`authorize_uses`),
and its positive decisions rest on the same checks (`authorize_restsOn`).
-/
import StayKey.Door.LockTheorems
import StayKey.Service.ConnectedRoom

namespace StayKey.Service

open StayKey.Codec StayKey.Door StayKey.Store

variable {E : Env}

theorem authorize_install (c : ConnectedRoomAuthorizer) (db : Db) (roomId : Int) (command : String)
    (token : PyStr) (challenge response : Bytes) (now : Int) :
    (c.authorize E db roomId command token challenge response now).2.propertyId = c.propertyId ∧
      (c.authorize E db roomId command token challenge response now).2.propertyPub = c.propertyPub := by
  unfold ConnectedRoomAuthorizer.authorize
  split
  · exact ⟨rfl, rfl⟩
  · split
    · exact ⟨rfl, rfl⟩
    · exact ⟨rfl, rfl⟩
    · split <;> exact ⟨rfl, rfl⟩

theorem authorize_uses (c : ConnectedRoomAuthorizer) (db : Db) (roomId : Int) (command : String)
    (token : PyStr) (challenge response : Bytes) (now : Int) :
    UsesChallenge c.challenges challenge now
      (c.authorize E db roomId command token challenge response now).1
      (c.authorize E db roomId command token challenge response now).2.challenges := by
  unfold ConnectedRoomAuthorizer.authorize
  by_cases hcmd : command ∉ allowedDevices
  · rw [if_pos hcmd]
    exact rfl
  rw [if_neg hcmd]
  cases hs : evaluateStatic E token c.propertyPub c.propertyId roomId now
    (db.revocationList.map py).toFinset with
  | error e => exact rfl
  | ok result =>
    obtain ⟨reason, keyId, rfl⟩ | ⟨p, -, -, -, rfl⟩ := evaluateStatic_ok hs
    · exact rfl
    · simp only
      cases isActiveStay E db p.payload roomId with
      | error e => exact rfl
      | ok b =>
        cases b with
        | false => exact rfl
        | true => exact presentChallenge_uses ..

theorem authorize_restsOn {c : ConnectedRoomAuthorizer} {db : Db} {roomId : Int} {command : String}
    {token : PyStr} {challenge response : Bytes} {now : Int}
    (hu : unlocks (c.authorize E db roomId command token challenge response now).1 = true) :
    ∃ p, RestsOn E c.propertyPub c.propertyId roomId c.challenges token challenge response now
        (db.revocationList.map py).toFinset
        (c.authorize E db roomId command token challenge response now).1 p ∧
      isActiveStay E db p.payload roomId = .ok true := by
  unfold ConnectedRoomAuthorizer.authorize at hu ⊢
  by_cases hcmd : command ∉ allowedDevices
  · rw [if_pos hcmd] at hu
    cases hu
  rw [if_neg hcmd] at hu ⊢
  cases hs : evaluateStatic E token c.propertyPub c.propertyId roomId now
    (db.revocationList.map py).toFinset with
  | error e => rw [hs] at hu; cases hu
  | ok result =>
    obtain ⟨reason, keyId, rfl⟩ | ⟨p, hparse, hv, hpass, rfl⟩ := evaluateStatic_ok hs
    · rw [hs] at hu; cases hu
    · rw [hs] at hu
      cases ha : isActiveStay E db p.payload roomId with
      | error e => simp only [ha] at hu; cases hu
      | ok b =>
        cases b with
        | false => simp only [ha] at hu; cases hu
        | true =>
          refine ⟨p, ⟨hparse, hv, hpass, ?_⟩, ha⟩
          simp only [ha]

theorem authorize_consults {c : ConnectedRoomAuthorizer} {db : Db} {roomId : Int} {command : String}
    {token : PyStr} {challenge response : Bytes} {now : Int} {d : Decision}
    (h : (c.authorize E db roomId command token challenge response now).1 = .ok d) :
    Consults (db.revocationList.map py).toFinset d := by
  unfold ConnectedRoomAuthorizer.authorize at h
  split at h
  · cases h
    exact ⟨nofun, nofun⟩
  cases hs : evaluateStatic E token c.propertyPub c.propertyId roomId now
    (db.revocationList.map py).toFinset with
  | error e => rw [hs] at h; cases h
  | ok result =>
    rw [hs] at h
    obtain ⟨d', rfl, hd⟩ | ⟨payload, rfl, hkey⟩ := evaluateStatic_consults hs
    · cases h
      exact hd
    · simp only at h
      split at h
      · cases h
      · cases h
        exact ⟨nofun, nofun⟩
      · exact presentChallenge_consults hkey h

/-- A command that is allowed is one of the devices. -/
theorem authorize_command {c : ConnectedRoomAuthorizer} {db : Db} {roomId : Int} {command : String}
    {token : PyStr} {challenge response : Bytes} {now : Int}
    (hu : unlocks (c.authorize E db roomId command token challenge response now).1 = true) :
    command ∈ allowedDevices := by
  by_contra hcommand
  rw [ConnectedRoomAuthorizer.authorize, if_pos hcommand] at hu
  cases hu

end StayKey.Service
