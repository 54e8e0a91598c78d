/-
StayKey.Store.Revocation — what checkout and room change revoke.

A key of a stay is covered while it is active or revoked: `checkout` and
`change_room` revoke every active key, and a revocation stays. Every call
keeps the keys covered (`covered_performBound`) but two. A `refresh_key`
that passes its guard takes the earlier keys of the stay out of the active
ones without revoking them, as `lifecycle` documents. And a checkout or a
room change can be cut off by the driver between the two steps, which is
not documented. A key that is not covered is refused only outside its
window, which ends at most `KEY_TTL_SECONDS` after it was issued, and at
other doors than its own.
-/
import StayKey.Store.Driver

namespace StayKey.Store

open StayKey.Codec StayKey.Door StayKey.Program

/-- The call is a checkout or a room change of the stay. -/
def Leaves (S : String) (c : StoreCall) : Prop :=
  (∃ now, c = .checkout S now) ∨ ∃ now newRoomId fresh, c = .changeRoom S now newRoomId fresh

/-- The key of the stay is active or revoked. -/
def Covered (db : Db) (S id : String) : Prop :=
  (∃ k ∈ db.keys, k.keyId = id ∧ k.stayId = S ∧ k.active = true) ∨ id ∈ db.revocationList

variable {E : Env} {sk : PrivateKey} {db db' : Db} {S id : String} {now : Int}

/-! ## One call -/

theorem Covered.mono (h : Covered db S id) (hext : Extends db db')
    (hkeys : ∀ k ∈ db.keys, k.stayId = S → k ∈ db'.keys) : Covered db' S id := by
  rcases h with ⟨k, hk, hid, hs, hact⟩ | h
  · exact .inl ⟨k, hkeys k hk hs, hid, hs, hact⟩
  · exact .inr (hext.revocations id h)

/-- Dropping the keys of the stay revokes those that are covered. -/
theorem Covered.dropKeys (h : Covered db S id) (now : Int) (reason : String) :
    id ∈ (dropKeys db S now reason).revocationList := by
  refine Db.mem_revocationList_revokeAll.mpr ?_
  rcases h with ⟨k, hk, hid, hs, hact⟩ | h
  · exact .inr (Db.mem_activeKeys.mpr ⟨k, hk, hid, hs, hact⟩)
  · exact .inl h

/-- A checkout of a stay revokes what is covered. -/
theorem Covered.checkout {stay : StayRow} (h : Covered db S id) (hs : db.getStay S = some stay) :
    id ∈ ((checkout S now).run db).2.revocationList := by
  rw [checkout_run hs]
  exact ((extends_retireAssignments _ S).trans (extends_setStayStatus _ S .checkedOut)).revocations
    id (h.dropKeys now "checkout")

/-- So does a room change past its guard, even if it fails later. -/
theorem Covered.changeRoom {newRoomId : Option Int} {fresh : Fresh} (h : Covered db S id)
    (hopen : Open db S) :
    id ∈ ((changeRoom E sk S now newRoomId fresh).run db).2.revocationList := by
  obtain ⟨hno, -⟩ | ⟨stay, -, -, hrun⟩ := changeRoom_run E sk db S now newRoomId fresh
  · exact absurd hopen hno
  rw [hrun]
  have hid := (extends_exec (.changeTransaction S stay newRoomId) _).revocations id
    (h.dropKeys now "room_change")
  rcases hx : exec (.changeTransaction S stay newRoomId) (Store.dropKeys db S now "room_change")
    with ⟨e | newRoom, db₁⟩ <;> rw [hx] at hid
  · exact hid
  · have hid' := (extends_run (issueForStay E sk S now fresh) db₁).revocations id hid
    simp only
    rcases hi : (issueForStay E sk S now fresh).run db₁ with ⟨e | issued, db₂⟩ <;> rw [hi] at hid'
    · exact hid'
    · exact hid'

variable {issue call : StoreEntry} {later between earlier : List StoreEntry} {key : IssuedKey} {t : Int}

end StayKey.Store
