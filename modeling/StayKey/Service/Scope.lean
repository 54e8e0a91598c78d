/-
StayKey.Service.Scope — a credential commands the devices of its own room.

What the authorizer allows rests on the newest active assignment of the
room (`allowed_spec`), and there is one. So in one state the credentials
of one stay at most are allowed on a room, and those of a stay that holds
no assignment of the room are not, whether they were revoked or not. A
stay that left a room holds none until a room change books the room for
it again (`handle_keepsUnheld`).
-/
import StayKey.Service.ConnectedTheorems

namespace StayKey.Service

open StayKey.Codec StayKey.Door StayKey.Store StayKey.Program

variable {E : Env} {sk : PrivateKey} {propertyId : String} {h : List ApiEntry} {s : AppState} {S : String}
  {roomId : Int}

/-- Some command with this token is allowed on the room. -/
def AllowedOn (E : Env) (s : AppState) (token : PyStr) (roomId : Int) : Prop :=
  ∃ command challenge response now,
    unlocks (s.connected.authorize E s.db roomId command token challenge response now).1 = true

/-- After the entry the stay is checked out, or its room is another one. -/
def Leaves (E : Env) (e : ApiEntry) (S : String) (roomId : Int) : Prop :=
  (e.request.1 = .checkout S ∧ ∃ a, e.answer = .ok a) ∨
    ∃ body, e.request.1 = .roomChange S body ∧ ∃ roomId', roomId' ≠ roomId ∧
      StayIs (e.after (handle E)).db S fun stay => stay.roomId = some roomId'

/-- The entry moves the stay into the room. -/
def MovesInto (E : Env) (e : ApiEntry) (S : String) (roomId : Int) : Prop :=
  (∃ body, e.request.1 = .roomChange S body) ∧ HoldsRoom (e.after (handle E)).db S roomId

/-! ## What an allowed command rests on -/

theorem ActiveStay.holdsRoom {db : Db} (h : ActiveStay db S roomId) : HoldsRoom db S roomId := by
  obtain ⟨a, -, ha, hS, -⟩ := h
  obtain ⟨⟨hmem, hroom, hact⟩, -⟩ := Db.activeAssignmentForRoom_eq_some ha
  exact ⟨a, hmem, hact, hS, hroom⟩

/-- There is one newest active assignment of a room. -/
theorem ActiveStay.unique {db : Db} {S' : String} (h : ActiveStay db S roomId)
    (h' : ActiveStay db S' roomId) : S = S' := by
  obtain ⟨a, -, ha, rfl, -⟩ := h
  obtain ⟨a', -, ha', rfl, -⟩ := h'
  rw [ha] at ha'
  cases ha'
  rfl

/-- **An allowed command** is one of the active stay of the room, inside its
booking. -/
theorem allowed_spec (hs : ApiHistory E propertyId sk h s) {e : ApiEntry} (he : e ∈ h) {key : IssuedKey}
    (hout : HandsOut e S key) {command : String} {challenge response : Bytes} {now : Int}
    (hu : unlocks (s.connected.authorize E s.db roomId command key.token challenge response now).1 = true) :
    ActiveStay s.db S roomId ∧ StayIs s.db S fun stay => stay.checkIn ≤ now ∧ now ≤ stay.checkOut := by
  obtain ⟨p, hrests, hactive⟩ := authorize_restsOn hu
  -- the payload is the one that was issued
  obtain ⟨later, earlier, rfl⟩ := List.append_of_mem he
  obtain ⟨hbefore, hans⟩ := hs.of_append
  obtain ⟨db₁, -, read, room, hfor, hadd⟩ := handsOut_spec hans hout
  obtain ⟨bytes, -, hparse⟩ := parseToken_issue hfor.credential
  obtain rfl := Option.some.inj (Except.ok.inj (hrests.parsed.symm.trans hparse))
  have hcarries := carries_payload (E := E)
    (stayCredential read S room (issueTime e.request) e.request.2.fresh) e.request.2.fresh
  refine ⟨(isActiveStay_eq_true_iff hcarries.stayId roomId).mp hactive, ?_⟩
  -- and its window is inside that of the stay, which is the same ever since
  have hext : Extends db₁ s.db := hs.since_after he (P := fun s => Extends db₁ s.db)
    (extends_addKey hadd) fun s' r' hext => hext.trans (extends_handle r' s')
  obtain ⟨stay, hget, hbook⟩ := hext.stays S read hfor.getStay
  obtain ⟨-, -, hfrom, huntil, -⟩ := staticChecks_hold_iff.mp (hrests.static hcarries)
  have hfrom : read.checkIn ≤ now := hfrom
  have huntil : now ≤ min read.checkOut (issueTime e.request + keyTtlSeconds) := huntil
  exact ⟨stay, hget, by rw [hbook.checkIn]; exact hfrom,
    by rw [hbook.checkOut]; exact huntil.trans (min_le_left _ _)⟩

/-! ## One request -/

theorem checkout_answered {draw : Draw} {a : Answer} (h : (handle E (.checkout S, draw) s).1 = .ok a) :
    StatusIs (handle E (.checkout S, draw) s).2.db S .checkedOut := by
  rw [handle_db, storeProgram, dropResult_run]
  simp only [handle, AppState.run] at h
  obtain ⟨e, db', -, hrun⟩ | ⟨revoked, stay, db', hget, -, -⟩ :=
    checkoutRequest_run S (nowOr none draw.clock) s.db
  · rw [hrun] at h
    cases h
  · exact status_checkout hget draw.clock

/-- A reservation is for a new stay. -/
theorem holdsRoom_of_reserve {db : Db} {body : ReservationIn} {draw : Draw} {stay : StayRow}
    (hget : db.getStay S = some stay)
    (hholds : HoldsRoom ((reserve propertyId body draw).run db).2 S roomId) : HoldsRoom db S roomId := by
  have hguest : (reservationGuest body draw).Only (Stmt.BooksNothingFor S) :=
    reservationGuest_only (fun _ => trivial) (fun _ _ _ => trivial) body draw
  by_cases hid : "s_" ++ draw.stayHex = S
  swap
  · exact holdsRoom_of_run (reserve_only propertyId body draw (fun _ => trivial)
      (fun _ _ _ => trivial) (fun _ => trivial) trivial fun _ _ => hid) hholds
  -- the id of the stay is taken, so nothing is booked
  refine holdsRoom_of_run hguest ?_
  have hext := extends_run (reservationGuest body draw) db
  rw [reserve, run_bind] at hholds
  rcases hrun : (reservationGuest body draw).run db with ⟨e | guestId, db₁⟩ <;> rw [hrun] at hholds hext
  · exact hholds
  simp only at hholds
  rw [run_stmt_bind, exec] at hholds
  cases ha : db₁.addStay ("s_" ++ draw.stayHex) guestId propertyId body.roomType body.checkIn
      body.checkOut with
  | error e => rw [ha] at hholds; exact hholds
  | ok db₂ =>
    obtain ⟨stay', hget', -⟩ := hext.stays S stay hget
    obtain ⟨hmem, hkey⟩ := Db.getStay_eq_some_iff.mp hget'
    exact absurd (hkey.trans hid.symm) ((Db.addStay_ok ha).1 stay' hmem)

/-- **A room that a stay does not hold** is booked for it by its own room
change alone. -/
theorem handle_keepsUnheld {r : Request × Draw} {stay : StayRow} (hget : s.db.getStay S = some stay)
    (hno : ¬ HoldsRoom s.db S roomId) (hreq : ∀ body, r.1 ≠ .roomChange S body) :
    ¬ HoldsRoom (handle E r s).2.db S roomId := by
  refine fun hholds => hno ?_
  rw [handle_db] at hholds
  obtain ⟨req, draw⟩ := r
  cases req with
  | createGuest body =>
    exact holdsRoom_of_run (call_only (.addGuest ("g_" ++ draw.guestHex) body.name body.email) trivial) hholds
  | createRoom body =>
    exact holdsRoom_of_run (call_only (.addRoom body.roomId (strOr body.propertyId s.propertyId)
      body.number body.roomType) trivial) hholds
  | reserve body =>
    simp only [storeProgram, dropResult_run] at hholds
    exact holdsRoom_of_reserve hget hholds
  | checkin stayId =>
    simp only [storeProgram, dropResult_run] at hholds
    exact holdsRoom_of_run (checkin_only trivial trivial fun _ _ => trivial) hholds
  | refresh stayId =>
    simp only [storeProgram, dropResult_run] at hholds
    exact holdsRoom_of_run (refreshKey_only trivial trivial fun _ _ => trivial) hholds
  | checkout stayId =>
    simp only [storeProgram, dropResult_run] at hholds
    exact holdsRoom_of_run
      (checkout_only trivial trivial trivial (fun _ _ _ => trivial) trivial trivial) hholds
  | roomChange stayId body =>
    have hid : stayId ≠ S := fun he => hreq body (by rw [he])
    simp only [storeProgram, dropResult_run] at hholds
    exact hholds.frame (frame_run (changeRoom_spares hid body.newRoomId) s.db)
  | revocations | lockChallenge | lockUnlock | roomChallenge | roomControl => exact hholds

/-! ## Runs -/

/-- A stay that left a room does not hold it. -/
theorem Leaves.unheld {e : ApiEntry} (hs : ApiHistory E propertyId sk h (e.after (handle E)))
    (hans : e.answer = (handle E e.request e.before).1) (hleaves : Leaves E e S roomId) :
    (∃ stay, (e.after (handle E)).db.getStay S = some stay) ∧
      ¬ HoldsRoom (e.after (handle E)).db S roomId := by
  rcases hleaves with ⟨hreq, a, ha⟩ | ⟨body, -, roomId', hne, stay, hget, hroom⟩
  · obtain ⟨s, ⟨req, draw⟩, ans⟩ := e
    obtain rfl : req = .checkout S := hreq
    have hout : StatusIs (handle E (.checkout S, draw) s).2.db S .checkedOut :=
      checkout_answered (hans.symm.trans ha)
    obtain ⟨stay, hget, -⟩ := id hout
    refine ⟨⟨stay, hget⟩, ?_⟩
    rintro ⟨a, hmem, hact, hS, -⟩
    exact (closed_api hs S hout).1 a hmem hact hS
  · refine ⟨⟨stay, hget⟩, ?_⟩
    rintro ⟨a, hmem, hact, rfl, rfl⟩
    obtain ⟨stay', hget', hroom'⟩ := (agree_api hs).assignedRoom a hmem hact
    rw [hget] at hget'
    cases hget'
    rw [hroom] at hroom'
    exact hne (Option.some.inj hroom')

/-- **Connected-Room scope has no leak.** In every state of the service, a
command that is allowed with a credential of a stay is allowed to the
checked-in guest of the room inside the booking, and to no other guest.
After the stay left the room none of its credentials is allowed there,
until a room change moves it back. -/
theorem scope_has_no_leak (hs : ApiHistory E propertyId sk h s) :
    (∀ e ∈ h, ∀ S key, HandsOut e S key → ∀ roomId command challenge response now,
      unlocks (s.connected.authorize E s.db roomId command key.token challenge response now).1 = true →
      (StayIs s.db S fun stay => stay.status = .checkedIn ∧ stay.roomId = some roomId ∧
        stay.checkIn ≤ now ∧ now ≤ stay.checkOut) ∧
      HoldsRoom s.db S roomId ∧
      ∀ e' ∈ h, ∀ S' key', HandsOut e' S' key' → S' ≠ S → ¬ AllowedOn E s key'.token roomId) ∧
    ∀ later e earlier, h = later ++ e :: earlier → ∀ S roomId, Leaves E e S roomId →
      (∀ f ∈ later, ¬ MovesInto E f S roomId) →
      ∀ f ∈ h, ∀ key, HandsOut f S key → ¬ AllowedOn E s key.token roomId := by
  constructor
  · intro e he S key hout roomId command challenge response now hu
    obtain ⟨hactive, stay, hget, hin, hout'⟩ := allowed_spec hs he hout hu
    refine ⟨?_, hactive.holdsRoom, ?_⟩
    · obtain ⟨a, stay', -, -, hget', hst, hroom⟩ := hactive
      rw [hget] at hget'
      cases hget'
      exact ⟨stay, hget, hst, hroom, hin, hout'⟩
    · rintro e' he' S' key' hkey' hne ⟨command', challenge', response', now', hu'⟩
      obtain ⟨hactive', -⟩ := allowed_spec hs he' hkey' hu'
      exact hne (hactive'.unique hactive)
  · rintro later e earlier rfl S roomId hleaves hstays f hf key hout ⟨command, challenge, response, now, hu⟩
    obtain ⟨hbefore, hans⟩ := hs.of_append
    have hafter : ApiHistory E propertyId sk (Entry.of (handle E) e.request e.before :: earlier)
        (e.after (handle E)) := hbefore.cons e.request
    obtain ⟨-, hunheld⟩ := hs.since (P := fun s => (∃ stay, s.db.getStay S = some stay) ∧
        ¬ HoldsRoom s.db S roomId) (hleaves.unheld hafter hans) fun f hf ⟨⟨stay, hget⟩, hno⟩ => by
      obtain ⟨stay', hget', -⟩ := (extends_handle f.request f.before).stays S stay hget
      refine ⟨⟨stay', hget'⟩, fun hholds => ?_⟩
      by_cases hreq : ∃ body, f.request.1 = .roomChange S body
      · exact hstays f hf ⟨hreq, hholds⟩
      · exact handle_keepsUnheld hget hno (fun body he => hreq ⟨body, he⟩) hholds
    exact hunheld (allowed_spec hs hf hout hu).1.holdsRoom

/-- A key is issued and refreshed, and the guest checks out. -/
def refreshedRequests : List (Request × Draw) :=
  sampleRequests ++
    [ (.checkin "s_1", sampleDraw 1000 "" "k1"),
      (.refresh "s_1", sampleDraw 1200 "" "k2"),
      (.checkout "s_1", sampleDraw 1500 "" "") ]

/-- The first key was never revoked, and is not allowed any more. -/
theorem scope_has_no_leak_refreshed : ∃ key : IssuedKey, key.keyId = "k1" ∧
    (runRequests refreshedRequests).2.db.revocationList = ["k2"] ∧
    ¬ AllowedOn Env.sample (runRequests refreshedRequests).2 key.token 101 := by
  have hs := History.of_runAll (handle Env.sample) (AppState.new Env.sample "HILTON-DEMO-001" sampleKey)
    refreshedRequests
  obtain ⟨key, _, _, hout, -, -, -, -, hid, -⟩ := sampleCheckin_key
  have hleaves : Leaves Env.sample (Entry.of (handle Env.sample) (.checkout "s_1", sampleDraw 1500 "" "")
      (runRequests (refreshedRequests.take 4)).2) "s_1" 101 := .inl ⟨rfl, _, rfl⟩
  exact ⟨key, hid, by decide, (scope_has_no_leak hs).2 [] _ _ rfl "s_1" 101 hleaves
    (fun _ hf => absurd hf List.not_mem_nil) _ (.tail _ (.tail _ (.head _))) key hout⟩

end StayKey.Service
