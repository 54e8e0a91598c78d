/-
StayKey.Store.Occupancy — who can pass the door of a room at an instant.

Bookings are half-open and the window of a credential is closed: it is
the stay's `[check_in, check_out]`, cut by the TTL. Two stays that hold
assignments of one room have windows that do not overlap, so the closed
ones share at most the instant where one guest leaves and the next one
arrives (`one_occupant`); there they do (`handover_passes_both`).
-/
import StayKey.Store.Runs

namespace StayKey.Store

open StayKey.Codec StayKey.Door StayKey.Program

variable {E : Env} {sk : PrivateKey} {db db' : Db} {h : List StoreEntry}

/-- The static checks let the token pass. -/
def PassesStatic (E : Env) (token : PyStr) (pub : PublicKey) (property : String) (room now : Int)
    (revoked : Finset PyStr) : Prop :=
  ∃ payload, evaluateStatic E token pub property room now revoked = .ok (.pass payload)

/-- An issued credential passes only where no static check fails. -/
theorem passesStatic_issue {a : CredentialIn} {fresh : Fresh} {ik : IssuedKey}
    (hissue : issueCredential E sk a fresh = .ok ik) {pub : PublicKey} {property : String}
    {room now : Int} {revoked : Finset PyStr}
    (hpass : PassesStatic E ik.token pub property room now revoked) :
    firstFailing (staticChecks (a.fields E fresh) property room now revoked) = none := by
  obtain ⟨payload, hpass⟩ := hpass
  obtain ⟨bytes, -, heval⟩ := evaluateStatic_issue hissue pub property room now revoked
  rw [heval] at hpass
  split at hpass
  · cases hfirst : firstFailing (staticChecks (a.fields E fresh) property room now revoked) with
    | none => rfl
    | some reason =>
      rw [hfirst] at hpass
      cases hpass
  · cases hpass

/-- Under the key it was issued with, that is enough. -/
theorem passesStatic_of_checks (hE : E.ed.Correct) {a : CredentialIn} {fresh : Fresh}
    {ik : IssuedKey} (hissue : issueCredential E sk a fresh = .ok ik) {property : String}
    {room now : Int} {revoked : Finset PyStr}
    (hchecks : firstFailing (staticChecks (a.fields E fresh) property room now revoked) = none) :
    PassesStatic E ik.token (E.ed.publicKey sk) property room now revoked := by
  obtain ⟨bytes, -, heval⟩ :=
    evaluateStatic_issue hissue (E.ed.publicKey sk) property room now revoked
  rw [if_pos (hE sk bytes), hchecks] at heval
  exact ⟨_, heval⟩

/-- A stay keeps its window from one database to any later one. -/
theorem window_of_extends {id : String} {s s' : StayRow} (hext : Extends db db')
    (hs : db.getStay id = some s) (hs' : db'.getStay id = some s') :
    s'.checkIn = s.checkIn ∧ s'.checkOut = s.checkOut := by
  obtain ⟨s'', hs'', hbook⟩ := hext.stays id s hs
  obtain rfl : s' = s'' := Option.some.inj (hs'.symm.trans hs'')
  exact ⟨hbook.checkIn, hbook.checkOut⟩

/-- **A credential passes the static checks only inside the booking** of its
stay, end points included: the booking is read off any assignment of the
stay in any state of the run. -/
theorem booking_of_passesStatic (hs : StoreHistory E sk h db) (hv : History.Visits h db db')
    {a : AssignmentRow} (ha : a ∈ db'.assignments) {e : StoreEntry} (he : e ∈ h) {t : Int}
    {key : IssuedKey} (hissue : Issued e a.stayId t key) {pub : PublicKey} {property : String}
    {room now : Int} {revoked : Finset PyStr}
    (hpass : PassesStatic E key.token pub property room now revoked) :
    a.checkIn ≤ now ∧ now ≤ a.checkOut := by
  have hkeep (db₀ db₁ : Db) (c : StoreCall) (hext : Extends db₀ db₁) :
      Extends db₀ (perform E sk c db₁).2 := hext.trans (extends_perform c db₁)
  -- the stay of the assignment, and the stay the key was issued for
  obtain ⟨h', hs'⟩ := hs.of_visits hv
  obtain ⟨s, hget, -, hin, hout⟩ := (agree_history hs').assigned a ha
  have hext : Extends db' db := hs.since_visits hv (.refl db') (hkeep db')
  obtain ⟨-, -, hans⟩ := hs.of_mem he
  obtain ⟨db₁, fresh, -, stay, roomId, hfor, hadd⟩ := issued_spec hans hissue
  have hext₁ : Extends db₁ db := hs.since_after he (extends_addKey hadd) (hkeep db₁)
  -- both are the stay in the last state
  obtain ⟨s', hget', -⟩ := hext.stays _ s hget
  obtain ⟨hin', hout'⟩ := window_of_extends hext hget hget'
  obtain ⟨hin₁, hout₁⟩ := window_of_extends hext₁ hfor.getStay hget'
  obtain ⟨-, -, hfrom, huntil, -⟩ :=
    staticChecks_hold_iff.mp (passesStatic_issue hfor.credential hpass)
  have hfrom : stay.checkIn ≤ now := hfrom
  have huntil : now ≤ min stay.checkOut (t + keyTtlSeconds) := huntil
  constructor <;> omega

/-- **One occupant per door.** In every state of every run, if two stays hold
active assignments of one room, then credentials of both pass the static
checks at most at the instant where one booking ends and the other begins. -/
theorem one_occupant (hs : StoreHistory E sk h db) (hv : History.Visits h db db')
    {a b : AssignmentRow} (ha : a ∈ db'.assignments) (hb : b ∈ db'.assignments)
    (haa : a.active = true) (hba : b.active = true) (hne : a.stayId ≠ b.stayId)
    (hroom : a.roomId = b.roomId) {e f : StoreEntry} (he : e ∈ h) (hf : f ∈ h) {t u : Int}
    {key key' : IssuedKey} (hkey : Issued e a.stayId t key) (hkey' : Issued f b.stayId u key')
    (pub : PublicKey) (property : String) (now : Int) (revoked revoked' : Finset PyStr)
    (hpass : PassesStatic E key.token pub property a.roomId now revoked)
    (hpass' : PassesStatic E key'.token pub property a.roomId now revoked') :
    (now = a.checkOut ∧ now = b.checkIn) ∨ (now = b.checkOut ∧ now = a.checkIn) := by
  obtain ⟨h', hs'⟩ := hs.of_visits hv
  have hdisjoint := noDoubleBooking_history hs' a ha b hb (fun hab => hne (by rw [hab])) haa hba hroom
  exact touch_of_mem_Icc hdisjoint (booking_of_passesStatic hs hv ha he hkey hpass)
    (booking_of_passesStatic hs hv hb hf hkey' hpass')

/-! ## The handover -/

/-- Back-to-back stays in the one room of the sample, both checked in. -/
def handoverCalls : List StoreCall :=
  sampleBooking ++
    [ .addStay "s_2" "g_1" "HILTON-DEMO-001" "king" 2000 3000,
      .assignRoom "s_2" (some 101),
      .checkin "s_1" 1500 sampleFresh,
      .checkin "s_2" 1600 sampleFresh₂ ]

/-- The two assignments of `handoverCalls`. -/
def leaving : AssignmentRow := ⟨1, 101, "s_1", 1000, 2000, true⟩

def arriving : AssignmentRow := ⟨2, 101, "s_2", 2000, 3000, true⟩

theorem handover_assignments :
    leaving ∈ (runCalls Env.sample sampleKey handoverCalls).2.assignments ∧
      arriving ∈ (runCalls Env.sample sampleKey handoverCalls).2.assignments :=
  ⟨Table.mem_rows.mp (by decide), Table.mem_rows.mp (by decide)⟩

/-- A key of a check-in of the sample, presented in its window. -/
theorem passesStatic_checkin {db : Db} {S : String} {t now : Int} {fresh : Fresh} {key : IssuedKey}
    {property : String} {room : Int} (stay : StayRow)
    (hans : (perform Env.sample sampleKey (.checkin S t fresh) db).1 = .ok (some key))
    (hstay : (db.setStayStatus S .checkedIn).getStay S = some stay)
    (hproperty : stay.propertyId = property) (hroom : stay.roomId = some room)
    (hfrom : stay.checkIn ≤ now) (huntil : now ≤ min stay.checkOut (t + keyTtlSeconds)) :
    PassesStatic Env.sample key.token (Env.sample.ed.publicKey sampleKey) property room now ∅ := by
  obtain ⟨k, hk, hsome⟩ := run_of_return (Prod.ext hans rfl)
  cases hsome
  obtain ⟨stay', roomId, hfor, -⟩ := checkin_issued hk
  obtain rfl : stay = stay' := Option.some.inj (hstay.symm.trans hfor.getStay)
  obtain rfl : room = roomId := Option.some.inj (hroom.symm.trans hfor.room)
  refine passesStatic_of_checks Env.sample_correct hfor.credential ?_
  refine staticChecks_hold_iff.mpr ⟨congrArg py hproperty, ?_, hfrom, huntil, Finset.notMem_empty _⟩
  exact (List.mem_insertionSort _).mpr List.mem_cons_self

/-- At the instant of the handover both guests pass the door. -/
theorem handover_passes_both :
    ∃ e ∈ (runCalls Env.sample sampleKey handoverCalls).1,
    ∃ f ∈ (runCalls Env.sample sampleKey handoverCalls).1, ∃ key key',
      Issued e "s_1" 1500 key ∧ Issued f "s_2" 1600 key' ∧
      PassesStatic Env.sample key.token (Env.sample.ed.publicKey sampleKey) "HILTON-DEMO-001" 101 2000 ∅ ∧
      PassesStatic Env.sample key'.token (Env.sample.ed.publicKey sampleKey) "HILTON-DEMO-001" 101 2000
        ∅ := by
  obtain ⟨key, hkey⟩ := answer_of_key? (e := Entry.of (perform Env.sample sampleKey)
    (.checkin "s_1" 1500 sampleFresh)
    (runCalls Env.sample sampleKey (handoverCalls.take 6)).2) (by decide)
  obtain ⟨key', hkey'⟩ := answer_of_key? (e := Entry.of (perform Env.sample sampleKey)
    (.checkin "s_2" 1600 sampleFresh₂)
    (runCalls Env.sample sampleKey (handoverCalls.take 7)).2) (by decide)
  refine ⟨_, .tail _ (.head _), _, .head _, key, key', ⟨rfl, hkey⟩, ⟨rfl, hkey'⟩,
    passesStatic_checkin sampleStay hkey (by decide) rfl rfl (by decide) (by decide),
    passesStatic_checkin { sampleStay with
      stayId := "s_2", checkIn := 2000, checkOut := 3000 } hkey' (by decide) rfl rfl (by decide)
      (by decide)⟩

/-- Back-to-back stays: a lock of room 101 passes credentials of both. -/
theorem two_occupants_at_handover :
    ¬ ∀ (h : List StoreEntry) (db db' : Db) (a b : AssignmentRow) (e f : StoreEntry) (t u : Int)
      (key key' : IssuedKey) (pub : PublicKey) (property : String) (now : Int)
      (revoked revoked' : Finset PyStr),
      StoreHistory Env.sample sampleKey h db → History.Visits h db db' → a ∈ db'.assignments →
      b ∈ db'.assignments → a.active = true → b.active = true → a.stayId ≠ b.stayId →
      a.roomId = b.roomId → e ∈ h → f ∈ h → Issued e a.stayId t key → Issued f b.stayId u key' →
      ¬ (PassesStatic Env.sample key.token pub property a.roomId now revoked ∧
        PassesStatic Env.sample key'.token pub property a.roomId now revoked') := by
  intro hclaim
  obtain ⟨e, he, f, hf, key, key', hkey, hkey', hpass, hpass'⟩ := handover_passes_both
  obtain ⟨ha, hb⟩ := handover_assignments
  exact hclaim _ _ _ leaving arriving e f 1500 1600 key key' _ _ 2000 ∅ ∅
    (History.of_runAll _ _ handoverCalls) (.inl rfl) ha hb rfl rfl (by decide) rfl he hf hkey hkey'
    ⟨hpass, hpass'⟩

/-- The bound of `one_occupant` is met there. -/
theorem one_occupant_handover :
    ∃ key key' : IssuedKey,
      PassesStatic Env.sample key.token (Env.sample.ed.publicKey sampleKey) "HILTON-DEMO-001" 101 2000
        ∅ ∧
      PassesStatic Env.sample key'.token (Env.sample.ed.publicKey sampleKey) "HILTON-DEMO-001" 101 2000
        ∅ ∧
      (2000 = leaving.checkOut ∧ 2000 = arriving.checkIn ∨
        2000 = arriving.checkOut ∧ 2000 = leaving.checkIn) := by
  obtain ⟨e, he, f, hf, key, key', hkey, hkey', hpass, hpass'⟩ := handover_passes_both
  obtain ⟨ha, hb⟩ := handover_assignments
  exact ⟨key, key', hpass, hpass', one_occupant (History.of_runAll _ _ handoverCalls) (.inl rfl) ha hb rfl rfl
    (by decide) rfl he hf hkey hkey' _ _ _ _ _ hpass hpass'⟩

end StayKey.Store
