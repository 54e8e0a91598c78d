/-
StayKey.Service.EarlyKeys — keys that are issued before the check-in.

The documented way to a key is the check-in, and a refresh is a re-issue.
But refresh and room change ask only that the stay is not checked out, so
they also issue a key for a stay that is still reserved
(`refresh_before_checkin`). In the runs without such a request
(`EarlyKey`) no reserved stay has a key, and every key that is handed out
follows a check-in of its stay (`no_key_before_checkin`).
-/
import StayKey.Service.Lifecycle
import StayKey.Store.Reserved

namespace StayKey.Service

open StayKey.Codec StayKey.Door StayKey.Store StayKey.Program

variable {E : Env} {sk : PrivateKey} {propertyId : String} {h : List ApiEntry} {s : AppState} {S : String}

/-- The request is a refresh or a room change of a stay that is still
reserved, and a key can be issued for it. -/
def EarlyKey (db : Db) (r : Request × Draw) : Prop :=
  (∃ S stay, r.1 = .refresh S ∧ db.getStay S = some stay ∧ stay.status = .reserved ∧
    Issuable stay (issueTime r)) ∨
  ∃ S body stay, r.1 = .roomChange S body ∧ db.getStay S = some stay ∧ stay.status = .reserved ∧
    HasAlternative db stay body.newRoomId ∧
    stay.checkIn < min stay.checkOut (issueTime r + keyTtlSeconds)

/-! ## One request -/

/-- **A request that is not early** keeps reserved stays without a key. -/
theorem handle_keyless {r : Request × Draw} (hagree : Agree s.db) (hkeyless : ∀ S, KeylessAt s.db S)
    (hok : ¬ EarlyKey s.db r) : ∀ S, KeylessAt (handle E r s).2.db S := by
  rw [handle_db]
  obtain ⟨req, draw⟩ := r
  cases req with
  | createGuest body =>
    exact fun S => keylessAt_run
      (call_only (.addGuest ("g_" ++ draw.guestHex) body.name body.email) ⟨trivial, nofun⟩) (hkeyless S)
  | createRoom body =>
    exact fun S => keylessAt_run (call_only (.addRoom body.roomId (strOr body.propertyId s.propertyId)
      body.number body.roomType) ⟨trivial, nofun⟩) (hkeyless S)
  | reserve body =>
    simp only [storeProgram, dropResult_run]
    refine (reserve_keeps (I := fun db => Agree db ∧ ∀ S, KeylessAt db S) ?_ ?_ ?_
      ⟨hagree, hkeyless⟩ body draw).2
    · rintro db db' guestId name email ⟨ha, hk⟩ hadd
      refine ⟨agree_addGuest ha hadd, fun S => ?_⟩
      obtain ⟨guests, rfl⟩ := Db.addGuest_ok hadd
      exact hk S
    · rintro db db' stayId guestId roomType checkIn checkOut ⟨ha, hk⟩ - hadd
      exact ⟨agree_addStay ha hadd, fun S => keylessAt_addStay ha (hk S) hadd⟩
    · rintro db stayId preferred ⟨ha, hk⟩ -
      exact ⟨agree_assignRoom ha stayId preferred, fun S => keylessAt_assignRoom (hk S) preferred⟩
  | checkin stayId =>
    simp only [storeProgram, dropResult_run]
    exact fun S => keylessAt_checkin (hkeyless S)
  | refresh stayId =>
    simp only [storeProgram, dropResult_run]
    refine fun S => keylessAt_refreshKey (hkeyless S) fun stay hs hst hissuable => ?_
    exact hok (.inl ⟨stayId, stay, rfl, hs, hst, hissuable⟩)
  | roomChange stayId body =>
    simp only [storeProgram, dropResult_run]
    refine fun S => keylessAt_changeRoom (hkeyless S) fun stay hs hst hmove => ?_
    exact hok (.inr ⟨stayId, body, stay, rfl, hs, hst, hmove⟩)
  | checkout stayId =>
    simp only [storeProgram, dropResult_run]
    exact fun S => keylessAt_checkout (hkeyless S)
  | revocations | lockChallenge | lockUnlock | roomChallenge | roomControl => exact hkeyless

/-- Only its check-in makes a stay checked in. -/
theorem checkedIn_before {r : Request × Draw} (hreq : r.1 ≠ .checkin S)
    (hin : StatusIs (handle E r s).2.db S .checkedIn) : StatusIs s.db S .checkedIn := by
  rw [handle_db] at hin
  obtain ⟨req, draw⟩ := r
  cases req with
  | createGuest body =>
    exact statusIs_of_run
      (call_only (.addGuest ("g_" ++ draw.guestHex) body.name body.email) trivial) hin
  | createRoom body =>
    exact statusIs_of_run (call_only (.addRoom body.roomId (strOr body.propertyId s.propertyId)
      body.number body.roomType) trivial) hin
  | reserve body =>
    simp only [storeProgram, dropResult_run] at hin
    exact statusIs_of_run (reserve_only _ body draw (fun _ => trivial) (fun _ _ _ => trivial)
      (fun _ _ h => by cases h) trivial fun _ _ => trivial) hin
  | checkin stayId =>
    have hid : stayId ≠ S := fun he => hreq (congrArg _ he)
    simp only [storeProgram, dropResult_run] at hin
    exact (statusIs_congr (frame_run (checkin_spares hid) s.db).stay).mp hin
  | refresh stayId =>
    simp only [storeProgram, dropResult_run] at hin
    exact statusIs_of_run (refreshKey_only trivial trivial fun _ _ => trivial) hin
  | checkout stayId =>
    simp only [storeProgram, dropResult_run] at hin
    exact statusIs_of_run (checkout_only trivial trivial trivial (fun _ _ _ => trivial) trivial
      fun _ h => by cases h) hin
  | roomChange stayId body =>
    simp only [storeProgram, dropResult_run] at hin
    exact statusIs_of_run (changeRoom_only trivial trivial trivial (fun _ _ _ => trivial)
      (fun _ _ => trivial) (fun _ _ => trivial) body.newRoomId) hin
  | revocations | lockChallenge | lockUnlock | roomChallenge | roomControl => exact hin

/-! ## Runs -/

/-- The stay was checked in by the entry. -/
def ChecksIn (E : Env) (e : ApiEntry) (S : String) : Prop :=
  e.request.1 = .checkin S ∧ StatusIs (e.after (handle E)).db S .checkedIn

/-- A stay that is checked in was checked in by some request. -/
theorem checkin_of_checkedIn (hs : ApiHistory E propertyId sk h s) (hin : StatusIs s.db S .checkedIn) :
    ∃ f ∈ h, ChecksIn E f S := by
  induction hs with
  | nil =>
    obtain ⟨stay, hget, -⟩ := hin
    cases hget
  | @cons h s r hs ih =>
    by_cases hreq : r.1 = .checkin S
    · exact ⟨_, List.mem_cons_self, hreq, hin⟩
    · obtain ⟨f, hf, hchecks⟩ := ih (checkedIn_before hreq hin)
      exact ⟨f, List.mem_cons_of_mem _ hf, hchecks⟩

/-- A key that was handed out has a row, for good. -/
theorem keyRow_of_handsOut (hs : ApiHistory E propertyId sk h s) {e : ApiEntry} (he : e ∈ h)
    {key : IssuedKey} (hout : HandsOut e S key) : ∃ k ∈ s.db.keys, k.stayId = S := by
  obtain ⟨-, -, hans⟩ := hs.of_mem he
  obtain ⟨db₁, -, stay, room, -, hadd⟩ := handsOut_spec hans hout
  have hrow := (Db.mem_addKey hadd).mpr (.inr rfl)
  have hext : Extends (e.after (handle E)).db s.db := hs.since_after he
    (P := fun s => Extends (e.after (handle E)).db s.db) (.refl _)
    fun s' r' hext => hext.trans (extends_handle r' s')
  rcases hext.keys _ hrow with hk | hk
  · exact ⟨_, hk, rfl⟩
  · exact ⟨_, hk, rfl⟩

theorem keyless_api (hs : ApiHistory E propertyId sk h s)
    (hok : ∀ e ∈ h, ¬ EarlyKey e.before.db e.request) (S : String) : KeylessAt s.db S := by
  have hboth := hs.invariant (I := fun s => Agree s.db ∧ SameInstall (.new E propertyId sk) s ∧
      ∀ S, KeylessAt s.db S)
    ⟨agree_empty, .refl _, fun _ ⟨_, hget, _⟩ => by cases hget⟩
    (fun s r ⟨hagree, hsame, hkeyless⟩ hr =>
      ⟨agree_invariant.step (E := E) hsame.propertySk hsame.propertyId hagree (requestOk_any r),
        hsame.trans (sameInstall_handle r s), handle_keyless hagree hkeyless hr⟩) hok
  exact hboth.2.2 S

/-- **No key before check-in**, in every run without an early request: a
stay that is reserved has no key and was handed none, and every key that
is handed out follows the check-in of its stay. -/
theorem no_key_before_checkin (hs : ApiHistory E propertyId sk h s)
    (hok : ∀ e ∈ h, ¬ EarlyKey e.before.db e.request) :
    (∀ S, StatusIs s.db S .reserved →
      (∀ k ∈ s.db.keys, k.stayId ≠ S) ∧ ∀ e ∈ h, ∀ key, ¬ HandsOut e S key) ∧
    ∀ later e earlier, h = later ++ e :: earlier → ∀ S key, HandsOut e S key →
      ∃ f ∈ e :: earlier, ChecksIn E f S := by
  constructor
  · intro S hreserved
    have hkeyless := keyless_api hs hok S hreserved
    refine ⟨hkeyless, fun e he key hout => ?_⟩
    obtain ⟨k, hk, hS⟩ := keyRow_of_handsOut hs he hout
    exact hkeyless k hk hS
  · rintro later e earlier rfl S key hout
    obtain ⟨hbefore, hans⟩ := hs.of_append
    have hafter : ApiHistory E propertyId sk (Entry.of (handle E) e.request e.before :: earlier)
        (e.after (handle E)) := hbefore.cons e.request
    have hentry : Entry.of (handle E) e.request e.before = e := by
      obtain ⟨before, request, answer⟩ := e
      exact congrArg (Entry.mk before request) hans.symm
    rw [hentry] at hafter
    refine checkin_of_checkedIn hafter ?_
    obtain ⟨db₁, hstate, stay, room, hfor, hadd⟩ := handsOut_spec hans hout
    have hget : (e.after (handle E)).db.getStay S = some stay := by
      obtain ⟨-, -, keys, hdb⟩ := Db.addKey_ok hadd
      rw [hdb]
      exact hfor.getStay
    cases hst : stay.status with
    | checkedIn => exact ⟨stay, hget, hst⟩
    | reserved =>
      -- a reserved stay has no key, but this one has got one
      obtain ⟨k, hk, hS⟩ := keyRow_of_handsOut hafter List.mem_cons_self hout
      have hkeyless := keyless_api hafter (fun f hf => hok f (List.mem_append_right later hf)) S
      exact absurd hS (hkeyless ⟨stay, hget, hst⟩ k hk)
    | checkedOut => exact absurd ⟨stay, hfor.getStay, hst⟩ hstate.notCheckedOut

/-- A check-in and a refresh. -/
def inOrderRequests : List (Request × Draw) :=
  sampleRequests ++
    [(.checkin "s_1", sampleDraw 1000 "" "k1"), (.refresh "s_1", sampleDraw 1100 "" "k2")]

/-- The refresh of that run. -/
abbrev sampleRefresh : ApiEntry :=
  .of (handle Env.sample) (.refresh "s_1", sampleDraw 1100 "" "k2")
    (runRequests (sampleRequests ++ [(.checkin "s_1", sampleDraw 1000 "" "k1")])).2

theorem no_key_before_checkin_refresh :
    ∃ key, HandsOut sampleRefresh "s_1" key ∧
      ∃ f ∈ (runRequests inOrderRequests).1, ChecksIn Env.sample f "s_1" := by
  have hs := History.of_runAll (handle Env.sample) (AppState.new Env.sample "HILTON-DEMO-001" sampleKey)
    inOrderRequests
  obtain ⟨key, hout⟩ := handsOut_of_answeredKey? (E := Env.sample) (e := sampleRefresh) (S := "s_1")
    (by decide) (.inr rfl) rfl
  have hok : ∀ e ∈ (runRequests inOrderRequests).1, ¬ EarlyKey e.before.db e.request := by
    rintro e he (⟨S, stay, hreq, hget, hst, -⟩ | ⟨S, body, stay, hreq, -⟩)
    · rcases List.mem_cons.mp he with rfl | he
      · -- the one refresh: the stay is checked in
        cases hreq
        have hin : sampleRefresh.before.db.getStay "s_1" = some sampleStay := by decide
        obtain rfl := Option.some.inj (hin.symm.trans hget)
        cases hst
      rcases List.mem_cons.mp he with rfl | he
      · cases hreq
      rcases List.mem_cons.mp he with rfl | he
      · cases hreq
      obtain rfl := List.mem_singleton.mp he
      cases hreq
    · -- nobody changes the room
      have hmem := List.mem_map_of_mem (f := Prod.fst) (History.request_mem he)
      rw [hreq] at hmem
      simp [inOrderRequests, sampleRequests] at hmem
  exact ⟨key, hout, (no_key_before_checkin hs hok).2 [] _ _ rfl "s_1" key hout⟩

/-- A refresh before the check-in: the reserved stay gets a key. -/
theorem refresh_before_checkin :
    ¬ ∀ (h : List ApiEntry) (s : AppState) (S : String),
      ApiHistory Env.sample "HILTON-DEMO-001" sampleKey h s → StatusIs s.db S .reserved →
      (∀ k ∈ s.db.keys, k.stayId ≠ S) ∧ ∀ e ∈ h, ∀ key, ¬ HandsOut e S key := by
  intro hclaim
  have hs := History.of_runAll (handle Env.sample) (AppState.new Env.sample "HILTON-DEMO-001" sampleKey)
    (sampleRequests ++ [(.refresh "s_1", sampleDraw 950 "" "k1")])
  obtain ⟨-, hnone⟩ := hclaim _ _ "s_1" hs ⟨{ sampleStay with status := .reserved }, by decide, rfl⟩
  obtain ⟨key, hout⟩ := handsOut_of_answeredKey? (E := Env.sample) (S := "s_1")
    (e := .of (handle Env.sample) (.refresh "s_1", sampleDraw 950 "" "k1") (runRequests sampleRequests).2)
    (by decide) (.inr rfl) rfl
  exact hnone _ (.head _) key hout

end StayKey.Service
