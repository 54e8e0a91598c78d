/-
StayKey.Service.Lifecycle — a stay that is checked out stays so, unless it
is checked in again.

`refresh` and `room-change` ask for a stay that is not checked out;
`checkin` does not: it sets the status of any stay and then issues a key.
So the one-way law of the lifecycle holds in the runs without a check-in of
a checked-out stay (`lifecycle_one_way`), and in these every key is issued
while its stay holds an active assignment of the key's room.
-/
import StayKey.Service.TablesAgree

namespace StayKey.Service

open StayKey.Codec StayKey.Door StayKey.Store StayKey.Program

variable {E : Env} {sk : PrivateKey} {propertyId : String} {h : List ApiEntry} {s : AppState} {S : String}

/-! ## One request -/

theorem checkout_keepsCheckedOut {db : Db} {stayId : String} {now : Int}
    (h : StatusIs db S .checkedOut) : StatusIs ((Store.checkout stayId now).run db).2 S .checkedOut := by
  by_cases hid : stayId = S
  · subst hid
    obtain ⟨stay, hs, -⟩ := h
    exact status_checkout hs now
  · exact (statusIs_congr (frame_run (checkout_spares hid) db).stay).mpr h

/-- **A request keeps a stay checked out**, unless it checks it in. -/
theorem handle_keepsCheckedOut {r : Request × Draw} (h : StatusIs s.db S .checkedOut)
    (hreq : r.1 ≠ .checkin S) : StatusIs (handle E r s).2.db S .checkedOut := by
  rw [handle_db]
  obtain ⟨req, draw⟩ := r
  cases req with
  | createGuest | createRoom => exact status_run ⟨trivial, fun _ => trivial⟩ h
  | reserve body =>
    simp only [storeProgram, dropResult_run]
    exact status_run (reserve_only _ body draw (fun _ => trivial) (fun _ _ _ => trivial)
      (fun _ => trivial) trivial fun _ _ => trivial) h
  | checkin stayId =>
    have hid : stayId ≠ S := fun he => hreq (congrArg _ he)
    simp only [storeProgram, dropResult_run]
    exact (statusIs_congr (frame_run (checkin_spares hid) s.db).stay).mpr h
  | refresh stayId =>
    simp only [storeProgram, dropResult_run]
    exact status_refreshKey h
  | checkout stayId =>
    simp only [storeProgram, dropResult_run]
    exact checkout_keepsCheckedOut h
  | roomChange stayId body =>
    simp only [storeProgram, dropResult_run]
    exact status_changeRoom h body.newRoomId
  | revocations | lockChallenge | lockUnlock | roomChallenge | roomControl => exact h

/-- A key is handed out for a checked-out stay by a check-in alone. -/
theorem notCheckedOut_of_handsOut {e : ApiEntry} {key : IssuedKey}
    (he : e.answer = (handle E e.request e.before).1) (hout : HandsOut e S key)
    (hreq : e.request.1 ≠ .checkin S) : NotCheckedOut e.before.db S := by
  obtain ⟨db₁, hstate, -⟩ := handsOut_spec he hout
  obtain ⟨s, r, ans⟩ := e
  cases hstate with
  | checkin draw => exact absurd rfl hreq
  | refresh draw hopen =>
    obtain ⟨stay, hs, hst⟩ := hopen
    exact fun hcheckedOut => hst (StatusIs.unique ⟨stay, hs, rfl⟩ hcheckedOut)
  | roomChange body draw hs hst _ =>
    exact fun hcheckedOut => hst (StatusIs.unique ⟨_, hs, rfl⟩ hcheckedOut)

/-! ## Runs -/

theorem housed_invariant :
    StoreInvariant E sk propertyId NotCheckedOut fun db => ∀ S, HousedAt db S where
  empty S := by
    intro stay roomId hs
    cases hs
  addGuest h ha S := by
    obtain ⟨guests, rfl⟩ := Db.addGuest_ok ha
    exact h S
  addRoom h ha S := by
    obtain ⟨rooms, rfl, -⟩ := Db.addRoom_ok ha
    exact h S
  addStay h _ ha S := housedAt_addStay (h S) ha
  assignRoom h _ S := housedAt_assignRoom (h S) _
  checkin h hopen S := housedAt_checkin (h S) hopen
  refreshKey h S := housedAt_refreshKey (h S)
  changeRoom h S := housedAt_changeRoom (h S) _
  checkout h S := housedAt_checkout (h S)

/-- **The lifecycle is one-way** in every run without a check-in of a stay
that is checked out: from the moment a stay is checked out it stays so and
gets no key, and every key is issued at a moment when its stay holds an
active assignment of the key's room. -/
theorem lifecycle_one_way (hs : ApiHistory E propertyId sk h s)
    (hcheckin : ∀ e ∈ h, RequestOk NotCheckedOut e.before e.request) :
    (∀ later e earlier, h = later ++ e :: earlier → ∀ S, StatusIs e.before.db S .checkedOut →
      StatusIs s.db S .checkedOut ∧ ∀ f ∈ later ++ [e], ∀ key, ¬ HandsOut f S key) ∧
    ∀ e ∈ h, ∀ S key, HandsOut e S key → ∃ db₁ t fresh stay roomId,
      IssuedFor E sk db₁ S t fresh stay roomId key ∧
      db₁.addKey (stayKeyRow stay S roomId t key) = .ok (e.after (handle E)).db ∧
      ∃ a ∈ db₁.assignments, a.active = true ∧ a.stayId = S ∧ a.roomId = roomId := by
  constructor
  · rintro later e earlier rfl S hout
    have hmem {f : ApiEntry} (hf : f ∈ later ++ [e]) : f ∈ later ++ e :: earlier := by
      rw [List.append_cons]
      exact List.mem_append_left earlier hf
    -- no request from `e` on checks the stay in
    have hno : ∀ f ∈ later ++ [e], StatusIs f.before.db S .checkedOut → f.request.1 ≠ .checkin S :=
      fun f hf hf' hreq => hcheckin f (hmem hf) S hreq hf'
    obtain ⟨hlast, hall⟩ := hs.since_before_each (P := fun s => StatusIs s.db S .checkedOut) hout
      fun f hf hf' => handle_keepsCheckedOut hf' (hno f hf hf')
    refine ⟨hlast, fun f hf key hkey => ?_⟩
    obtain ⟨-, -, hans⟩ := hs.of_mem (hmem hf)
    exact notCheckedOut_of_handsOut hans hkey (hno f hf (hall f hf)) (hall f hf)
  · intro e he S key hout
    obtain ⟨later, earlier, rfl⟩ := List.append_of_mem he
    obtain ⟨hbefore, hans⟩ := hs.of_append
    obtain ⟨hhoused, hsame⟩ := housed_invariant.holds hbefore fun f hf =>
      hcheckin f (List.mem_append_right later (List.mem_cons_of_mem e hf))
    obtain ⟨db₁, hstate, stay, roomId, hfor, hadd⟩ := handsOut_spec hans hout
    have hhoused₁ := hstate.housed (hhoused S) fun draw hreq =>
      hcheckin e he S (congrArg Prod.fst hreq)
    rw [hsame.propertySk] at hfor
    refine ⟨db₁, _, _, stay, roomId, hfor, hadd, hhoused₁ stay roomId hfor.getStay ?_ hfor.room⟩
    exact fun hst => hstate.notCheckedOut ⟨stay, hfor.getStay, hst⟩

/-- A check-in, a checkout and a refresh: the refresh is refused. -/
def forwardRequests : List (Request × Draw) :=
  sampleRequests ++
    [ (.checkin "s_1", sampleDraw 1000 "" "k1"),
      (.checkout "s_1", sampleDraw 1500 "" ""),
      (.refresh "s_1", sampleDraw 1600 "" "k2") ]

theorem lifecycle_one_way_forward :
    StatusIs (runRequests forwardRequests).2.db "s_1" .checkedOut ∧
      ∀ e ∈ (runRequests forwardRequests).1.take 1, ∀ key, ¬ HandsOut e "s_1" key := by
  have hs := History.of_runAll (handle Env.sample) (AppState.new Env.sample "HILTON-DEMO-001" sampleKey)
    forwardRequests
  have hcheckin : ∀ e ∈ (runRequests forwardRequests).1, RequestOk NotCheckedOut e.before e.request := by
    intro e he S hreq hout
    rcases List.mem_cons.mp he with rfl | he
    · cases hreq
    rcases List.mem_cons.mp he with rfl | he
    · cases hreq
    rcases List.mem_cons.mp he with rfl | he
    swap
    · rcases List.mem_cons.mp he with rfl | he
      · cases hreq
      obtain rfl := List.mem_singleton.mp he
      cases hreq
    -- the one check-in: the stay is reserved
    cases hreq
    have hstatus : StatusIs (runRequests sampleRequests).2.db "s_1" .reserved :=
      ⟨⟨"s_1", "g_1", "HILTON-DEMO-001", "king", some 101, 1000, 2000, .reserved⟩, by decide, rfl⟩
    cases hstatus.unique hout
  exact (lifecycle_one_way hs hcheckin).1 [] _ _ rfl "s_1"
    ⟨{ sampleStay with status := .checkedOut }, by decide, rfl⟩

/-- A check-in after the checkout: the stay is checked in again and gets a
key, for a room it no longer holds. -/
theorem checkin_reopens_stay :
    ¬ ∀ (h later earlier : List ApiEntry) (e : ApiEntry) (s : AppState) (S : String),
      ApiHistory Env.sample "HILTON-DEMO-001" sampleKey h s → h = later ++ e :: earlier →
      StatusIs e.before.db S .checkedOut →
      StatusIs s.db S .checkedOut ∧ ∀ f ∈ later ++ [e], ∀ key, ¬ HandsOut f S key := by
  intro hclaim
  have hs := History.of_runAll (handle Env.sample) (AppState.new Env.sample "HILTON-DEMO-001" sampleKey)
    (sampleRequests ++ [(.checkin "s_1", sampleDraw 1000 "" "k1"),
      (.checkout "s_1", sampleDraw 1500 "" ""), (.checkin "s_1", sampleDraw 1600 "" "k2")])
  obtain ⟨hout, -⟩ := hclaim _ [] _ _ _ "s_1" hs rfl
    ⟨{ sampleStay with status := .checkedOut }, by decide, rfl⟩
  have hagain : StatusIs (runRequests (sampleRequests ++ [(.checkin "s_1", sampleDraw 1000 "" "k1"),
      (.checkout "s_1", sampleDraw 1500 "" ""), (.checkin "s_1", sampleDraw 1600 "" "k2")])).2.db "s_1"
      .checkedIn := ⟨sampleStay, by decide, rfl⟩
  cases hagain.unique hout

end StayKey.Service
