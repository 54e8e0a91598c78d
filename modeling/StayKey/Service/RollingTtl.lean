/-
StayKey.Service.RollingTtl — how long a key may last that is handed out now.

The window of a key ends with the TTL, counted from the time of the call
that issues it. Check-in and refresh take that time from the server clock.
The body of a room change may name another, and with a later one it gets a
key that lasts longer (`Outlives`, `room_change_outlives_ttl`). Every other
key ends within the TTL of the clock (`ttl_binds`).
-/
import StayKey.Service.EarlyKeys

namespace StayKey.Service

open StayKey.Codec StayKey.Door StayKey.Store StayKey.Program

variable {E : Env} {sk : PrivateKey} {propertyId : String} {h : List ApiEntry} {s : AppState} {S : String}

/-- The key ends within the TTL of the clock its request read. -/
def WithinTtl (e : ApiEntry) (key : IssuedKey) : Prop :=
  ∃ f, Carries key.payload f ∧ f.validUntil ≤ e.request.2.clock + keyTtlSeconds

/-- The request moves an open stay that goes on for longer than the TTL, at
a time its body sets later than the clock; there is a room to move to, and
a key can be issued. -/
def Outlives (db : Db) (r : Request × Draw) : Prop :=
  ∃ S body stay now, r.1 = .roomChange S body ∧ body.now = some now ∧ r.2.clock < now ∧
    db.getStay S = some stay ∧ stay.status ≠ .checkedOut ∧ HasAlternative db stay body.newRoomId ∧
    stay.checkIn < min stay.checkOut (now + keyTtlSeconds) ∧
    r.2.clock + keyTtlSeconds < stay.checkOut

/-! ## One request -/

/-- A stay that was moved had a room to move to. -/
theorem hasAlternative_of_move {db db₁ : Db} {stay : StayRow} {now newRoom : Int} {newRoomId : Option Int}
    (hs : db.getStay S = some stay)
    (hmove : exec (.changeTransaction S stay newRoomId) (dropKeys db S now "room_change") = (.ok newRoom, db₁)) :
    HasAlternative db stay newRoomId := by
  obtain ⟨-, halternative⟩ | ⟨⟨msg, hraised⟩, -⟩ := changeTransaction_dropKeys hs now newRoomId
  · exact halternative
  · rw [hraised] at hmove
    cases hmove

/-- A key is within the TTL when the end of its window is. -/
theorem withinTtl_iff_of_carries {e : ApiEntry} {key : IssuedKey} {f : Fields} (hf : Carries key.payload f) :
    WithinTtl e key ↔ f.validUntil ≤ e.request.2.clock + keyTtlSeconds := by
  constructor
  · rintro ⟨g, hg, hend⟩
    rwa [hf.unique hg]
  · exact fun hend => ⟨f, hf, hend⟩

/-- The clipped end is beyond the TTL of the clock when the override is later
than the clock and the stay goes on for longer. -/
theorem clipped_end_le_iff (override : Option Int) (clock checkOut : Int) :
    min checkOut (nowOr override clock + keyTtlSeconds) ≤ clock + keyTtlSeconds ↔
      ∀ now, override = some now → clock < now → checkOut ≤ clock + keyTtlSeconds := by
  rw [min_le_iff]
  cases override with
  | none => exact iff_of_true (.inr le_rfl) nofun
  | some now =>
    simp only [nowOr, Option.getD_some, Option.some.injEq, forall_eq']
    omega

/-- **A key that is handed out** ends within the TTL exactly when its request
is not an outliving one. -/
theorem withinTtl_iff {e : ApiEntry} {key : IssuedKey} (hans : e.answer = (handle E e.request e.before).1)
    (hout : HandsOut e S key) : WithinTtl e key ↔ ¬ Outlives e.before.db e.request := by
  obtain ⟨db₁, hstate, stay₁, room, hfor, -⟩ := handsOut_spec hans hout
  rw [withinTtl_iff_of_carries hfor.carries]
  -- the end of the window that was issued
  change min stay₁.checkOut (issueTime e.request + keyTtlSeconds) ≤ e.request.2.clock + keyTtlSeconds ↔ _
  have hwindow := hfor.window
  have hext := hstate.extends
  obtain ⟨before, ⟨req, draw⟩, ans⟩ := e
  cases hstate with
  | checkin | refresh =>
    refine iff_of_true (min_le_right ..) ?_
    rintro ⟨S', body, stay, now, hreq, -⟩
    cases hreq
  | @roomChange body draw stay now newRoom _ hs hst hmove =>
    obtain ⟨stay', hs', hbook⟩ := hext.stays S stay hs
    obtain rfl : stay₁ = stay' := Option.some.inj (hfor.getStay.symm.trans hs')
    rw [hbook.checkIn, hbook.checkOut] at hwindow
    rw [hbook.checkOut]
    refine (clipped_end_le_iff body.now draw.clock stay.checkOut).trans ?_
    constructor
    · rintro hshort ⟨S', body', stay', later, hreq, hnow, hlater, hget, -, -, -, hlong⟩
      cases hreq
      obtain rfl := Option.some.inj (hs.symm.trans hget)
      exact absurd (hshort later hnow hlater) (not_le.mpr hlong)
    · intro hno later hnow hlater
      by_contra hlong
      have hissue : issueTime (.roomChange S body, draw) = later := by
        rw [show issueTime (.roomChange S body, draw) = nowOr body.now draw.clock from rfl, hnow]
        rfl
      refine hno ⟨S, body, stay, later, rfl, hnow, hlater, hs, hst, hasAlternative_of_move hs hmove, ?_,
        not_le.mp hlong⟩
      rwa [hissue] at hwindow

/-! ## Runs -/

/-- **The TTL binds** every run without an outliving request: a key that is
handed out ends within it. And where a key does not, its request was one. -/
theorem ttl_binds (hs : ApiHistory E propertyId sk h s) :
    ((∀ e ∈ h, ¬ Outlives e.before.db e.request) →
      ∀ e ∈ h, ∀ S key, HandsOut e S key → WithinTtl e key) ∧
    ∀ e ∈ h, ∀ S key, HandsOut e S key → (WithinTtl e key ↔ ¬ Outlives e.before.db e.request) := by
  have hiff : ∀ e ∈ h, ∀ S key, HandsOut e S key →
      (WithinTtl e key ↔ ¬ Outlives e.before.db e.request) := by
    intro e he S key hout
    obtain ⟨-, -, hans⟩ := hs.of_mem he
    exact withinTtl_iff hans hout
  exact ⟨fun hok e he S key hout => (hiff e he S key hout).mpr (hok e he), hiff⟩

/-! ## A long stay -/

/-- A stay of a week and two rooms for it. -/
def longStayRequests : List (Request × Draw) :=
  [ (.createRoom sampleRoom, sampleDraw 900 "" ""),
    (.createRoom { sampleRoom with roomId := 102, number := "102", roomIdPos := by decide,
                                   numberLength := by decide }, sampleDraw 900 "" ""),
    (.reserve { sampleReservation with checkOut := 605800, checkOutPos := by decide, window := by decide },
      sampleDraw 900 "1" ""),
    (.checkin "s_1", sampleDraw 1000 "" "k1") ]

/-- The check-in of the long stay. -/
abbrev longStayCheckin : ApiEntry :=
  .of (handle Env.sample) (.checkin "s_1", sampleDraw 1000 "" "k1") (runRequests (longStayRequests.take 3)).2

theorem ttl_binds_long_stay : ∃ key, HandsOut longStayCheckin "s_1" key ∧ WithinTtl longStayCheckin key := by
  have hs := History.of_runAll (handle Env.sample) (AppState.new Env.sample "HILTON-DEMO-001" sampleKey)
    longStayRequests
  obtain ⟨key, hout⟩ := handsOut_of_answeredKey? (E := Env.sample) (e := longStayCheckin) (S := "s_1")
    (by decide +kernel) (.inl rfl) rfl
  refine ⟨key, hout, ((ttl_binds hs).2 _ (.head _) "s_1" key hout).mpr ?_⟩
  rintro ⟨S', body, stay, now, hreq, -⟩
  cases hreq

/-- A room change of that stay whose body sets the time five days ahead. -/
abbrev longRoomChange : ApiEntry :=
  .of (handle Env.sample) (.roomChange "s_1" ⟨some 433000, none⟩, sampleDraw 1000 "" "k2")
    (runRequests longStayRequests).2

/-- The end of the window of the key a room change answered with. -/
def movedKeyEnd? (e : ApiEntry) : Option Int :=
  match e.answer with
  | .ok (.roomChanged _ _ key) =>
    match dictGet? key.payload (py "valid_until") with
    | some (.int n) => some n
    | _ => none
  | _ => none

theorem movedKeyEnd?_some {e : ApiEntry} {n : Int} (hend : movedKeyEnd? e = some n) :
    ∃ newRoom revoked key, e.answer = .ok (.roomChanged newRoom revoked key) ∧
      dictGet? key.payload (py "valid_until") = some (.int n) := by
  unfold movedKeyEnd? at hend
  split at hend
  · rename_i newRoom revoked key hans
    split at hend
    · rename_i m hm
      obtain rfl := Option.some.inj hend
      exact ⟨newRoom, revoked, key, hans, hm⟩
    · cases hend
  · cases hend

/-- Its key outlasts the TTL by as much. -/
theorem room_change_outlives_ttl :
    ¬ ∀ (h : List ApiEntry) (s : AppState), ApiHistory Env.sample "HILTON-DEMO-001" sampleKey h s →
      ∀ e ∈ h, ∀ S key, HandsOut e S key → WithinTtl e key := by
  intro hclaim
  have hs := History.of_runAll (handle Env.sample) (AppState.new Env.sample "HILTON-DEMO-001" sampleKey)
    (longStayRequests ++ [(.roomChange "s_1" ⟨some 433000, none⟩, sampleDraw 1000 "" "k2")])
  have hend : movedKeyEnd? longRoomChange = some 519400 := by decide +kernel
  obtain ⟨newRoom, revoked, key, hans, huntil⟩ := movedKeyEnd?_some hend
  have hout : HandsOut longRoomChange "s_1" key := .inr ⟨_, newRoom, revoked, rfl, hans⟩
  obtain ⟨f, hf, hwithin⟩ := hclaim _ _ hs longRoomChange (.head _) "s_1" key hout
  rw [hf.validUntil, Option.some.injEq, Json.int.injEq] at huntil
  rw [huntil] at hwithin
  exact absurd hwithin (by decide)

end StayKey.Service
