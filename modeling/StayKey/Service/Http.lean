/-
StayKey.Service.Http — `api.py`: what a client sees.

A request is answered with a status code and the envelope `{ok, data,
error}`. The data of a success is JSON; an exception of the domain is
answered by the handler registered for its class, and any other exception
escapes to the server, which answers 500 without an envelope.

Which requests are refused, and with which code, is decided by the front
desk of `Service.Desk` alone: `Refuses` reads it off the desk before the
request, and `status_exact` says that the service does exactly that, in
every reachable state. A 404 leaves the whole application as it was
(`notFound_changes_nothing`).
-/
import StayKey.Service.DeskRefinement

namespace StayKey.Service

open StayKey.Codec StayKey.Door StayKey.Store StayKey.Program

/-! ## Envelopes -/

/-- `models.Envelope`. -/
structure Envelope where
  ok : Bool
  data : Option Json
  error : Option String

/-- `_ok`. -/
def okEnvelope (data : Json) : Envelope := ⟨true, some data, none⟩

def errorEnvelope (error : String) : Envelope := ⟨false, none, some error⟩

/-- A response with an envelope, or the server's answer to an exception that
escaped. -/
inductive Response where
  | envelope (status : Nat) (body : Envelope)
  | serverError

/-- The exception handlers of `create_app`: Starlette takes the one that is
registered for the nearest class, and every domain error is a
`StayKeyError`. -/
def handlerStatus : Exc → Option Nat
  | .notFound _ => some 404
  | .roomUnavailable _ => some 409
  | .validation _ => some 400
  | .stayKey _ => some 400
  | .py _ | .integrityError => none

/-- `str(exc)` of a domain error. -/
def errorText : Exc → String
  | .notFound msg | .roomUnavailable msg | .validation msg | .stayKey msg => msg
  | .py _ | .integrityError => ""

/-! ## The data of a success -/

def jsonText (s : String) : Json := .str (py s)

def jsonTexts (l : List String) : Json := .arr (l.map jsonText)

def jsonRoom : Option Int → Json
  | some roomId => .int roomId
  | none => .null

/-- `DenyReason.value`. -/
def DenyReason.value : DenyReason → String
  | .forgedSignature => "forged_signature"
  | .tamperedPayload => "tampered_payload"
  | .wrongProperty => "wrong_property"
  | .wrongRoom => "wrong_room"
  | .notYetValid => "not_yet_valid"
  | .expired => "expired"
  | .revoked => "revoked"
  | .unknownChallenge => "unknown_challenge"
  | .replayed => "replayed"
  | .badResponse => "bad_response"
  | .malformed => "malformed"
  | .notActiveStay => "not_active_stay"
  | .badCommand => "bad_command"

/-- `UnlockOutcome.value`. -/
def UnlockOutcome.value : UnlockOutcome → String
  | .unlock => "unlock"
  | .deny => "deny"

/-- `_decision_payload`. -/
def decisionPayload (d : Decision) : JsonDict :=
  [ (py "outcome", jsonText (UnlockOutcome.value d.outcome)),
    (py "unlocked", .bool d.unlocked),
    (py "reason", match d.reason with
      | some reason => jsonText (DenyReason.value reason)
      | none => .null),
    (py "key_id", match d.keyId with
      | some keyId => .str keyId
      | none => .null) ]

/-- `_key_payload`; the three fields of the payload are always there
(`IssuedKey` comes from `issue_credential`). -/
def keyPayload (issued : IssuedKey) : JsonDict :=
  let field (k : String) : Json := (dictGet? issued.payload (py k)).getD .null
  [ (py "key_id", jsonText issued.keyId),
    (py "token", .str issued.token),
    (py "device_sk_b64", .str issued.deviceSkB64),
    (py "valid_from", field "valid_from"),
    (py "valid_until", field "valid_until"),
    (py "room_ids", field "room_ids") ]

/-- What the handlers pass to `_ok`. -/
def answerData : Answer → JsonDict
  | .guestCreated guestId => [(py "guest_id", jsonText guestId)]
  | .roomCreated roomId => [(py "room_id", .int roomId)]
  | .reserved stayId guestId roomId =>
    [ (py "stay_id", jsonText stayId), (py "guest_id", jsonText guestId),
      (py "room_id", .int roomId) ]
  | .key key => keyPayload key
  | .checkedOut revoked synced =>
    [(py "revoked_key_ids", jsonTexts revoked), (py "synced_room", jsonRoom synced)]
  | .roomChanged newRoomId revoked key =>
    [ (py "new_room_id", .int newRoomId), (py "revoked_key_ids", jsonTexts revoked),
      (py "key", .obj (keyPayload key)) ]
  | .revocations revoked => [(py "revoked_key_ids", jsonTexts revoked)]
  | .challenge challengeB64 => [(py "challenge_b64", .str challengeB64)]
  | .decision d => decisionPayload d
  | .control d command =>
    decisionPayload d ++ [(py "command", jsonText command), (py "applied", .bool d.unlocked)]

/-- The response to what a handler returned or raised. -/
def respond : Except Exc Answer → Response
  | .ok a => .envelope 200 (okEnvelope (.obj (answerData a)))
  | .error e =>
    match handlerStatus e with
    | some status => .envelope status (errorEnvelope (errorText e))
    | none => .serverError

/-- The refusals are the error envelopes. -/
theorem respond_refused_iff {r : Except Exc Answer} {status : Nat} (hne : status ≠ 200) :
    (∃ body, respond r = .envelope status body) ↔ ∃ e, r = .error e ∧ handlerStatus e = some status := by
  cases r with
  | ok a =>
    constructor
    · intro ⟨body, h⟩
      cases h
      exact absurd rfl hne
    · intro ⟨e, h, _⟩
      cases h
  | error e =>
    simp only [respond, Except.error.injEq, exists_eq_left']
    cases handlerStatus e <;> simp

/-! ## Which requests are refused -/

/-- **What the desk refuses, and with which code.** -/
def Desk.Refuses (propertyId : String) (d : Desk) : Request × Draw → Nat → Prop
  | (.reserve body, draw), code =>
    (code = 404 ∧ ∃ guestId, body.guestId = some guestId ∧ guestId ∉ d.guests) ∨
    (code = 400 ∧ body.guestId = none ∧ body.guest = none) ∨
    (code = 409 ∧ d.folios ("s_" ++ draw.stayHex) = none ∧ ∃ guestId d₁,
      d.Greets body draw guestId d₁ ∧ d.Vacant ("s_" ++ draw.stayHex)
        (Desk.newFolio propertyId guestId body) body.preferredRoomId none = ∅)
  | (.checkin stay, draw), code =>
    (code = 404 ∧ d.folios stay = none) ∨
    (code = 400 ∧ d.folios stay ≠ none ∧ ¬ d.Issuable stay draw.clock)
  | (.refresh stay, draw), code =>
    (code = 404 ∧ d.folios stay = none) ∨
    (code = 400 ∧ ∃ f, d.folios stay = some f ∧
      (f.status = .checkedOut ∨ ¬ d.Issuable stay draw.clock))
  | (.checkout stay, _), code => code = 404 ∧ d.folios stay = none
  | (.roomChange stay body, draw), code =>
    (code = 404 ∧ d.folios stay = none) ∨
    (code = 400 ∧ ∃ f, d.folios stay = some f ∧ (f.status = .checkedOut ∨
      (d.Vacant stay f body.newRoomId f.room).Nonempty ∧
        Desk.cardUntil f (nowOr body.now draw.clock) ≤ f.checkIn)) ∨
    (code = 409 ∧ ∃ f, d.InHouse stay f ∧ d.Vacant stay f body.newRoomId f.room = ∅)
  | _, _ => False

/-- The code of a refusal. -/
def refusal? : Except Exc Answer → Option Nat
  | .ok _ => none
  | .error e => handlerStatus e

theorem refusal?_of_unlisted {e : Exc} (h : e.isStayKeyError = false) :
    refusal? (.error e) = none := by
  cases e with
  | py | integrityError => rfl
  | stayKey | roomUnavailable | notFound | validation => cases h

section Steps

variable {E : Env} {sk : PrivateKey} {propertyId : String} {d d₁ d' : Desk} {body : ReservationIn} {draw : Draw} {guestId : String}

/-- A guest who is greeted is neither unknown nor missing. -/
theorem greets_accepted (hgreet : d.Greets body draw guestId d₁) :
    (∀ g, body.guestId = some g → g ∈ d.guests) ∧ (body.guestId = none → body.guest ≠ none) := by
  cases hgreet with
  | known g hbody hin =>
    rw [hbody]
    exact ⟨fun g hg => Option.some.inj hg ▸ hin, nofun⟩
  | new guest hbody hguest hnew =>
    rw [hbody, hguest]
    exact ⟨nofun, fun _ => nofun⟩

/-- A guest is greeted or refused, not both. -/
theorem not_greets {e : Exc} (hfail : d.GreetFails body draw e) :
    ¬ d.Greets body draw guestId d₁ := by
  intro hgreet
  obtain ⟨hknown, hgiven⟩ := greets_accepted hgreet
  cases hfail with
  | unknown g msg hbody hout => exact hout (hknown g hbody)
  | nobody msg hbody hguest => exact hgiven hbody hguest
  | taken guest hbody hguest hin =>
    cases hgreet with
    | known g hbody' => rw [hbody] at hbody'; cases hbody'
    | new guest' hbody' hguest' hnew => exact hnew hin

/-- Who the guest is makes no difference to what is vacant. -/
theorem greets_vacant (hgreet : d.Greets body draw guestId d₁) (guestId' S : String)
    (requested avoid : Option Int) : d₁.Vacant S (Desk.newFolio propertyId guestId body) requested avoid
      = d.Vacant S (Desk.newFolio propertyId guestId' body) requested avoid := by
  cases hgreet <;> rfl

/-- A reservation whose guest is accepted is refused only for want of a room. -/
theorem reserve_refuses_iff (hgreet : d.Greets body draw guestId d₁) (code : Nat) :
    d.Refuses propertyId (.reserve body, draw) code ↔ code = 409 ∧
      d.folios ("s_" ++ draw.stayHex) = none ∧ d₁.Vacant ("s_" ++ draw.stayHex)
        (Desk.newFolio propertyId guestId body) body.preferredRoomId none = ∅ := by
  obtain ⟨hknown, hgiven⟩ := greets_accepted hgreet
  constructor
  · rintro (⟨-, g, hbody, hout⟩ | ⟨-, hbody, hnone⟩ | ⟨hcode, hnew, g, d₂, hgreet', hfull⟩)
    · exact absurd (hknown g hbody) hout
    · exact absurd hnone (hgiven hbody)
    · exact ⟨hcode, hnew, (greets_vacant hgreet g _ _ _).trans hfull⟩
  · intro ⟨hcode, hnew, hfull⟩
    exact .inr (.inr ⟨hcode, hnew, guestId, d₁, hgreet, (greets_vacant hgreet guestId _ _ _).symm.trans hfull⟩)

/-- A card with time left fails to have a key for want of an interpreter
that can write it. -/
theorem makeKey_error {f : Folio} {stay : String} {room now : Int} {fresh : Fresh} {e : Exc}
    (hlt : f.checkIn < Desk.cardUntil f now)
    (hkey : Desk.makeKey E sk f (Desk.newCard f stay room now) now fresh = .error e) :
    e.isStayKeyError = false := by
  rw [Desk.makeKey, issueCredential] at hkey
  split at hkey
  · rename_i hle
    exact absurd hle (not_le.mpr hlt)
  split at hkey <;> cases hkey
  rfl

/-- Issuing fails with 400 where the desk refuses, and with no envelope else. -/
theorem refusal?_of_cutFails {stay : String} {now : Int} {fresh : Fresh} {e : Exc}
    (hfail : d.CutFails E sk stay now fresh e) (code : Nat) :
    refusal? (.error e) = some code ↔ code = 400 ∧ ¬ d.Issuable stay now := by
  by_cases hissuable : d.Issuable stay now
  · have hunlisted : e.isStayKeyError = false := by
      obtain ⟨f, room, hf, hroom, hlt⟩ := hissuable
      obtain hkey | ⟨-, rfl⟩ := hfail.raised f room hf hroom hlt
      · exact makeKey_error hlt hkey
      · rfl
    rw [refusal?_of_unlisted hunlisted]
    simp [hissuable]
  · obtain ⟨msg, rfl⟩ := hfail.refused hissuable
    simp [refusal?, handlerStatus, hissuable, eq_comm]

theorem issuable_of_cuts {stay : String} {now : Int} {fresh : Fresh} {key : IssuedKey}
    (hcut : d.Cuts E sk stay now fresh key d') : d.Issuable stay now := by
  obtain ⟨f, room, hf, hroom, hlt, -⟩ := hcut.card
  exact ⟨f, room, hf, hroom, hlt⟩

/-- The status of a stay makes no difference to its keys. -/
theorem issuable_setStatus {stay : String} {status : StayStatus} {now : Int} :
    (d.setStatus stay status).Issuable stay now ↔ d.Issuable stay now := by
  constructor
  · intro ⟨f, room, hf, hroom, hlt⟩
    obtain ⟨g, hg, rfl⟩ := Option.map_eq_some_iff.mp (Desk.folios_amend.symm.trans hf)
    rw [if_pos rfl] at hroom hlt
    exact ⟨g, room, hg, hroom, hlt⟩
  · intro ⟨f, room, hf, hroom, hlt⟩
    refine ⟨{ f with status }, room, ?_, hroom, hlt⟩
    rw [Desk.setStatus, Desk.folios_amend, hf, Option.map_some, if_pos rfl]

/-- A stay that was given a room can be issued a key while there is time. -/
theorem issuable_house {stay : String} {f : Folio} (hf : d.folios stay = some f) {room now : Int} :
    (d.house stay f room).Issuable stay now ↔ f.checkIn < Desk.cardUntil f now := by
  have hself : (d.house stay f room).folios stay = some { f with room := some room } := by
    simp [Desk.house, Desk.amend, Desk.vacate, hf]
  constructor
  · intro hissuable
    obtain ⟨g, r, hg, hr, hlt⟩ := hissuable
    rw [hself] at hg
    cases hg
    exact hlt
  · intro hlt
    exact ⟨_, room, hself, rfl, hlt⟩

/-- A move of a guest in the house is refused for want of time or of a room. -/
theorem roomChange_refuses_iff {stay : String} {f : Folio} (hopen : d.InHouse stay f)
    {body : RoomChangeIn} (code : Nat) : d.Refuses propertyId (.roomChange stay body, draw) code ↔
      (code = 400 ∧ (d.Vacant stay f body.newRoomId f.room).Nonempty ∧
        Desk.cardUntil f (nowOr body.now draw.clock) ≤ f.checkIn) ∨
      code = 409 ∧ d.Vacant stay f body.newRoomId f.room = ∅ := by
  obtain ⟨hf, hstatus⟩ := hopen
  simp [Desk.Refuses, Desk.InHouse, hf, hstatus]

/-- A step of the desk refuses what the desk refuses. -/
theorem step_refuses_iff {r : Request × Draw} {answer : Except Exc Answer}
    (hstep : Desk.Step E sk propertyId (r, answer) d d') (code : Nat) :
    refusal? answer = some code ↔ d.Refuses propertyId r code := by
  cases hstep with
  | guestCreated | guestTaken | roomCreated | roomTaken | listed | unlockAnswered | controlAnswered =>
    simp [refusal?, handlerStatus, Desk.Refuses]
  | challenged req draw hreq =>
    obtain rfl | rfl := hreq <;> simp [refusal?, Desk.Refuses]
  | unanswered req draw hreq =>
    obtain ⟨body, rfl⟩ | ⟨body, rfl⟩ := hreq <;> simp [refusal?, handlerStatus, Desk.Refuses]
  | reserved body draw hgreet hnew hroom =>
    rw [reserve_refuses_iff hgreet]
    refine iff_of_false nofun fun ⟨_, _, hfull⟩ => ?_
    rw [hfull] at hroom
    exact hroom.1
  | reservedNoRoom body draw hgreet hnew hfull =>
    rw [reserve_refuses_iff hgreet]
    simp [refusal?, handlerStatus, hnew, hfull, eq_comm]
  | stayTaken body draw hgreet hin =>
    rw [reserve_refuses_iff hgreet]
    simp [refusal?, handlerStatus, hin]
  | notGreeted body draw hfail =>
    have hno (g : String) (d₁ : Desk) : ¬ d.Greets body draw g d₁ := not_greets hfail
    cases hfail with
    | unknown guestId msg hbody hout =>
      simp [refusal?, handlerStatus, Desk.Refuses, hno, hbody, hout, eq_comm]
    | nobody msg hbody hguest =>
      simp [refusal?, handlerStatus, Desk.Refuses, hno, hbody, hguest, eq_comm]
    | taken guest hbody hguest hin =>
      simp [refusal?, handlerStatus, Desk.Refuses, hno, hbody, hguest]
  | arrived stay draw hin hcut =>
    have hissuable := issuable_setStatus.mp (issuable_of_cuts hcut)
    simp [refusal?, Desk.Refuses, hin, hissuable]
  | arrivedNoKey stay draw hin hfail =>
    rw [refusal?_of_cutFails hfail, issuable_setStatus]
    simp [Desk.Refuses, hin]
  | renewed stay draw hopen hcut =>
    have hissuable : (d.settle stay .lapsed).Issuable stay draw.clock := issuable_of_cuts hcut
    have hissuable : d.Issuable stay draw.clock := hissuable
    simp [refusal?, Desk.Refuses, hopen.1, hopen.2, hissuable]
  | renewedNoKey stay draw hopen hfail =>
    have hsame : (d.settle stay .lapsed).Issuable stay draw.clock ↔ d.Issuable stay draw.clock := Iff.rfl
    rw [refusal?_of_cutFails hfail, hsame]
    simp [Desk.Refuses, hopen.1, hopen.2]
  | left stay draw hfolio hkeys => simp [refusal?, Desk.Refuses, hfolio]
  | moved stay body draw hopen hkeys hroom hcut =>
    have hsettled : (d.settle stay .revoked).folios stay = some _ := hopen.1
    have hlt := (issuable_house hsettled).mp (issuable_of_cuts hcut)
    rw [roomChange_refuses_iff hopen]
    simp [refusal?, hlt, hroom.nonempty.ne_empty]
  | movedNoKey stay body draw hopen hroom hfail =>
    have hsettled : (d.settle stay .revoked).folios stay = some _ := hopen.1
    rw [refusal?_of_cutFails hfail, issuable_house hsettled, roomChange_refuses_iff hopen]
    simp [hroom.nonempty, hroom.nonempty.ne_empty]
  | moveNoRoom stay body draw hopen hfull =>
    rw [roomChange_refuses_iff hopen]
    simp [refusal?, handlerStatus, hfull, eq_comm]
  | unknownStay req draw hreq hnone =>
    obtain rfl | rfl | rfl | ⟨body, rfl⟩ := hreq <;>
      simp [refusal?, handlerStatus, Desk.Refuses, hnone, Desk.InHouse, eq_comm]
  | alreadyLeft req draw hreq hfolio hout =>
    obtain rfl | ⟨body, rfl⟩ := hreq <;>
      simp [refusal?, handlerStatus, Desk.Refuses, hfolio, hout, Desk.InHouse, eq_comm]

end Steps

/-- **Every refusal is decided by the desk**: in every state reachable by
requests and for every request, whatever it draws, the service answers with
an error envelope of a code exactly if the desk before the request refuses
it with that code. -/
theorem status_exact {E : Env} {propertyId : String} {sk : PrivateKey} {h : List ApiEntry} {s : AppState}
    (hs : ApiHistory E propertyId sk h s) (r : Request × Draw) {code : Nat} (hne : code ≠ 200) :
    (∃ body, respond (handle E r s).1 = .envelope code body) ↔
      (deskOf s.db).Refuses propertyId r code := by
  have hdesk := ((desk_refines E propertyId sk).run hs).1
  rw [← step_refuses_iff ((desk_refines E propertyId sk).step s r hdesk) code, respond_refused_iff hne]
  cases (handle E r s).1 with
  | ok a => simp [refusal?]
  | error e => simp [refusal?]

/-- The only room is taken: a second reservation is a 409, which the desk
could tell beforehand. -/
theorem status_exact_full :
    (∃ body, respond (handle Env.sample (.reserve sampleReservation, ⟨950, "2", "2", sampleFresh, []⟩)
        (runRequests sampleRequests).2).1 = .envelope 409 body) ∧
      (deskOf (runRequests sampleRequests).2.db).Refuses "HILTON-DEMO-001"
        (.reserve sampleReservation, ⟨950, "2", "2", sampleFresh, []⟩) 409 := by
  have hs : ApiHistory Env.sample "HILTON-DEMO-001" sampleKey _ (runRequests sampleRequests).2 :=
    History.of_runAll _ _ sampleRequests
  have hrefused : ∃ body, respond (handle Env.sample
      (.reserve sampleReservation, ⟨950, "2", "2", sampleFresh, []⟩)
        (runRequests sampleRequests).2).1 = .envelope 409 body := ⟨_, rfl⟩
  have hne : 409 ≠ 200 := by decide
  exact ⟨hrefused, (status_exact hs _ hne).mp hrefused⟩

/-! ## What is not there -/

/-- What a 404 says. -/
def missingText : Request → String
  | .reserve body =>
    let guestId := body.guestId.getD ""
    s!"guest {guestId} not found"
  | .checkin stayId | .refresh stayId | .checkout stayId | .roomChange stayId _ =>
    s!"stay {stayId} not found"
  | _ => ""

/-- A program that first reads a stay that is missing. -/
theorem run_missing_stay {α : Type} {db : Db} {S : String} (hnone : db.getStay S = none)
    {c : Call α} {f : StayRow → Call α}
    (hc : c = Stmt.call (.getStay S) >>= fun
      | none => raise (.notFound s!"stay {S} not found")
      | some stay => f stay) :
    c.run db = (.error (.notFound s!"stay {S} not found"), db) := by
  rw [hc, run_getStay_bind, hnone]
  rfl

/-- A request on a stay that is missing changes nothing. -/
theorem handle_missing_stay {E : Env} {s : AppState} {S : String} (hnone : s.db.getStay S = none)
    {r : Request} (hr : r = .checkin S ∨ r = .refresh S ∨ r = .checkout S ∨ ∃ body, r = .roomChange S body)
    (draw : Draw) : handle E (r, draw) s = (.error (.notFound (missingText r)), s) := by
  obtain rfl | rfl | rfl | ⟨body, rfl⟩ := hr
  · have hrun := run_missing_stay hnone
      (c := Store.checkin E s.propertySk S (nowOr none draw.clock) draw.fresh) rfl
    simp only [handle, AppState.run, hrun]
    rfl
  · have hrun := run_missing_stay hnone
      (c := Store.refreshKey E s.propertySk S (nowOr none draw.clock) draw.fresh) rfl
    simp only [handle, AppState.run, hrun]
    rfl
  · have hrun := run_missing_stay hnone (c := checkoutRequest S (nowOr none draw.clock)) rfl
    simp only [handle, AppState.run, hrun]
    rfl
  · have hrun := run_missing_stay hnone
      (c := roomChangeRequest E s.propertySk S (nowOr body.now draw.clock) body.newRoomId draw.fresh) rfl
    simp only [handle, AppState.run, hrun]
    rfl

/-- A reservation for a guest who is missing changes nothing. -/
theorem handle_missing_guest {E : Env} {s : AppState} {body : ReservationIn} {guestId : String}
    (hbody : body.guestId = some guestId) (hout : guestId ∉ (deskOf s.db).guests) (draw : Draw) :
    handle E (.reserve body, draw) s = (.error (.notFound (missingText (.reserve body))), s) := by
  have hfound : ¬ (s.db.guests.find? guestId).isSome = true := hout
  have hguest : (reservationGuest body draw).run s.db
      = (.error (.notFound s!"guest {guestId} not found"), s.db) := by
    simp only [reservationGuest, hbody]
    rw [run_stmt_bind, exec]
    simp only [if_neg hfound]
    rfl
  have hrun : (reserve s.propertyId body draw).run s.db
      = (.error (.notFound s!"guest {guestId} not found"), s.db) := by
    rw [reserve, run_bind, hguest]
  simp only [handle, AppState.run, hrun, missingText, hbody, Option.getD_some]
  rfl

/-- **A 404 changes nothing**, in the tables, the locks or the challenges, and
says what is missing. -/
theorem notFound_changes_nothing {E : Env} {propertyId : String} {sk : PrivateKey} {h : List ApiEntry}
    {s : AppState} (hs : ApiHistory E propertyId sk h s) {r : Request × Draw} {body : Envelope}
    (h404 : respond (handle E r s).1 = .envelope 404 body) :
    (handle E r s).2 = s ∧ body = errorEnvelope (missingText r.1) := by
  have hne : 404 ≠ 200 := by decide
  have hrefused := (status_exact hs r hne).mp ⟨body, h404⟩
  have hhandled : handle E r s = (.error (.notFound (missingText r.1)), s) := by
    obtain ⟨req, draw⟩ := r
    cases req with
    | reserve body =>
      obtain ⟨-, guestId, hbody, hout⟩ | ⟨hcode, -⟩ | ⟨hcode, -⟩ := hrefused
      · exact handle_missing_guest hbody hout draw
      · cases hcode
      · cases hcode
    | checkin stayId =>
      obtain ⟨-, hnone⟩ | ⟨hcode, -⟩ := hrefused
      · exact handle_missing_stay (folios_eq_none_iff.mp hnone) (.inl rfl) draw
      · cases hcode
    | refresh stayId =>
      obtain ⟨-, hnone⟩ | ⟨hcode, -⟩ := hrefused
      · exact handle_missing_stay (folios_eq_none_iff.mp hnone) (.inr (.inl rfl)) draw
      · cases hcode
    | checkout stayId =>
      exact handle_missing_stay (folios_eq_none_iff.mp hrefused.2) (.inr (.inr (.inl rfl))) draw
    | roomChange stayId body =>
      obtain ⟨-, hnone⟩ | ⟨hcode, -⟩ | ⟨hcode, -⟩ := hrefused
      · exact handle_missing_stay (folios_eq_none_iff.mp hnone) (.inr (.inr (.inr ⟨body, rfl⟩))) draw
      · cases hcode
      · cases hcode
    | createGuest | createRoom | revocations | lockChallenge | lockUnlock | roomChallenge | roomControl =>
      exact hrefused.elim
  rw [hhandled] at h404 ⊢
  cases h404
  exact ⟨rfl, rfl⟩

/-- Nobody has reserved: a checkout is a 404. -/
theorem notFound_changes_nothing_empty :
    (handle Env.sample (.checkout "s_9", sampleDraw 900 "" "") (runRequests sampleRequests).2).2
        = (runRequests sampleRequests).2 ∧
      errorEnvelope "stay s_9 not found" = errorEnvelope (missingText (.checkout "s_9")) := by
  have hs : ApiHistory Env.sample "HILTON-DEMO-001" sampleKey _ (runRequests sampleRequests).2 :=
    History.of_runAll _ _ sampleRequests
  exact notFound_changes_nothing hs (r := (.checkout "s_9", sampleDraw 900 "" "")) rfl

end StayKey.Service
