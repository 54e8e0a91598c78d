/-
StayKey.Service.Desk — what the front desk is for.

The abstract model of the service: guests, rooms, a folio for each stay, a
calendar that says who has which room when, and a card for each key. Two
bookings of one room at one time cannot be written down, and neither can a
key that is live and revoked at once. There are no tables, no flags and no
row ids, no tokens and no order of statements.

`Step` says what each request may be answered and what the desk looks like
afterwards. This includes the requests that fail after they have begun: a
reservation without a free room leaves its folio open, a check-in that
cannot issue a key leaves the guest checked in, and a move that fails has
revoked the keys. A key that is handed out is the credential of the card
that was cut for it, and the doors open to no key that the desk has taken
back.

That the service behaves so is `Service.DeskRefinement`; what is always so
at a desk is `Service.DeskTheorems`.
-/
import Mathlib.Data.Int.ConditionallyCompleteOrder
import Mathlib.Logic.Function.Basic
import Mathlib.Order.Bounds.Basic
import StayKey.Program.Calendar
import StayKey.Program.Refinement
import StayKey.Service.Api

namespace StayKey.Service

open StayKey.Codec StayKey.Door StayKey.Store StayKey.Program

/-! ## The desk -/

/-- What the desk knows of a room. -/
structure RoomKind where
  property : String
  roomType : String
  deriving DecidableEq

/-- What the desk knows of a stay. -/
structure Folio where
  guest : String
  property : String
  roomType : String
  room : Option Int
  checkIn : Int
  checkOut : Int
  status : StayStatus
  deriving DecidableEq

/-- The times of a stay. -/
def Folio.window (f : Folio) : Set Int := Set.Ico f.checkIn f.checkOut

/-- A key is live until it is replaced (lapsed) or taken back (revoked). -/
inductive CardState where
  | live
  | lapsed
  | revoked
  deriving DecidableEq

structure Card where
  stay : String
  room : Int
  validFrom : Int
  validUntil : Int
  state : CardState
  deriving DecidableEq

@[ext]
structure Desk where
  guests : Set String
  rooms : Int → Option RoomKind
  folios : String → Option Folio
  calendar : Calendar Int Int String
  cards : String → Option Card

namespace Desk

variable (E : Env) (sk : PrivateKey)

/-- The desk on its first day. -/
def opening : Desk := ⟨∅, fun _ => none, fun _ => none, .empty, fun _ => none⟩

/-! ## What can be done -/

def welcome (d : Desk) (guest : String) : Desk := { d with guests := insert guest d.guests }

def enrol (d : Desk) (room : Int) (kind : RoomKind) : Desk :=
  { d with rooms := Function.update d.rooms room (some kind) }

def openFolio (d : Desk) (stay : String) (f : Folio) : Desk :=
  { d with folios := Function.update d.folios stay (some f) }

/-- Change the folio of a stay, if there is one. -/
def amend (d : Desk) (stay : String) (change : Folio → Folio) : Desk :=
  { d with folios := fun S => (d.folios S).map fun f => if S = stay then change f else f }

def setStatus (d : Desk) (stay : String) (status : StayStatus) : Desk :=
  d.amend stay fun f => { f with status }

/-- Take the room from a stay; its folio still names it. -/
noncomputable def vacate (d : Desk) (stay : String) : Desk :=
  { d with calendar := d.calendar.release stay }

/-- Give a room to a stay, in place of the one it has. -/
noncomputable def house (d : Desk) (stay : String) (f : Folio) (room : Int) : Desk :=
  { (d.vacate stay).amend stay fun f => { f with room := some room } with
    calendar := (d.calendar.release stay).book stay room f.window }

/-- The live cards of a stay become lapsed, or revoked. -/
def settle (d : Desk) (stay : String) (state : CardState) : Desk :=
  { d with
    cards := fun k => (d.cards k).map fun c =>
      if c.stay = stay ∧ c.state = .live then { c with state } else c }

/-- Hand out a card. -/
def cut (d : Desk) (keyId : String) (card : Card) : Desk :=
  { d with cards := Function.update d.cards keyId (some card) }

/-! ## When it can be done -/

/-- The keys a stay could use now. -/
def Live (d : Desk) (stay : String) (keyId : String) : Prop :=
  ∃ c, d.cards keyId = some c ∧ c.stay = stay ∧ c.state = .live

def Revoked (d : Desk) (keyId : String) : Prop := ∃ c, d.cards keyId = some c ∧ c.state = .revoked

/-- A room the stay may be given: the one asked for, of the stay's property,
or any of its type but the one to avoid. -/
def Candidate (d : Desk) (f : Folio) (requested avoid : Option Int) (room : Int) : Prop :=
  ∃ kind, d.rooms room = some kind ∧ kind.property = f.property ∧
    match requested with
    | some r => r = room
    | none => kind.roomType = f.roomType ∧ avoid ≠ some room

/-- The candidates that nobody else has at any time of the stay. -/
def Vacant (d : Desk) (stay : String) (f : Folio) (requested avoid : Option Int) : Set Int :=
  {room | d.Candidate f requested avoid room ∧ (d.calendar.release stay).FreeOn room f.window}

/-- When a key issued at `now` ends. -/
def cardUntil (f : Folio) (now : Int) : Int := min f.checkOut (now + keyTtlSeconds)

/-- A card can be cut: there is a room, and time left. -/
def Issuable (d : Desk) (stay : String) (now : Int) : Prop :=
  ∃ f room, d.folios stay = some f ∧ f.room = some room ∧ f.checkIn < cardUntil f now

/-- The card for a key issued at `now`. -/
def newCard (f : Folio) (stay : String) (room now : Int) : Card :=
  ⟨stay, room, f.checkIn, cardUntil f now, .live⟩

/-- What the key of a card says. -/
def cardCredential (f : Folio) (card : Card) (now : Int) (keyId : String) : CredentialIn where
  guestId := f.guest
  stayId := card.stay
  propertyId := f.property
  roomIds := [card.room]
  validFrom := card.validFrom
  validUntil := card.validUntil
  issuedAt := now
  deviceSk := none
  keyId := some keyId
  nonce := none

/-- Make the key of a card. -/
def makeKey (f : Folio) (card : Card) (now : Int) (fresh : Fresh) : Except Exc IssuedKey :=
  issueCredential E sk (cardCredential f card now fresh.keyId) fresh

/-- A card is cut for the room the stay has, under a new key id, and the key
that is handed out is made for this card. -/
structure Cuts (d : Desk) (stay : String) (now : Int) (fresh : Fresh) (key : IssuedKey) (d' : Desk) :
    Prop where
  keyId : key.keyId = fresh.keyId
  unused : d.cards fresh.keyId = none
  card : ∃ f room, d.folios stay = some f ∧ f.room = some room ∧ f.checkIn < cardUntil f now ∧
    makeKey E sk f (newCard f stay room now) now fresh = .ok key ∧
    d' = d.cut fresh.keyId (newCard f stay room now)

/-- No card is cut. The desk refuses where there is no room or no time left;
else the key could not be made, or there is a card with its id. -/
structure CutFails (d : Desk) (stay : String) (now : Int) (fresh : Fresh) (e : Exc) : Prop where
  refused : ¬ d.Issuable stay now → ∃ msg, e = .validation msg
  raised : ∀ f room, d.folios stay = some f → f.room = some room → f.checkIn < cardUntil f now →
    makeKey E sk f (newCard f stay room now) now fresh = .error e ∨
      d.cards fresh.keyId ≠ none ∧ e = .integrityError

/-- What the desk knows of the answer of a door: it does not open to a key
that was taken back, and a key that is refused as such was. -/
structure Stands (d : Desk) (answer : Decision) : Prop where
  unlocked : answer.unlocked = true → ∃ keyId, answer.keyId = some keyId ∧
    ∀ k, d.Revoked k → keyId ≠ py k
  revoked : answer.reason = some .revoked → ∃ k, d.Revoked k ∧ answer.keyId = some (py k)

/-- Somebody who is checked in has the room. -/
def Occupied (d : Desk) (room : Int) : Prop :=
  ∃ stay f t, d.folios stay = some f ∧ f.status = .checkedIn ∧ f.room = some room ∧
    d.calendar room t = some stay

/-- The stay is there and has not left. -/
def InHouse (d : Desk) (stay : String) (f : Folio) : Prop :=
  d.folios stay = some f ∧ f.status ≠ .checkedOut

/-! ## Requests -/

/-- The guest of a reservation: one that is known, or a new one. -/
inductive Greets (d : Desk) (body : ReservationIn) (draw : Draw) : String → Desk → Prop
  | known (guestId : String) (hbody : body.guestId = some guestId) (hin : guestId ∈ d.guests) :
      Greets d body draw guestId d
  | new (guest : GuestIn) (hbody : body.guestId = none) (hguest : body.guest = some guest)
      (hnew : "g_" ++ draw.guestHex ∉ d.guests) :
      Greets d body draw ("g_" ++ draw.guestHex) (d.welcome ("g_" ++ draw.guestHex))

/-- Why a reservation gets no further than its guest. -/
inductive GreetFails (d : Desk) (body : ReservationIn) (draw : Draw) : Exc → Prop
  | unknown (guestId msg : String) (hbody : body.guestId = some guestId) (hout : guestId ∉ d.guests) :
      GreetFails d body draw (.notFound msg)
  | nobody (msg : String) (hbody : body.guestId = none) (hguest : body.guest = none) :
      GreetFails d body draw (.validation msg)
  | taken (guest : GuestIn) (hbody : body.guestId = none) (hguest : body.guest = some guest)
      (hin : "g_" ++ draw.guestHex ∈ d.guests) : GreetFails d body draw .integrityError

/-- The folio a reservation opens. -/
def newFolio (propertyId guestId : String) (body : ReservationIn) : Folio :=
  ⟨guestId, propertyId, body.roomType, none, body.checkIn, body.checkOut, .reserved⟩

/-- **What the desk does with a request**, of the property `propertyId`. The
doors are asked without the desk: it stays as it is. -/
inductive Step (propertyId : String) :
    (Request × Draw) × Except Exc Answer → Desk → Desk → Prop
  | guestCreated {d : Desk} (body : GuestIn) (draw : Draw) (hnew : "g_" ++ draw.guestHex ∉ d.guests) :
      Step propertyId ((.createGuest body, draw), .ok (.guestCreated ("g_" ++ draw.guestHex))) d
        (d.welcome ("g_" ++ draw.guestHex))
  | guestTaken {d : Desk} (body : GuestIn) (draw : Draw) (hin : "g_" ++ draw.guestHex ∈ d.guests) :
      Step propertyId ((.createGuest body, draw), .error .integrityError) d d
  | roomCreated {d : Desk} (body : RoomIn) (draw : Draw) (hnew : d.rooms body.roomId = none) :
      Step propertyId ((.createRoom body, draw), .ok (.roomCreated body.roomId)) d
        (d.enrol body.roomId ⟨strOr body.propertyId propertyId, body.roomType⟩)
  | roomTaken {d : Desk} (body : RoomIn) (draw : Draw) (hin : d.rooms body.roomId ≠ none) :
      Step propertyId ((.createRoom body, draw), .error .integrityError) d d
  | reserved {d d₁ : Desk} (body : ReservationIn) (draw : Draw) {guestId : String} {room : Int}
      (hgreet : d.Greets body draw guestId d₁) (hnew : d.folios ("s_" ++ draw.stayHex) = none)
      (hroom : IsLeast (d₁.Vacant ("s_" ++ draw.stayHex) (newFolio propertyId guestId body)
        body.preferredRoomId none) room) :
      Step propertyId
        ((.reserve body, draw), .ok (.reserved ("s_" ++ draw.stayHex) guestId room)) d
        ((d₁.openFolio ("s_" ++ draw.stayHex) (newFolio propertyId guestId body)).house
          ("s_" ++ draw.stayHex) (newFolio propertyId guestId body) room)
  | reservedNoRoom {d d₁ : Desk} (body : ReservationIn) (draw : Draw) {guestId msg : String}
      (hgreet : d.Greets body draw guestId d₁) (hnew : d.folios ("s_" ++ draw.stayHex) = none)
      (hfull : d₁.Vacant ("s_" ++ draw.stayHex) (newFolio propertyId guestId body)
        body.preferredRoomId none = ∅) :
      Step propertyId ((.reserve body, draw), .error (.roomUnavailable msg)) d
        (d₁.openFolio ("s_" ++ draw.stayHex) (newFolio propertyId guestId body))
  | stayTaken {d d₁ : Desk} (body : ReservationIn) (draw : Draw) {guestId : String}
      (hgreet : d.Greets body draw guestId d₁) (hin : d.folios ("s_" ++ draw.stayHex) ≠ none) :
      Step propertyId ((.reserve body, draw), .error .integrityError) d d₁
  | notGreeted {d : Desk} (body : ReservationIn) (draw : Draw) {e : Exc}
      (hfail : d.GreetFails body draw e) : Step propertyId ((.reserve body, draw), .error e) d d
  | arrived {d d' : Desk} (stay : String) (draw : Draw) {key : IssuedKey}
      (hin : d.folios stay ≠ none)
      (hcut : (d.setStatus stay .checkedIn).Cuts E sk stay draw.clock draw.fresh key d') :
      Step propertyId ((.checkin stay, draw), .ok (.key key)) d d'
  | arrivedNoKey {d : Desk} (stay : String) (draw : Draw) {e : Exc} (hin : d.folios stay ≠ none)
      (hfail : (d.setStatus stay .checkedIn).CutFails E sk stay draw.clock draw.fresh e) :
      Step propertyId ((.checkin stay, draw), .error e) d (d.setStatus stay .checkedIn)
  | renewed {d d' : Desk} (stay : String) (draw : Draw) {f : Folio} {key : IssuedKey}
      (hopen : d.InHouse stay f)
      (hcut : (d.settle stay .lapsed).Cuts E sk stay draw.clock draw.fresh key d') :
      Step propertyId ((.refresh stay, draw), .ok (.key key)) d d'
  | renewedNoKey {d : Desk} (stay : String) (draw : Draw) {f : Folio} {e : Exc}
      (hopen : d.InHouse stay f)
      (hfail : (d.settle stay .lapsed).CutFails E sk stay draw.clock draw.fresh e) :
      Step propertyId ((.refresh stay, draw), .error e) d (d.settle stay .lapsed)
  | left {d : Desk} (stay : String) (draw : Draw) {f : Folio} {keyIds : List String}
      (hfolio : d.folios stay = some f) (hkeys : ∀ k, k ∈ keyIds ↔ d.Live stay k) :
      Step propertyId ((.checkout stay, draw), .ok (.checkedOut keyIds f.room)) d
        (((d.settle stay .revoked).vacate stay).setStatus stay .checkedOut)
  | moved {d d' : Desk} (stay : String) (body : RoomChangeIn) (draw : Draw) {f : Folio} {room : Int}
      {keyIds : List String} {key : IssuedKey} (hopen : d.InHouse stay f)
      (hkeys : ∀ k, k ∈ keyIds ↔ d.Live stay k)
      (hroom : IsLeast (d.Vacant stay f body.newRoomId f.room) room)
      (hcut : ((d.settle stay .revoked).house stay f room).Cuts E sk stay (nowOr body.now draw.clock)
        draw.fresh key d') :
      Step propertyId ((.roomChange stay body, draw), .ok (.roomChanged room keyIds key)) d d'
  | movedNoKey {d : Desk} (stay : String) (body : RoomChangeIn) (draw : Draw) {f : Folio} {room : Int}
      {e : Exc} (hopen : d.InHouse stay f) (hroom : IsLeast (d.Vacant stay f body.newRoomId f.room) room)
      (hfail : ((d.settle stay .revoked).house stay f room).CutFails E sk stay (nowOr body.now draw.clock)
        draw.fresh e) :
      Step propertyId ((.roomChange stay body, draw), .error e) d
        ((d.settle stay .revoked).house stay f room)
  | moveNoRoom {d : Desk} (stay : String) (body : RoomChangeIn) (draw : Draw) {f : Folio} {msg : String}
      (hopen : d.InHouse stay f) (hfull : d.Vacant stay f body.newRoomId f.room = ∅) :
      Step propertyId ((.roomChange stay body, draw), .error (.roomUnavailable msg)) d
        (d.settle stay .revoked)
  | unknownStay {d : Desk} (r : Request) (draw : Draw) {stay msg : String}
      (hreq : r = .checkin stay ∨ r = .refresh stay ∨ r = .checkout stay ∨
        ∃ body, r = .roomChange stay body) (hnone : d.folios stay = none) :
      Step propertyId ((r, draw), .error (.notFound msg)) d d
  | alreadyLeft {d : Desk} (r : Request) (draw : Draw) {stay msg : String} {f : Folio}
      (hreq : r = .refresh stay ∨ ∃ body, r = .roomChange stay body)
      (hfolio : d.folios stay = some f) (hout : f.status = .checkedOut) :
      Step propertyId ((r, draw), .error (.stayKey msg)) d d
  | listed {d : Desk} (draw : Draw) {keyIds : List String} (hkeys : ∀ k, k ∈ keyIds ↔ d.Revoked k) :
      Step propertyId ((.revocations, draw), .ok (.revocations keyIds)) d d
  | challenged {d : Desk} (r : Request) (draw : Draw) {room : Int}
      (hreq : r = .lockChallenge room ∨ r = .roomChallenge room) :
      Step propertyId ((r, draw), .ok (.challenge (b64uEncode draw.nonce))) d d
  | unlockAnswered {d : Desk} (room : Int) (body : UnlockIn) (draw : Draw) {answer : Decision}
      (hstands : d.Stands answer) :
      Step propertyId ((.lockUnlock room body, draw), .ok (.decision answer)) d d
  | controlAnswered {d : Desk} (room : Int) (body : ControlIn) (draw : Draw) {answer : Decision}
      (hstands : d.Stands answer)
      (hopen : answer.unlocked = true → body.command ∈ allowedDevices ∧ d.Occupied room) :
      Step propertyId ((.roomControl room body, draw), .ok (.control answer body.command)) d d
  | unanswered {d : Desk} (r : Request) (draw : Draw) {room : Int} {e : PyError}
      (hreq : (∃ body, r = .lockUnlock room body) ∨ ∃ body, r = .roomControl room body) :
      Step propertyId ((r, draw), .error (.py e)) d d

/-- The front desk of a property. -/
def spec (propertyId : String) : Spec ((Request × Draw) × Except Exc Answer) Desk :=
  ⟨opening, Step E sk propertyId⟩

end Desk

end StayKey.Service
