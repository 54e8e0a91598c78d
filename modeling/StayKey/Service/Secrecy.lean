/-
StayKey.Service.Secrecy — no secret is stored.

`db.py` says that no secret is ever stored: the private key of a device is
returned to the phone and not kept. That is a statement about two worlds.
They differ in the property key, in the device keys that are drawn and in
what the signature scheme makes of a private key; they agree in what
becomes public (`SamePublic`): the public halves, the signatures of the
property and what verifies.

Served the same requests in the same order of turns, both worlds have the
same tables, the same locks and the same challenges at every moment, and
give the same answers but for the device key in the answer that hands out a
credential (`secrets_stay_out`).
-/
import StayKey.Program.TwoRuns
import StayKey.Service.ChallengeRace

namespace StayKey.Service

open StayKey.Codec StayKey.Door StayKey.Store StayKey.Program

/-! ## Two worlds -/

/-- The two schemes and property keys have the same public side. -/
structure SamePublic (E E' : Env) (sk sk' : PrivateKey) : Prop where
  py : E.py = E'.py
  verify : E.ed.verify = E'.ed.verify
  publicKey : E.ed.publicKey sk = E'.ed.publicKey sk'
  sign : E.ed.sign sk = E'.ed.sign sk'

/-- The draws of a key differ in the private half of the device key. -/
structure SameFresh (E E' : Env) (fresh fresh' : Fresh) : Prop where
  keyId : fresh.keyId = fresh'.keyId
  nonce : fresh.nonce = fresh'.nonce
  devicePub : E.ed.publicKey fresh.deviceSk = E'.ed.publicKey fresh'.deviceSk

/-- The same request; only the device key it may draw differs. -/
structure SameRequest (E E' : Env) (r r' : Request × Draw) : Prop where
  request : r.1 = r'.1
  clock : r.2.clock = r'.2.clock
  guestHex : r.2.guestHex = r'.2.guestHex
  stayHex : r.2.stayHex = r'.2.stayHex
  nonce : r.2.nonce = r'.2.nonce
  fresh : SameFresh E E' r.2.fresh r'.2.fresh

/-- The two applications differ in the property key, which has the same
public half. -/
structure SameBoard (E E' : Env) (s s' : AppState) : Prop where
  propertyId : s.propertyId = s'.propertyId
  locks : s.locks = s'.locks
  connected : s.connected = s'.connected
  db : s.db = s'.db
  propertyPub : s.propertyPub E = s'.propertyPub E'

/-! ## What is answered -/

/-- A credential without the device key. -/
def sealedKey (key : IssuedKey) : IssuedKey := { key with deviceSkB64 := [] }

/-- An answer without the device key it may hand out. -/
def Answer.sealed : Answer → Answer
  | .key issued => .key (sealedKey issued)
  | .roomChanged newRoomId revoked issued => .roomChanged newRoomId revoked (sealedKey issued)
  | a => a

def SameKey (key key' : IssuedKey) : Prop := sealedKey key = sealedKey key'

def SameAnswer (a a' : Answer) : Prop := a.sealed = a'.sealed

theorem SameAnswer.refl (a : Answer) : SameAnswer a a := rfl

theorem SameAnswer.key {key key' : IssuedKey} (h : SameKey key key') :
    SameAnswer (.key key) (.key key') :=
  congrArg Answer.key h

theorem SameAnswer.roomChanged {key key' : IssuedKey} (newRoomId : Int) (revoked : List String)
    (h : SameKey key key') :
    SameAnswer (.roomChanged newRoomId revoked key) (.roomChanged newRoomId revoked key') :=
  congrArg (Answer.roomChanged newRoomId revoked) h

variable {E E' : Env} {sk sk' : PrivateKey}

/-! ## Credentials -/

theorem evaluateStatic_eq (h : SamePublic E E' sk sk') : evaluateStatic E = evaluateStatic E' := by
  obtain ⟨runtime, ed⟩ := E
  obtain ⟨runtime', ed'⟩ := E'
  obtain rfl : runtime = runtime' := h.py
  have hverify : ed.verify = ed'.verify := h.verify
  funext token propertyPub expectedProperty expectedRoom now revoked
  simp only [evaluateStatic, signatureOk, hverify]
  rfl

theorem verifyDeviceResponse_eq (h : SamePublic E E' sk sk') :
    verifyDeviceResponse E = verifyDeviceResponse E' := by
  funext devicePub challenge response
  cases devicePub with
  | str s => simp only [verifyDeviceResponse, h.verify]
  | _ => rfl

/-- What is signed for a stay does not depend on the private half. -/
theorem payload_same {fresh fresh' : Fresh} (hf : SameFresh E E' fresh fresh') (stay : StayRow)
    (stayId : String) (roomId now : Int) :
    (stayCredential stay stayId roomId now fresh).payload E fresh
      = (stayCredential stay stayId roomId now fresh').payload E' fresh' := by
  simp [CredentialIn.payload, CredentialIn.issuedKeyId, CredentialIn.device, stayCredential,
    hf.keyId, hf.nonce, hf.devicePub]

/-- The credentials of a stay in the two worlds: both are refused with the
same exception, or they differ in the device key alone. -/
theorem issueCredential_same (h : SamePublic E E' sk sk') {fresh fresh' : Fresh}
    (hf : SameFresh E E' fresh fresh') (stay : StayRow) (stayId : String) (roomId now : Int) :
    Prog.ResultsAlike SameKey (issueCredential E sk (stayCredential stay stayId roomId now fresh) fresh)
      (issueCredential E' sk' (stayCredential stay stayId roomId now fresh') fresh') := by
  have hpayload := payload_same hf stay stayId roomId now
  have hbytes : canonicalBytes E = canonicalBytes E' := by
    funext payload
    rw [canonicalBytes, canonicalBytes, h.py]
  rw [issueCredential, issueCredential, hpayload, hbytes]
  have hwindow : (stayCredential stay stayId roomId now fresh').validUntil
      ≤ (stayCredential stay stayId roomId now fresh').validFrom ↔
        (stayCredential stay stayId roomId now fresh).validUntil
          ≤ (stayCredential stay stayId roomId now fresh).validFrom := Iff.rfl
  simp only [hwindow]
  split
  · exact rfl
  · cases canonicalBytes E' ((stayCredential stay stayId roomId now fresh').payload E' fresh') with
    | error e => exact rfl
    | ok bytes =>
      simp only [Prog.ResultsAlike, SameKey, sealedKey, h.sign, CredentialIn.issuedKeyId, stayCredential,
        hf.keyId]

/-! ## Calls -/

section Calls

variable {fresh fresh' : Fresh} (stayId : String) (now : Int)

theorem issueForStay_same (h : SamePublic E E' sk sk') (hf : SameFresh E E' fresh fresh') :
    (issueForStay E sk stayId now fresh).Alike SameKey (issueForStay E' sk' stayId now fresh') := by
  refine .bind_same _ fun row => ?_
  cases row with
  | none => exact .throw _
  | some stay =>
    cases hroom : stay.roomId with
    | none =>
      simp only [hroom]
      exact .throw _
    | some roomId =>
      simp only [hroom]
      split
      · exact .throw _
      · have hissued := issueCredential_same h hf stay stayId roomId now
        revert hissued
        cases issueCredential E sk (stayCredential stay stayId roomId now fresh) fresh with
        | error e =>
          cases issueCredential E' sk' (stayCredential stay stayId roomId now fresh') fresh' with
          | error e' =>
            intro he
            cases he
            exact .throw _
          | ok key => exact False.elim
        | ok key =>
          cases issueCredential E' sk' (stayCredential stay stayId roomId now fresh') fresh' with
          | error e' => exact False.elim
          | ok key' =>
            intro hkey
            -- the row that is stored is made of what the two keys share
            obtain ⟨keyId, token, deviceSk, payload⟩ := key
            obtain ⟨keyId', token', deviceSk', payload'⟩ := key'
            cases hkey
            exact .bind_same _ fun _ => .ret rfl

theorem checkin_same (h : SamePublic E E' sk sk') (hf : SameFresh E E' fresh fresh') :
    (Store.checkin E sk stayId now fresh).Alike SameKey (Store.checkin E' sk' stayId now fresh') := by
  refine .bind_same _ fun row => ?_
  cases row with
  | none => exact .throw _
  | some stay => exact .bind_same _ fun _ => issueForStay_same stayId now h hf

theorem refreshKey_same (h : SamePublic E E' sk sk') (hf : SameFresh E E' fresh fresh') :
    (Store.refreshKey E sk stayId now fresh).Alike SameKey
      (Store.refreshKey E' sk' stayId now fresh') := by
  refine .bind_same _ fun row => ?_
  cases row with
  | none => exact .throw _
  | some stay =>
    simp only
    split
    · exact .throw _
    · exact .bind_same _ fun _ => issueForStay_same stayId now h hf

/-- A move: the room the stay had, the one it gets, and the new key. -/
theorem roomChangeRequest_same (h : SamePublic E E' sk sk') (hf : SameFresh E E' fresh fresh')
    (newRoomId : Option Int) :
    (roomChangeRequest E sk stayId now newRoomId fresh).Alike
      (fun r r' => r.1 = r'.1 ∧ r.2.1 = r'.2.1 ∧ r.2.2.1 = r'.2.2.1 ∧ SameKey r.2.2.2 r'.2.2.2)
      (roomChangeRequest E' sk' stayId now newRoomId fresh') := by
  have hmove : (Store.changeRoom E sk stayId now newRoomId fresh).Alike
      (fun r r' => r.1 = r'.1 ∧ r.2.1 = r'.2.1 ∧ SameKey r.2.2 r'.2.2)
      (Store.changeRoom E' sk' stayId now newRoomId fresh') := by
    refine .bind_same _ fun row => ?_
    cases row with
    | none => exact .throw _
    | some stay =>
      simp only
      split
      · exact .throw _
      · refine .bind_same _ fun revoked => .bind_same _ fun _ => .bind_same _ fun newRoom => ?_
        refine (issueForStay_same stayId now h hf).bind ?_
        intro key key' hkey
        exact .ret ⟨rfl, rfl, hkey⟩
  refine .bind_same _ fun row => ?_
  cases row with
  | none => exact .throw _
  | some stay =>
    refine hmove.bind ?_
    intro r r' hr
    exact .ret ⟨rfl, hr⟩

end Calls

/-! ## Requests -/

theorem onStore_alike {α β : Type} {R : α → β → Prop} {p : Call α} {q : Call β} (h : p.Alike R q) :
    (onStore p).Alike R (onStore q) := by
  induction h with
  | ret h => exact .ret h
  | throw e => exact .throw e
  | call op _ ih => exact .call _ ih

theorem presentCall_eq (h : SamePublic E E' sk sk') : presentCall E = presentCall E' := by
  funext v keyId devicePub challenge response now
  rw [presentCall, presentCall, verifyDeviceResponse_eq h]

theorem finishUnlockCall_eq (h : SamePublic E E' sk sk') : finishUnlockCall E = finishUnlockCall E' := by
  funext roomId token challenge response now
  simp only [finishUnlockCall, presentCall_eq h, payloadKeyId, h.py]

theorem isActiveStayCall_eq (h : SamePublic E E' sk sk') : isActiveStayCall E = isActiveStayCall E' := by
  obtain ⟨runtime, ed⟩ := E
  obtain ⟨runtime', ed'⟩ := E'
  obtain rfl : runtime = runtime' := h.py
  funext payload roomId
  simp only [isActiveStayCall]
  generalize dictGet? payload (py "stay_id") = stayId
  refine congrArg (Prog.call (ApiStmt.activeAssignment roomId)) (funext fun assignment => ?_)
  cases stayId with
  | none => rfl
  | some stayId =>
    refine congrArg (Prog.call (ApiStmt.stayByText (pyStr runtime stayId))) (funext fun stay => ?_)
    cases assignment <;> cases stay <;> rfl

theorem authorizeCall_eq (h : SamePublic E E' sk sk') : authorizeCall E = authorizeCall E' := by
  funext roomId command token challenge response now
  simp only [authorizeCall, presentCall_eq h, isActiveStayCall_eq h, payloadKeyId, h.py]

/-- **The same request in two worlds** runs the same statements and is
answered the same, but for the device key. -/
theorem requestProgram_same (propertyId : String) (h : SamePublic E E' sk sk') {r r' : Request × Draw}
    (hr : SameRequest E E' r r') :
    (requestProgram E propertyId sk r).Alike SameAnswer (requestProgram E' propertyId sk' r') := by
  obtain ⟨req, clock, guestHex, stayHex, fresh, nonce⟩ := r
  obtain ⟨req', clock', guestHex', stayHex', fresh', nonce'⟩ := r'
  obtain ⟨rfl, rfl, rfl, rfl, rfl, hf⟩ := hr
  cases req with
  | createGuest | createRoom | reserve | revocations | lockChallenge | roomChallenge =>
    exact .refl .refl _
  | checkout stayId => exact .refl .refl _
  | checkin stayId =>
    refine (onStore_alike (checkin_same stayId _ h hf)).bind ?_
    intro key key' hkey
    exact .ret (.key hkey)
  | refresh stayId =>
    refine (onStore_alike (refreshKey_same stayId _ h hf)).bind ?_
    intro key key' hkey
    exact .ret (.key hkey)
  | roomChange stayId body =>
    refine (onStore_alike (roomChangeRequest_same stayId _ h hf body.newRoomId)).bind ?_
    intro r r' hr
    obtain ⟨oldRoom, newRoom, revoked, key⟩ := r
    obtain ⟨oldRoom', newRoom', revoked', key'⟩ := r'
    obtain ⟨rfl, rfl, rfl, hkey⟩ := hr
    exact .bind_same _ fun _ => .bind_same _ fun _ => .ret (.roomChanged newRoom revoked hkey)
  | lockUnlock roomId body =>
    have hsame : lockUnlockCall E roomId body clock = lockUnlockCall E' roomId body clock := by
      simp only [lockUnlockCall, finishUnlockCall_eq h]
    simp only [requestProgram]
    rw [hsame]
    exact .refl .refl _
  | roomControl roomId body =>
    have hsame : roomControlCall E roomId body clock = roomControlCall E' roomId body clock := by
      simp only [roomControlCall, authorizeCall_eq h]
    simp only [requestProgram]
    rw [hsame]
    exact .refl .refl _

/-! ## Statements -/

/-- A look-up in the registry finds the same lock, and adds the same. -/
theorem lockFor_same {s s' : AppState} (hs : SameBoard E E' s s') (roomId : Int) :
    (s.lockFor E roomId).1 = (s'.lockFor E' roomId).1 ∧
      SameBoard E E' (s.lockFor E roomId).2 (s'.lockFor E' roomId).2 := by
  obtain ⟨propertyId, propertySk, locks, connected, db⟩ := s
  obtain ⟨propertyId', propertySk', locks', connected', db'⟩ := s'
  obtain ⟨rfl, rfl, rfl, rfl, hpub⟩ := hs
  simp only [AppState.lockFor]
  cases locks.get? roomId with
  | some lock => exact ⟨rfl, rfl, rfl, rfl, rfl, hpub⟩
  | none =>
    rw [hpub]
    exact ⟨rfl, rfl, rfl, rfl, rfl, hpub⟩

theorem SameBoard.setLock {s s' : AppState} (hs : SameBoard E E' s s') (roomId : Int)
    (lock : LockVerifier) : SameBoard E E' (s.setLock roomId lock) (s'.setLock roomId lock) where
  propertyId := hs.propertyId
  locks := by rw [AppState.setLock, AppState.setLock, hs.locks]
  connected := hs.connected
  db := hs.db
  propertyPub := hs.propertyPub

theorem challenges_same {s s' : AppState} (hs : SameBoard E E' s s') (v : Verifier Int) :
    s.challenges E v = s'.challenges E' v := by
  cases v with
  | lock roomId => rw [AppState.challenges, (lockFor_same hs roomId).1, AppState.challenges]
  | connected => rw [AppState.challenges, hs.connected, AppState.challenges]

theorem SameBoard.setChallenges {s s' : AppState} (hs : SameBoard E E' s s') (v : Verifier Int)
    (store : ChallengeStore) : SameBoard E E' (s.setChallenges E v store) (s'.setChallenges E' v store) := by
  cases v with
  | lock roomId =>
    obtain ⟨hlock, hafter⟩ := lockFor_same hs roomId
    rw [AppState.setChallenges, AppState.setChallenges, hlock]
    exact hafter.setLock roomId _
  | connected =>
    have hconnected : { s.connected with challenges := store } = { s'.connected with challenges := store } := by
      rw [hs.connected]
    exact ⟨hs.propertyId, hs.locks, hconnected, hs.db, hs.propertyPub⟩

/-- **A statement does the same in two worlds.** -/
theorem agree_execApi (h : SamePublic E E' sk sk') :
    Agree (execApi E) (execApi E') (SameBoard E E') := by
  intro op s s' hs
  cases op with
  | store op =>
    simp only [execApi, hs.db]
    exact ⟨trivial, hs.propertyId, hs.locks, hs.connected, rfl, hs.propertyPub⟩
  | lockFor roomId => exact ⟨rfl, (lockFor_same hs roomId).2⟩
  | syncRevocations roomId revoked =>
    obtain ⟨hlock, hafter⟩ := lockFor_same hs roomId
    simp only [execApi, hlock]
    exact ⟨trivial, hafter.setLock roomId _⟩
  | lockStatic roomId token now =>
    simp only [execApi, (lockFor_same hs roomId).1, evaluateStatic_eq h]
    exact ⟨trivial, hs⟩
  | connectedStatic roomId token now revoked =>
    simp only [execApi, hs.connected, evaluateStatic_eq h]
    exact ⟨trivial, hs⟩
  | activeAssignment roomId =>
    simp only [execApi, hs.db]
    exact ⟨trivial, hs⟩
  | stayByText stayId =>
    simp only [execApi, hs.db]
    exact ⟨trivial, hs⟩
  | issue v now nonce =>
    simp only [execApi, challenges_same hs v]
    exact ⟨trivial, hs.setChallenges v _⟩
  | check v challenge now =>
    simp only [execApi, challenges_same hs v]
    exact ⟨trivial, hs⟩
  | consume v challenge now =>
    simp only [execApi, challenges_same hs v]
    exact ⟨trivial, hs.setChallenges v _⟩

/-! ## Runs -/

variable {ι : Type} [DecidableEq ι] {propertyId : String} {req req' : ι → Request × Draw}
  {h : List (ServingTurn ι)} {h' : List (ServingTurn ι)} {s s' : Serving ι}

/-- **No secret is stored**, and none is told but to the phone. In two worlds
that differ in the private keys alone, the same requests served in the same
order of turns leave the same tables, the same locks and the same
challenges, and the same answers but for the device key of a credential. -/
theorem secrets_stay_out (hworlds : SamePublic E E' sk sk')
    (hreq : ∀ i, SameRequest E E' (req i) (req' i)) (hs : ServingRun E propertyId sk req h s)
    (hs' : ServingRun E' propertyId sk' req' h' s')
    (hturns : h.map Entry.request = h'.map Entry.request) :
    SameBoard E E' s.shared s'.shared ∧
      ∀ i, Option.Rel (Prog.ResultsAlike SameAnswer) (s.prog i).outcome? (s'.prog i).outcome? := by
  have hstart : (Serving.start E propertyId sk req).Alike SameAnswer (SameBoard E E')
      (Serving.start E' propertyId sk' req') :=
    { prog := fun i => requestProgram_same propertyId hworlds (hreq i)
      shared := ⟨rfl, rfl, congrArg (ConnectedRoomAuthorizer.new propertyId) hworlds.publicKey, rfl,
        hworlds.publicKey⟩ }
  have halike := Schedule.alike (agree_execApi hworlds) hstart hs hs' hturns
  exact ⟨halike.shared, fun i => (halike.prog i).outcome?⟩

/-! ## Private keys written another way -/

/-- The same scheme, with private keys that `f` translates. -/
def Env.recoded (E : Env) (f : PrivateKey → PrivateKey) : Env where
  py := E.py
  ed :=
    { publicKey := fun sk => E.ed.publicKey (f sk)
      sign := fun sk => E.ed.sign (f sk)
      verify := E.ed.verify }

theorem samePublic_recoded (E : Env) {f : PrivateKey → PrivateKey} {sk sk' : PrivateKey}
    (hsk : f sk' = sk) : SamePublic E (Env.recoded E f) sk sk' where
  py := rfl
  verify := rfl
  publicKey := by rw [← hsk]; rfl
  sign := by rw [← hsk]; rfl

/-- Every byte is one too low. -/
def nextBytes (sk : PrivateKey) : PrivateKey := ⟨sk.val.map (· + 1), by rw [List.length_map, sk.property]⟩

def otherKey (b : UInt8) : PrivateKey := ⟨List.replicate 32 b, List.length_replicate⟩

/-- The same requests; the device keys that are drawn are others. -/
def otherRequests (i : Fin 7) : Request × Draw :=
  ((guestRequests i).1,
    { (guestRequests i).2 with fresh := { (guestRequests i).2.fresh with deviceSk := otherKey 1 } })

/-- The device key in an answer that hands out a credential. -/
def toldDeviceKey? (s : Serving (Fin 7)) (i : Fin 7) : Option PyStr :=
  match (s.prog i).outcome? with
  | some (.ok (.key issued)) => some issued.deviceSkB64
  | _ => none

/-- The phone is told another device key, and the door opens to it all the
same: the challenge is consumed in both worlds. -/
theorem secrets_stay_out_recoded :
    let s := (serve turnsApart).2
    let s' := (runAll (fun i s => ((), s.turn (execApi (Env.recoded Env.sample nextBytes)) i))
      (Serving.start (Env.recoded Env.sample nextBytes) "HILTON-DEMO-001" (otherKey 0) otherRequests)
      turnsApart).2
    toldDeviceKey? s 2 ≠ toldDeviceKey? s' 2 ∧ (s.prog 4).outcome?.any positive = true ∧
      SameBoard Env.sample (Env.recoded Env.sample nextBytes) s.shared s'.shared := by
  have hworlds : SamePublic Env.sample (Env.recoded Env.sample nextBytes) sampleKey (otherKey 0) :=
    samePublic_recoded Env.sample (by decide)
  have hdevice : ∀ i, Env.sample.ed.publicKey (guestRequests i).2.fresh.deviceSk
      = (Env.recoded Env.sample nextBytes).ed.publicKey (otherRequests i).2.fresh.deviceSk := by decide
  have hreq (i : Fin 7) : SameRequest Env.sample (Env.recoded Env.sample nextBytes) (guestRequests i)
      (otherRequests i) := ⟨rfl, rfl, rfl, rfl, rfl, rfl, rfl, hdevice i⟩
  have hturns := (map_request_runAll (fun i s => ((), s.turn (execApi Env.sample) i))
    (Serving.start Env.sample "HILTON-DEMO-001" sampleKey guestRequests) turnsApart).trans
      (map_request_runAll (fun i s => ((), s.turn (execApi (Env.recoded Env.sample nextBytes)) i))
        (Serving.start (Env.recoded Env.sample nextBytes) "HILTON-DEMO-001" (otherKey 0) otherRequests)
        turnsApart).symm
  have hsame := secrets_stay_out hworlds hreq (History.of_runAll _ _ turnsApart)
    (History.of_runAll _ _ turnsApart) hturns
  exact ⟨by decide +kernel, by decide +kernel, hsame.1⟩

end StayKey.Service
