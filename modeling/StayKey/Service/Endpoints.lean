/-
StayKey.Service.Endpoints — which presentations end in an envelope.

The unlock and the control endpoint decode the challenge and the response
themselves, with the decoder that `parse_token` uses but outside its `try`,
and pass the token on as it is. The decision names the key, and the
envelope is written in UTF-8. On a token that has the field types of an
issued one, or cannot be parsed, this leaves five ways for an exception to
get past the handlers: a challenge or response that is no base64, a token
nested beyond the recursion limit, a room id beyond 64 bits, and a lone
surrogate in the key id, or in the stay id a command asks for.
`endpoints_enveloped_iff` says that there is no other.
-/
import StayKey.Codec.Base64Canonical
import StayKey.Service.Answered
import StayKey.Service.FailedRequests

namespace StayKey.Service

open StayKey.Codec StayKey.Door StayKey.Store StayKey.Program

variable {E : Env} {s : AppState}

/-! ## From answers to responses -/

/-- The decision in an answer. -/
def Answer.decision? : Answer → Option Decision
  | .decision d | .control d _ => some d
  | _ => none

/-- The texts of the decision can be written in UTF-8. Its key id is the only
one that comes out of a token. -/
def Encodable (d : Decision) : Prop := ∀ c ∈ d.keyId.getD [], IsScalar c

instance (d : Decision) : Decidable (Encodable d) :=
  inferInstanceAs (Decidable (∀ c ∈ d.keyId.getD [], IsScalar c))

/-- The response is written after the handler has returned, and no handler
of exceptions is there for it. -/
def written (r : Except Exc Answer) : Except Exc Answer :=
  match r with
  | .ok a => if ∀ d ∈ a.decision?, Encodable d then .ok a else .error (.py .valueError)
  | .error e => .error e

/-- The request is answered by its handler, or by one of the handlers of
domain errors. -/
def Enveloped (r : Except Exc Answer) : Prop := (∃ a, r = .ok a) ∨ ErrorEnvelope r

/-- No handler is registered for an exception of the language. -/
theorem not_enveloped_py (e : PyError) : ¬ Enveloped (.error (.py e)) := by
  rintro (⟨_, h⟩ | ⟨e', h, hdomain⟩)
  · cases h
  · cases h
    cases hdomain

/-- The verifiers raise no domain error, and their decisions are written. -/
theorem enveloped_written_iff {r : Except PyError Decision} {f : Decision → Answer}
    (hf : ∀ d, (f d).decision? = some d) :
    Enveloped (written (escape (r.map f))) ↔ ∃ d, r = .ok d ∧ Encodable d := by
  cases r with
  | error e => exact iff_of_false (not_enveloped_py e) fun ⟨_, h, _⟩ => by cases h
  | ok d =>
    show Enveloped (if ∀ d' ∈ (f d).decision?, Encodable d' then .ok (f d) else .error (.py .valueError)) ↔ _
    rw [hf d]
    by_cases hd : Encodable d
    · rw [if_pos fun d' hd' => Option.some.inj hd' ▸ hd]
      exact iff_of_true (.inl ⟨f d, rfl⟩) ⟨d, rfl, hd⟩
    · rw [if_neg fun h => hd (h d rfl)]
      exact iff_of_false (not_enveloped_py _) fun ⟨_, h, hd'⟩ => hd (by cases h; exact hd')

theorem presented_isOk_iff {challengeB64 responseB64 : PyStr} :
    (∃ p, presented challengeB64 responseB64 = .ok p) ↔
      Base64Text challengeB64 ∧ Base64Text responseB64 := by
  rw [← b64uDecode_isOk_iff, ← b64uDecode_isOk_iff]
  constructor
  · rintro ⟨p, hp⟩
    obtain ⟨challenge, hc, hp⟩ := exceptBind_ok hp
    obtain ⟨response, hr, -⟩ := exceptBind_ok hp
    exact ⟨⟨challenge, hc⟩, response, hr⟩
  · rintro ⟨⟨challenge, hc⟩, response, hr⟩
    exact ⟨(challenge, response), by rw [presented, hc, hr]; rfl⟩

/-! ## The key id of a decision -/

/-- If the token is signed, its key id has no lone surrogate. -/
def KeyIdEncodes (E : Env) (pub : PublicKey) (token : PyStr) : Prop :=
  SignedPayload E pub token fun payload => ∀ c ∈ payloadKeyId E payload, IsScalar c

theorem keyId_presentChallenge {store : ChallengeStore} {keyId : PyStr} {devicePub : Json}
    {challenge response : Bytes} {now : Int} {d : Decision}
    (h : (presentChallenge E store keyId devicePub challenge response now).1 = .ok d) :
    d.keyId = some keyId := by
  unfold presentChallenge at h
  cases hs : store.check challenge now with
  | replayed | unknown => rw [hs] at h; cases h; rfl
  | ok =>
    rw [hs] at h
    rcases hv : verifyDeviceResponse E devicePub challenge response with e | _ | _ <;>
      simp only [hv] at h <;> cases h <;> rfl

theorem keyId_presentForStay {c : ConnectedRoomAuthorizer} {db : Db} {roomId : Int}
    {challenge response : Bytes} {now : Int} {payload : JsonDict} {d : Decision}
    (h : presentForStay E c db roomId challenge response now payload = .ok d) :
    d.keyId = some (payloadKeyId E payload) := by
  unfold presentForStay at h
  split at h
  · split at h
    · cases h
    · cases h; rfl
    · exact keyId_presentChallenge h
  · cases h

/-- Of a token that can be parsed one payload is looked at. -/
theorem signedPayload_iff {token : PyStr} {p : ParsedToken} (hp : parseToken E token = .ok (some p))
    {pub : PublicKey} {P : JsonDict → Prop} : SignedPayload E pub token P ↔
      (E.ed.verify pub p.signature p.payloadBytes = true → P p.payload) := by
  constructor
  · exact fun h => h p hp
  · intro h q hq hv
    obtain rfl : p = q := Option.some.inj (Except.ok.inj (hp.symm.trans hq))
    exact h hv

/-- A decision on a typed payload names its key, whatever the checks say. -/
theorem keyId_of_carries {payload : JsonDict} {f : Fields} (hf : Carries payload f) {propertyId : String}
    {roomId now : Int} {revoked : Finset PyStr} {k : JsonDict → Except PyError Decision}
    (hk : ∀ payload d, k payload = .ok d → d.keyId = some (payloadKeyId E payload)) {d : Decision}
    (h : afterStatic (evaluatePayload E payload propertyId roomId now revoked) k = .ok d) :
    d.keyId = some (payloadKeyId E payload) := by
  have hid : payloadKeyId E payload = f.keyId := by
    rw [payloadKeyId, hf.keyId]
    rfl
  rw [evaluatePayload_of_carries hf] at h
  cases hfirst : firstFailing (staticChecks f propertyId roomId now revoked) with
  | none =>
    rw [hfirst] at h
    exact hk payload d h
  | some reason =>
    rw [hfirst] at h
    cases h
    rw [hid]
    rfl

/-- A decision on a typed token names the key if the token is signed, and
else none. -/
theorem encodable_iff {token : PyStr} (ht : TypedToken E token) {pub : PublicKey} {propertyId : String}
    {roomId now : Int} {revoked : Finset PyStr} {k : JsonDict → Except PyError Decision}
    (hk : ∀ payload d, k payload = .ok d → d.keyId = some (payloadKeyId E payload)) {d : Decision}
    (h : afterStatic (evaluateStatic E token pub propertyId roomId now revoked) k = .ok d) :
    Encodable d ↔ KeyIdEncodes E pub token := by
  have hnone (hd : d.keyId = none) : Encodable d := by
    intro c hc
    rw [hd] at hc
    cases hc
  cases hp : parseToken E token with
  | error e =>
    simp only [evaluateStatic, hp, bind, Except.bind] at h
    cases h
  | ok o =>
    cases o with
    | none =>
      simp only [evaluateStatic, hp, bind, Except.bind] at h
      cases h
      refine iff_of_true (hnone rfl) fun p hp' => ?_
      rw [hp] at hp'
      cases hp'
    | some p =>
      obtain ⟨f, hf⟩ := ht p hp
      rw [evaluateStatic_of_parsed hp] at h
      rw [KeyIdEncodes, signedPayload_iff hp]
      cases hv : E.ed.verify pub p.signature p.payloadBytes with
      | false =>
        rw [hv] at h
        cases h
        exact iff_of_true (hnone rfl) fun h => by cases h
      | true =>
        rw [hv, if_pos rfl] at h
        rw [Encodable, keyId_of_carries hf hk h]
        exact ⟨fun h _ => h, fun h => h rfl⟩

/-! ## The verifiers on typed tokens -/

/-- If the token is a valid one for the room now, the room can be asked for,
and so can the stay. -/
def StayAsked (E : Env) (c : ConnectedRoomAuthorizer) (db : Db) (roomId now : Int) (token : PyStr) : Prop :=
  SignedPayload E c.propertyPub token fun payload =>
    Addressed payload c.propertyId roomId ∧ InForce E payload now (db.revocationList.map py).toFinset →
      Bindable roomId ∧ NamesStay E payload

theorem lock_answers_typed {token : PyStr} (ht : TypedToken E token) (l : LockVerifier)
    (challenge response : Bytes) (now : Int) :
    (∃ d, (l.finishUnlock E token challenge response now).1 = .ok d ∧ Encodable d) ↔
      ¬ NestedToken E token ∧ KeyIdEncodes E l.propertyPub token := by
  have hanswers : (∃ d, (l.finishUnlock E token challenge response now).1 = .ok d) ↔
      ¬ NestedToken E token := by
    rw [finishUnlock_isOk_iff]
    refine and_iff_left fun p hp _ => ?_
    obtain ⟨f, hf⟩ := ht p hp
    exact fun _ => ⟨windowSafe_of_carries hf now, fun _ => deviceKeySafe_of_carries hf _ _ _⟩
  have hencodes {d : Decision} (hd : (l.finishUnlock E token challenge response now).1 = .ok d) :
      Encodable d ↔ KeyIdEncodes E l.propertyPub token := by
    rw [finishUnlock_fst] at hd
    exact encodable_iff ht (fun _ _ => keyId_presentChallenge) hd
  rw [← hanswers]
  constructor
  · rintro ⟨d, hd, he⟩
    exact ⟨⟨d, hd⟩, (hencodes hd).mp he⟩
  · rintro ⟨⟨d, hd⟩, he⟩
    exact ⟨d, hd, (hencodes hd).mpr he⟩

theorem room_answers_typed (hdb : Reached s.db) {token : PyStr} (ht : TypedToken E token)
    (roomId : Int) (command : String) (challenge response : Bytes) (now : Int) :
    (∃ d, (s.connected.authorizeBound E s.db roomId command token challenge response now).1 = .ok d ∧
        Encodable d) ↔
      command ∉ allowedDevices ∨ ¬ NestedToken E token ∧
        KeyIdEncodes E s.connected.propertyPub token ∧ StayAsked E s.connected s.db roomId now token := by
  by_cases hcmd : command ∈ allowedDevices
  swap
  · refine iff_of_true ⟨.deny .badCommand none, ?_, fun c hc => by cases hc⟩ (.inl hcmd)
    simp only [ConnectedRoomAuthorizer.authorizeBound, ConnectedRoomAuthorizer.looksUp,
      decide_eq_false hcmd, Bool.false_and, Bool.false_eq_true, if_false,
      ConnectedRoomAuthorizer.authorize, if_pos hcmd]
  have hanswers : (∃ d, (s.connected.authorizeBound E s.db roomId command token challenge response
      now).1 = .ok d) ↔ ¬ NestedToken E token ∧ StayAsked E s.connected s.db roomId now token := by
    rw [authorizeBound_isOk_iff (assigned_reached hdb), or_iff_right (not_not_intro hcmd)]
    refine and_congr_right fun _ => ?_
    refine forall_congr' fun p => forall_congr' fun hp => imp_congr_right fun _ => ?_
    obtain ⟨f, hf⟩ := ht p hp
    constructor
    · intro h haf
      obtain ⟨hroom, hstay, -⟩ := (h haf.1).2 haf.2
      exact ⟨hroom, hstay⟩
    · refine fun h ha => ⟨windowSafe_of_carries hf now, fun hforce => ?_⟩
      obtain ⟨hroom, hstay⟩ := h ⟨ha, hforce⟩
      exact ⟨hroom, hstay, fun _ => deviceKeySafe_of_carries hf _ _ _⟩
  have hencodes {d : Decision} (hd : (s.connected.authorizeBound E s.db roomId command token challenge
      response now).1 = .ok d) : Encodable d ↔ KeyIdEncodes E s.connected.propertyPub token := by
    rw [authorizeBound_fst hcmd] at hd
    exact encodable_iff ht (fun _ _ => keyId_presentForStay) hd
  rw [or_iff_right (not_not_intro hcmd), and_left_comm, ← hanswers]
  constructor
  · rintro ⟨d, hd, he⟩
    exact ⟨(hencodes hd).mp he, d, hd⟩
  · rintro ⟨he, d, hd⟩
    exact ⟨d, hd, (hencodes hd).mpr he⟩

/-! ## The two endpoints -/

theorem lockUnlockBound_enveloped_iff {body : UnlockIn} (ht : TypedToken E body.token) (roomId clock : Int)
    (s : AppState) :
    Enveloped (written (lockUnlockBound E roomId body clock s).1) ↔
      ((s.locks.get? roomId).isSome ∨ Bindable roomId) ∧ Base64Text body.challengeB64 ∧
        Base64Text body.responseB64 ∧ ¬ NestedToken E body.token ∧
          KeyIdEncodes E (s.lockFor E roomId).1.propertyPub body.token := by
  rw [lockUnlockBound]
  by_cases hlock : (s.locks.get? roomId).isSome ∨ Bindable roomId
  swap
  · rw [not_or] at hlock
    have hnone : s.locks.get? roomId = none := by simpa using hlock.1
    rw [hnone, decide_eq_false hlock.2, if_pos (by rfl)]
    exact iff_of_false (not_enveloped_py _) fun h => absurd h.1 (by simpa [hnone] using hlock.2)
  have hpass : ((s.locks.get? roomId).isNone && !decide (Bindable roomId)) = false := by
    rcases hlock with h | h
    · obtain ⟨lock, hget⟩ := Option.isSome_iff_exists.mp h
      rw [hget]
      rfl
    · rw [decide_eq_true h, Bool.not_true, Bool.and_false]
  -- the sync changes the snapshot of the lock, not the key it trusts
  have hpub : ((s.syncLock E roomId).lockFor E roomId).1.propertyPub = (s.lockFor E roomId).1.propertyPub := by
    rw [AppState.syncLock, AppState.setLock]
    simp only [AppState.lockFor, Dict.get?_set_self]
    rfl
  rw [hpass, if_neg Bool.false_ne_true, and_iff_right hlock, ← and_assoc, ← presented_isOk_iff, lockUnlock]
  cases hp : presented body.challengeB64 body.responseB64 with
  | error e => exact iff_of_false (not_enveloped_py e) fun h => not_isOk_error h.1
  | ok p =>
    refine Iff.trans ?_ (and_iff_right ⟨p, rfl⟩).symm
    rw [← hpub]
    exact (enveloped_written_iff fun _ => rfl).trans (lock_answers_typed ht _ _ _ _)

theorem roomControlBound_enveloped_iff (hdb : Reached s.db) {body : ControlIn}
    (ht : TypedToken E body.token) (roomId clock : Int) :
    Enveloped (written (roomControlBound E roomId body clock s).1) ↔
      Base64Text body.challengeB64 ∧ Base64Text body.responseB64 ∧
        (body.command ∉ allowedDevices ∨ ¬ NestedToken E body.token ∧
          KeyIdEncodes E s.connected.propertyPub body.token ∧
            StayAsked E s.connected s.db roomId (nowOr body.now clock) body.token) := by
  rw [← and_assoc, ← presented_isOk_iff, roomControlBound]
  cases hp : presented body.challengeB64 body.responseB64 with
  | error e => exact iff_of_false (not_enveloped_py e) fun h => not_isOk_error h.1
  | ok p =>
    refine Iff.trans ?_ (and_iff_right ⟨p, rfl⟩).symm
    exact (enveloped_written_iff fun _ => rfl).trans (room_answers_typed hdb ht _ _ _ _ _)

/-- **When the unlock and control endpoints answer with an envelope**: for
every string, room id, command and time, over any tables that statements
lead to. -/
theorem endpoints_enveloped_iff (hdb : Reached s.db) (roomId clock : Int) :
    (∀ body : UnlockIn, TypedToken E body.token →
      (Enveloped (written (lockUnlockBound E roomId body clock s).1) ↔
        ((s.locks.get? roomId).isSome ∨ Bindable roomId) ∧ Base64Text body.challengeB64 ∧
          Base64Text body.responseB64 ∧ ¬ NestedToken E body.token ∧
            KeyIdEncodes E (s.lockFor E roomId).1.propertyPub body.token)) ∧
    ∀ body : ControlIn, TypedToken E body.token →
      (Enveloped (written (roomControlBound E roomId body clock s).1) ↔
        Base64Text body.challengeB64 ∧ Base64Text body.responseB64 ∧
          (body.command ∉ allowedDevices ∨ ¬ NestedToken E body.token ∧
            KeyIdEncodes E s.connected.propertyPub body.token ∧
              StayAsked E s.connected s.db roomId (nowOr body.now clock) body.token)) :=
  ⟨fun _ ht => lockUnlockBound_enveloped_iff ht roomId clock s,
    fun _ ht => roomControlBound_enveloped_iff hdb ht roomId clock⟩

/-! ## A guest in the room -/

/-- The token of the sample check-in. -/
def sampleToken : PyStr := ((answeredKey? sampleCheckin).map IssuedKey.token).getD []

theorem sampleToken_issued : ∃ key a fresh,
    issueCredential Env.sample sampleKey a fresh = .ok key ∧ sampleToken = key.token := by
  obtain ⟨key, f, _, hout, -⟩ := sampleCheckin_key
  obtain ⟨db₁, -, stay, room, hfor, -⟩ := handsOut_spec (E := Env.sample) rfl hout
  refine ⟨key, _, _, hfor.credential, ?_⟩
  obtain ⟨-, hans⟩ | ⟨_, _, _, hreq, -⟩ := hout
  · rw [sampleToken, answeredKey?, hans]
    rfl
  · cases hreq

/-- The guest in the room presents the key, at the door and for a command. -/
def issuedUnlock (challengeB64 : PyStr) : UnlockIn := ⟨none, sampleToken, challengeB64, []⟩

def issuedControl (challengeB64 : PyStr) : ControlIn :=
  ⟨none, sampleToken, challengeB64, [], "tv", by decide⟩

/-- The service answers, on a challenge it has issued. -/
theorem endpoints_enveloped_issued :
    Enveloped (written (lockUnlockBound Env.sample 101 (issuedUnlock (b64uEncode [7])) 1500
      (runRequests inRoomRequests).2).1) ∧
    Enveloped (written (roomControlBound Env.sample 101 (issuedControl (b64uEncode [7])) 1500
      (runRequests inRoomRequests).2).1) := by
  obtain ⟨key, a, fresh, hkey, htoken⟩ := sampleToken_issued
  have hs := History.of_runAll (handle Env.sample) (AppState.new Env.sample "HILTON-DEMO-001" sampleKey)
    inRoomRequests
  have hcarries (p : ParsedToken) (hp : parseToken Env.sample sampleToken = .ok (some p)) :
      Carries p.payload (a.fields Env.sample fresh) := carries_of_parsed hkey (htoken ▸ hp)
  have ht : TypedToken Env.sample sampleToken := fun p hp => ⟨_, hcarries p hp⟩
  have hnested : ¬ NestedToken Env.sample sampleToken := htoken ▸ not_nested_issue hkey
  have hid (pub : PublicKey) : KeyIdEncodes Env.sample pub sampleToken := by
    intro p hp _ c hc
    rw [payloadKeyId, (hcarries p hp).keyId] at hc
    exact isScalar_of_mem_py hc
  have hstay : StayAsked Env.sample (runRequests inRoomRequests).2.connected
      (runRequests inRoomRequests).2.db 101 1500 sampleToken :=
    fun p hp _ _ => ⟨by decide, _, (hcarries p hp).stayId, fun c hc => isScalar_of_mem_py hc⟩
  have hchallenge : Base64Text (b64uEncode [7]) := b64uDecode_isOk_iff.mp ⟨_, b64uDecode_b64uEncode [7]⟩
  have hempty : Base64Text [] := by decide
  obtain ⟨hlock, hroom⟩ := endpoints_enveloped_iff (E := Env.sample) (reached_api hs) 101 1500
  exact ⟨(hlock (issuedUnlock (b64uEncode [7])) ht).mpr ⟨.inr (by decide), hchallenge, hempty, hnested,
    hid _⟩, (hroom (issuedControl (b64uEncode [7])) ht).mpr ⟨hchallenge, hempty,
    .inr ⟨hnested, hid _, hstay⟩⟩⟩

/-- With a challenge of one character the exception of the decoder escapes
from both endpoints. -/
theorem endpoints_raise_on_open_group :
    (written (lockUnlockBound Env.sample 101 (issuedUnlock (py "A")) 1500
        (runRequests inRoomRequests).2).1) = .error (.py .valueError) ∧
      (written (roomControlBound Env.sample 101 (issuedControl (py "A")) 1500
        (runRequests inRoomRequests).2).1) = .error (.py .valueError) ∧
      ¬ Enveloped (.error (.py .valueError)) :=
  ⟨rfl, rfl, not_enveloped_py _⟩

end StayKey.Service
