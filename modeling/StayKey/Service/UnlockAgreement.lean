/-
StayKey.Service.UnlockAgreement — an unlock is an injective agreement.

`singleUse_history`: every run of the verifiers is a run of the single-use
protocol of `Program.SingleUse`, the challenges being the tokens: a store
may forget a pending challenge (garbage collection, whatever the clock
says), but makes none pending and accepts none that is not. `agreed_of_granted`
is about one positive decision and what it rests on: the signature leads
to an issued payload, and its device key to the device that signed. Both
together are `unlock_agreement`.
-/
import StayKey.Service.ConnectedDecision
import StayKey.Service.Verifiers

namespace StayKey.Service

open StayKey.Codec StayKey.Door StayKey.Store StayKey.Program VerifierEntry

variable {E : Env} {sk : PrivateKey} {ι : Type} {s s₀ : Verifiers ι} {h : List (VerifierEntry ι)}

/-! ## What a call does to the challenges -/

@[simp] theorem mem_pending {v : Verifier ι} {c : Bytes} :
    c ∈ s.pending v ↔ (s.challenges v).Pending c := Iff.rfl

theorem challenges_setConnected_of_ne {v : Verifier ι} (hv : v ≠ .connected)
    (c : ConnectedRoomAuthorizer) : ({ s with connected := c } : Verifiers ι).challenges v = s.challenges v := by
  cases v with
  | lock i => rfl
  | connected => exact absurd rfl hv

/-- Issuing at one verifier is allowed. -/
theorem allowed_issue {s' : Verifiers ι} {v : Verifier ι} {now : Int} {nonce : Bytes}
    (hv : s'.challenges v = ((s.challenges v).issue now nonce).2)
    (hother : ∀ w, w ≠ v → s'.challenges w = s.challenges w) :
    (TokenStep.issue v nonce).Allowed s.pending s'.pending where
  pending w c hc := by
    by_cases hw : w = v
    · subst hw
      rw [mem_pending, hv] at hc
      rcases ChallengeStore.pending_issue hc with rfl | hc
      · exact .inr rfl
      · exact .inl hc
    · rw [mem_pending, hother w hw] at hc
      exact .inl hc
  accepted := nofun

/-- An answer that uses the challenge as it should is allowed. -/
theorem allowed_uses {s' : Verifiers ι} {v : Verifier ι} {challenge : Bytes} {now : Int}
    {result : Except PyError Decision}
    (hv : UsesChallenge (s.challenges v) challenge now result (s'.challenges v))
    (hother : ∀ w, w ≠ v → s'.challenges w = s.challenges w) :
    (if unlocks result then TokenStep.accept v challenge else .other).Allowed s.pending s'.pending := by
  unfold UsesChallenge at hv
  by_cases hu : unlocks result = true
  · rw [if_pos hu] at hv ⊢
    obtain ⟨hacceptable, hconsume⟩ := hv
    have hpending (w : Verifier ι) (c : Bytes) (hc : c ∈ s'.pending w) :
        c ∈ s.pending w ∧ (w = v → c ≠ challenge) := by
      by_cases hw : w = v
      · subst hw
        rw [mem_pending, hconsume, ChallengeStore.pending_consume] at hc
        exact ⟨hc.2, fun _ => hc.1⟩
      · rw [mem_pending, hother w hw] at hc
        exact ⟨hc, fun hwv => absurd hwv hw⟩
    refine ⟨fun w c hc => .inl (hpending w c hc).1, fun w c hwc => ?_⟩
    cases hwc
    exact ⟨ChallengeStore.pending_of_acceptable hacceptable, fun hc => (hpending v challenge hc).2 rfl rfl⟩
  · rw [if_neg hu] at hv ⊢
    refine TokenStep.allowed_forget fun w c hc => ?_
    by_cases hw : w = v
    · subst hw
      rwa [mem_pending, hv] at hc
    · rwa [mem_pending, hother w hw] at hc

/-! ## The calls as steps of the single-use protocol -/

theorem granted?_of_drawn? {e : VerifierEntry ι} {d : Verifier ι × Bytes} (h : drawn? e = some d) :
    granted? e = none := by
  obtain ⟨s, r, ans⟩ := e
  cases r with
  | beginUnlock | beginCommand =>
    cases ans with
    | decision result => simp [granted?, presented?]
    | credential | response | challenge | none => rfl
  | issueCredential | deviceSign | finishUnlock | syncRevocations | authorize => cases h

theorem issued?_challengeStep (h : List (VerifierEntry ι)) :
    (h.map challengeStep).filterMap TokenStep.issued? = (h.filterMap drawn?).map Prod.snd := by
  rw [List.filterMap_map, List.map_filterMap]
  refine congrArg (List.filterMap · h) (funext fun e => ?_)
  simp only [Function.comp, challengeStep]
  cases drawn? e with
  | some d => rfl
  | none => cases granted? e <;> rfl

theorem accepted?_challengeStep (h : List (VerifierEntry ι)) :
    (h.map challengeStep).filterMap TokenStep.accepted?
      = (h.filterMap granted?).map Presentation.challenge := by
  rw [List.filterMap_map, List.map_filterMap]
  refine congrArg (List.filterMap · h) (funext fun e => ?_)
  simp only [Function.comp, challengeStep]
  cases hd : drawn? e with
  | some d => rw [granted?_of_drawn? hd]; rfl
  | none => cases granted? e <;> rfl

theorem drawn?_of_challengeStep {e : VerifierEntry ι} {v : Verifier ι} {c : Bytes}
    (h : challengeStep e = .issue v c) : drawn? e = some (v, c) := by
  unfold challengeStep at h
  split at h
  · cases h; assumption
  · cases h
  · cases h

theorem challengeStep_of_granted? {e : VerifierEntry ι} {p : Presentation ι} (h : granted? e = some p) :
    challengeStep e = .accept p.verifier p.challenge := by
  cases hd : drawn? e with
  | none => simp only [challengeStep, hd, h]
  | some d =>
    rw [granted?_of_drawn? hd] at h
    cases h

variable [DecidableEq ι]

@[simp] theorem challenges_setLock_self (i : ι) (lock : LockVerifier) :
    (s.setLock i lock).challenges (.lock i) = lock.challenges := by
  simp [Verifiers.challenges, Verifiers.setLock]

theorem challenges_setLock_of_ne {i : ι} {v : Verifier ι} (hv : v ≠ .lock i) (lock : LockVerifier) :
    (s.setLock i lock).challenges v = s.challenges v := by
  cases v with
  | connected => rfl
  | lock j =>
    have hj : j ≠ i := fun hji => hv (hji ▸ rfl)
    simp [Verifiers.challenges, Verifiers.setLock, hj]

/-- **Every call treats the challenges as tokens for one use.** -/
theorem challengeStep_allowed (r : VerifierCall ι) (s : Verifiers ι) :
    (challengeStep (Entry.of (performCall E sk) r s)).Allowed s.pending
      (performCall E sk r s).2.pending := by
  have hkept {s' : Verifiers ι} (h : s'.challenges = s.challenges) :
      (TokenStep.other : TokenStep (Verifier ι) Bytes).Allowed s.pending s'.pending := by
    refine TokenStep.allowed_forget fun v c hc => ?_
    rwa [mem_pending, h] at hc
  cases r with
  | issueCredential a fresh => exact hkept rfl
  | deviceSign deviceSkB64 challenge => exact hkept rfl
  | syncRevocations i revoked =>
    refine hkept (funext fun v => ?_)
    by_cases hv : v = .lock i
    · subst hv; exact challenges_setLock_self i _
    · exact challenges_setLock_of_ne hv _
  | beginUnlock i now nonce =>
    exact allowed_issue (challenges_setLock_self i _) fun w hw => challenges_setLock_of_ne hw _
  | beginCommand now nonce =>
    exact allowed_issue (v := .connected) rfl fun w hw => challenges_setConnected_of_ne hw _
  | finishUnlock i token challenge response now =>
    have huses : UsesChallenge (s.challenges (.lock i)) challenge now
        ((s.locks i).finishUnlock E token challenge response now).1
        ((performCall E sk (.finishUnlock i token challenge response now) s).2.challenges (.lock i)) := by
      rw [performCall, challenges_setLock_self]
      exact finishUnlock_uses ..
    have hallowed := allowed_uses huses fun w hw => challenges_setLock_of_ne hw _
    simp only [challengeStep, drawn?, granted?, presented?, Entry.of, performCall]
    split at hallowed <;> rename_i hu <;> simp only [hu] <;> exact hallowed
  | authorize db roomId command token challenge response now =>
    have huses : UsesChallenge (s.challenges .connected) challenge now
        (s.connected.authorize E db roomId command token challenge response now).1
        ((performCall E sk (.authorize db roomId command token challenge response now) s).2.challenges
          .connected) := authorize_uses ..
    have hallowed := allowed_uses huses fun w hw => challenges_setConnected_of_ne hw _
    simp only [challengeStep, drawn?, granted?, presented?, Entry.of, performCall]
    split at hallowed <;> rename_i hu <;> simp only [hu] <;> exact hallowed

/-! ## What a positive decision rests on -/

/-- The verifiers check signatures with this key. -/
structure Verifiers.Trusts (s : Verifiers ι) (pub : PublicKey) : Prop where
  locks : ∀ i, (s.locks i).propertyPub = pub
  connected : s.connected.propertyPub = pub

theorem trusts_performCall {pub : PublicKey} (h : s.Trusts pub) (r : VerifierCall ι) :
    (performCall E sk r s).2.Trusts pub := by
  have hset {i : ι} {lock : LockVerifier} (hlock : lock.propertyPub = pub) : (s.setLock i lock).Trusts pub := by
    refine ⟨fun j => ?_, h.connected⟩
    by_cases hj : j = i
    · subst hj
      simpa [Verifiers.setLock] using hlock
    · simpa [Verifiers.setLock, hj] using h.locks j
  cases r with
  | issueCredential | deviceSign => exact h
  | beginUnlock i now nonce => exact hset (h.locks i)
  | syncRevocations i revoked => exact hset (h.locks i)
  | finishUnlock i token challenge response now =>
    exact hset ((congrArg LockVerifier.propertyPub (finishUnlock_snd ..)).trans (h.locks i))
  | beginCommand now nonce => exact ⟨h.locks, h.connected⟩
  | authorize db roomId command token challenge response now =>
    exact ⟨h.locks, (authorize_install ..).2.trans h.connected⟩

theorem trusts_history (hnew : s₀.New (E.ed.publicKey sk)) (hs : VerifierHistory E sk s₀ h s) :
    s.Trusts (E.ed.publicKey sk) := by
  refine hs.invariant (I := fun s => s.Trusts (E.ed.publicKey sk)) ?_
    (fun s r h (_ : True) => trusts_performCall h r) fun _ _ => trivial
  constructor
  · intro i
    obtain ⟨propertyId, roomId, revoked, hi⟩ := hnew.locks i
    rw [hi]
    rfl
  · obtain ⟨propertyId, hc⟩ := hnew.connected
    rw [hc]
    rfl

/-- A positive decision rests on a token of the property's key. -/
theorem granted_restsOn {r : VerifierCall ι} {p : Presentation ι} (htrust : s.Trusts (E.ed.publicKey sk))
    (hp : granted? (Entry.of (performCall E sk) r s) = some p) :
    presented? (Entry.of (performCall E sk) r s) = some p ∧
      ∃ result now revoked parsed,
        (performCall E sk r s).1 = .decision result ∧ unlocks result = true ∧
        RestsOn E (E.ed.publicKey sk) (s.propertyId p.verifier) p.roomId (s.challenges p.verifier) p.token
          p.challenge p.response now revoked result parsed := by
  cases r with
  | issueCredential | deviceSign | beginUnlock | syncRevocations | beginCommand => cases hp
  | finishUnlock i token challenge response now =>
    simp only [granted?, Entry.of, performCall] at hp
    split at hp
    · rename_i hu
      cases hp
      obtain ⟨parsed, hrests⟩ := finishUnlock_restsOn hu
      rw [htrust.locks i] at hrests
      exact ⟨rfl, _, _, _, parsed, rfl, hu, hrests⟩
    · cases hp
  | authorize db roomId command token challenge response now =>
    simp only [granted?, Entry.of, performCall] at hp
    split at hp
    · rename_i hu
      cases hp
      obtain ⟨parsed, hrests, -⟩ := authorize_restsOn hu
      rw [htrust.connected] at hrests
      exact ⟨rfl, _, _, _, parsed, rfl, hu, hrests⟩
    · cases hp

/-! ## Runs -/

/-- **Every run is a run of the single-use protocol.** -/
theorem singleUse_history (hnew : s₀.New (E.ed.publicKey sk)) (hs : VerifierHistory E sk s₀ h s) :
    SingleUse (h.map challengeStep) s.pending := by
  induction hs with
  | nil =>
    have hempty : s₀.pending = fun _ => ∅ := by
      funext v
      refine Set.eq_empty_iff_forall_notMem.mpr fun c hc => ?_
      cases v with
      | lock i =>
        obtain ⟨propertyId, roomId, revoked, hi⟩ := hnew.locks i
        simp [Verifiers.challenges, hi, LockVerifier.new, ChallengeStore.new, ChallengeStore.Pending] at hc
      | connected =>
        obtain ⟨propertyId, hconnected⟩ := hnew.connected
        simp [Verifiers.challenges, hconnected, ConnectedRoomAuthorizer.new, ChallengeStore.new,
          ChallengeStore.Pending] at hc
    rw [hempty]
    exact .nil
  | cons r _ ih => exact ih.cons _ (challengeStep_allowed r _)

/-- An issuing call answers with its nonce. -/
theorem answer_of_drawn? {e : VerifierEntry ι} {v : Verifier ι} {c : Bytes}
    (h : drawn? e = some (v, c)) : (performCall E sk e.request e.before).1 = .challenge c := by
  obtain ⟨s, r, ans⟩ := e
  cases r with
  | beginUnlock | beginCommand => cases h; rfl
  | issueCredential | deviceSign | finishUnlock | syncRevocations | authorize => cases h

/-- The presentation rests on a credential that was issued for the
verifier's property and the room, and on the device whose key it holds. -/
def Agreed (E : Env) (h : List (VerifierEntry ι)) (propertyId : String) (p : Presentation ι)
    (answer : VerifierAnswer) : Prop :=
  ∃ a fresh key f devicePub, CredentialIssued h a fresh key ∧ Carries key.payload f ∧
    f.propertyId = py propertyId ∧ p.roomId ∈ f.roomIds ∧ f.devicePub = b64uEncode devicePub.val ∧
    DeviceSigned E h devicePub p.challenge ∧ answer = .decision (.ok (.unlock f.keyId))

/-- **What one positive decision rests on.** -/
theorem agreed_of_granted {l : List (VerifierEntry ι)} {e : VerifierEntry ι} {p : Presentation ι}
    (hnew : s₀.New (E.ed.publicKey sk)) (hs : VerifierHistory E sk s₀ (l ++ e :: h) s)
    (hproperty : PropertyUnforged E sk (l ++ e :: h)) (hdevice : DeviceUnforged E (l ++ e :: h))
    (hp : granted? e = some p) :
    ChallengeIssued h p.verifier p.challenge ∧
      Agreed E h (e.before.propertyId p.verifier) p e.answer := by
  obtain ⟨hbefore, hans⟩ := hs.of_append
  obtain ⟨s, r, ans⟩ := e
  simp only at hbefore hans
  subst hans
  obtain ⟨hpresented, result, now, revoked, parsed, hanswer, hu, hrests⟩ :=
    granted_restsOn (trusts_history hnew hbefore) hp
  constructor
  · -- the challenge was handed out by this verifier
    have hsingle := singleUse_history hnew hs
    rw [List.map_append, List.map_cons, challengeStep_of_granted? hp] at hsingle
    obtain ⟨f, hf, hissue⟩ := List.mem_map.mp hsingle.issued_before
    have hdrawn := drawn?_of_challengeStep hissue
    obtain ⟨-, -, hfans⟩ := hbefore.of_mem hf
    exact ⟨f, hf, hdrawn, hfans.trans (answer_of_drawn? hdrawn)⟩
  · -- the signed bytes are those of an issued payload
    obtain ⟨a, fresh, key, hissued, hbytes⟩ :=
      hproperty l _ h rfl p hpresented parsed hrests.parsed hrests.signed
    have hpayload : sortByKey (a.payload E fresh) = parsed.payload := by
      have hloads := parseToken_loads hrests.parsed
      rw [loads_canonicalBytes hbytes] at hloads
      exact Json.obj.inj (Except.ok.inj hloads)
    obtain ⟨hid, hroom, hresult, hpossession⟩ := hrests.fields hu (hpayload ▸ carries_payload a fresh)
    -- and its device key has answered the challenge
    have hverify : E.ed.verify (E.ed.publicKey (a.device fresh)) p.response p.challenge = true :=
      (possession_b64uEncode _ _ _).symm.trans hpossession
    refine ⟨a, fresh, key, a.fields E fresh, E.ed.publicKey (a.device fresh), hissued, ?_, hid, hroom, rfl,
      hdevice l _ h rfl p hpresented _ hverify, hanswer.trans (by rw [hresult])⟩
    obtain ⟨f, hf, hreq, hfans⟩ := hissued
    obtain ⟨-, -, hfans'⟩ := hbefore.of_mem hf
    rw [hreq, hfans] at hfans'
    exact carries_issued (VerifierAnswer.credential.inj hfans').symm

/-- **An unlock is an injective agreement.** In every run of any number of
locks and an authorizer under one property key, whatever is presented where
and at whatever time: each positive decision is for a challenge that this
verifier issued before, and rests on an issued credential and its device;
and no challenge gets two of them. -/
theorem unlock_agreement (hnew : s₀.New (E.ed.publicKey sk)) (hs : VerifierHistory E sk s₀ h s)
    (hfresh : FreshNonces h) (hproperty : PropertyUnforged E sk h) (hdevice : DeviceUnforged E h) :
    (∀ l e h', h = l ++ e :: h' → ∀ p, granted? e = some p →
      ChallengeIssued h' p.verifier p.challenge ∧
        Agreed E h' (e.before.propertyId p.verifier) p e.answer) ∧
    ((h.filterMap granted?).map Presentation.challenge).Nodup := by
  constructor
  · rintro l e h' rfl p hp
    exact agreed_of_granted hnew hs hproperty hdevice hp
  · rw [← accepted?_challengeStep]
    refine (singleUse_history hnew hs).accepted_nodup ?_
    rw [issued?_challengeStep]
    exact hfresh

/-! ## A sample run -/

/-- The sample lock, and an authorizer of the same property. -/
def sampleVerifiers : Verifiers Unit where
  locks _ := sampleLock
  connected := .new "HILTON-DEMO-001" (Env.sample.ed.publicKey sampleKey)

/-- A credential is issued, its device answers a challenge of the lock, and
the answer is presented twice. -/
def replayCalls (key : IssuedKey) : List (VerifierCall Unit) :=
  [ .issueCredential sampleCredential sampleFresh,
    .beginUnlock () 1000 [7],
    .deviceSign key.deviceSkB64 [7],
    .finishUnlock () key.token [7] (sampleFresh.deviceSk.val ++ [7]) 1000,
    .finishUnlock () key.token [7] (sampleFresh.deviceSk.val ++ [7]) 1001 ]

theorem unlock_agreement_replay :
    ∃ key, issueCredential Env.sample sampleKey sampleCredential sampleFresh = .ok key ∧
      (((runAll (performCall Env.sample sampleKey) sampleVerifiers (replayCalls key)).1.filterMap
        granted?).map Presentation.challenge).Nodup := by
  obtain ⟨key, hkey⟩ := issueCredential_isOk (E := Env.sample) sampleCredential_writable (by decide)
    sampleKey sampleFresh
  have hnew : sampleVerifiers.New (Env.sample.ed.publicKey sampleKey) :=
    ⟨fun _ => ⟨_, _, _, rfl⟩, _, rfl⟩
  have hs := History.of_runAll (performCall Env.sample sampleKey) sampleVerifiers (replayCalls key)
  -- the token is the one that was issued
  have hproperty {h : List (VerifierEntry Unit)} {p : ParsedToken}
      (he : Entry.of (performCall Env.sample sampleKey) (.issueCredential sampleCredential sampleFresh)
        sampleVerifiers ∈ h) (hp : parseToken Env.sample key.token = .ok (some p)) :
      ∃ a fresh key, CredentialIssued h a fresh key ∧
        canonicalBytes Env.sample (a.payload Env.sample fresh) = .ok p.payloadBytes := by
    obtain ⟨bytes, hbytes, hparse⟩ := parseToken_issue hkey
    rw [hparse] at hp
    cases hp
    exact ⟨_, _, key, ⟨_, he, rfl, congrArg VerifierAnswer.credential hkey⟩, hbytes⟩
  -- and the response is that of its device
  have hdevice {h : List (VerifierEntry Unit)} {s : Verifiers Unit} {deviceSk : PrivateKey}
      (he : Entry.of (performCall Env.sample sampleKey) (.deviceSign key.deviceSkB64 [7]) s ∈ h)
      (hv : Env.sample.ed.verify (Env.sample.ed.publicKey deviceSk) (sampleFresh.deviceSk.val ++ [7]) [7]
        = true) : DeviceSigned Env.sample h (Env.sample.ed.publicKey deviceSk) [7] := by
    have hsk : sampleFresh.deviceSk = deviceSk :=
      Subtype.ext (List.append_cancel_right (of_decide_eq_true hv))
    obtain ⟨-, bytes, -, hik⟩ := issueCredential_ok hkey
    refine ⟨_, he, _, sampleFresh.deviceSk, rfl, ?_, by rw [hsk]⟩
    rw [hik, b64uDecode_b64uEncode]
    rfl
  refine ⟨key, hkey, (unlock_agreement hnew hs ?_ ?_ ?_).2⟩
  · exact List.nodup_singleton _
  · refine History.splits_cons.mpr ⟨?_, History.splits_cons.mpr ⟨?_, History.splits_cons.mpr ⟨nofun,
      History.splits_cons.mpr ⟨nofun, History.splits_cons.mpr ⟨nofun, ?_⟩⟩⟩⟩⟩
    · intro p hp parsed hparsed _
      cases hp
      exact hproperty (.tail _ (.tail _ (.tail _ (.head _)))) hparsed
    · intro p hp parsed hparsed _
      cases hp
      exact hproperty (.tail _ (.tail _ (.head _))) hparsed
    · intro l e h' he
      cases l <;> cases he
  · refine History.splits_cons.mpr ⟨?_, History.splits_cons.mpr ⟨?_, History.splits_cons.mpr ⟨nofun,
      History.splits_cons.mpr ⟨nofun, History.splits_cons.mpr ⟨nofun, ?_⟩⟩⟩⟩⟩
    · intro p hp deviceSk hv
      cases hp
      exact hdevice (.tail _ (.head _)) hv
    · intro p hp deviceSk hv
      cases hp
      exact hdevice (.head _) hv
    · intro l e h' he
      cases l <;> cases he

end StayKey.Service
