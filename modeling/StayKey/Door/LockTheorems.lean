/-
StayKey.Door.LockTheorems — the lock decides its specification.

`finishUnlock_meetsSpec_iff`: on every typed token, in every state of the
lock, a call does what `LockSpec` asks exactly when the token does not
nest its payload beyond the interpreter's recursion limit. On a token
that does, `json.loads` raises `RecursionError`, which `parse_token` does
not catch, and the call returns no decision at all.

For issued credentials the checks come down to property, room, window,
revocation and a fresh challenge (`finishUnlock_issue`).
-/
import StayKey.Door.LockSpec

namespace StayKey.Door

open StayKey.Codec StayKey.Program

variable {E : Env}

/-! ## Which tokens are not answered -/

theorem b64uDecode_error {s : PyStr} {e : PyError} (h : b64uDecode s = .error e) :
    e = .valueError := by
  unfold b64uDecode urlsafeB64decode at h
  split at h
  · split at h
    · cases h
    · cases h; rfl
  · cases h; rfl

/-- **`parse_token` raises** exactly on the tokens nested too deeply, and
then `RecursionError`. -/
theorem parseToken_error_iff {token : PyStr} {e : PyError} :
    parseToken E token = .error e ↔ e = .recursionError ∧ NestedToken E token := by
  unfold parseToken NestedToken
  by_cases hc : token.count 46 = 1
  case neg => simp [hc]
  rw [if_neg (not_not_intro hc)]
  generalize token.takeWhile (· ≠ 46) = seg, (token.dropWhile (· ≠ 46)).tail = seg'
  cases hp : b64uDecode seg with
  | error e' => simp [decodeSegments, hp, b64uDecode_error hp, bind, Except.bind]
  | ok payloadBytes =>
    cases hs : b64uDecode seg' with
    | error e' => simp [decodeSegments, hp, hs, b64uDecode_error hs, bind, Except.bind]
    | ok signature =>
      simp only [hc, true_and, Except.ok.injEq, exists_eq_left', exists_and_left]
      rw [← loads_recursionError_iff]
      simp only [decodeSegments, hp, hs, bind, Except.bind]
      cases hl : loads E.py payloadBytes with
      | error e' =>
        obtain rfl | rfl := loads_error hl
        · simp
        · simp [eq_comm]
      | ok j =>
        cases j with
        | obj payload =>
          simp only [pure, Except.pure, reduceCtorEq, and_false, iff_false]
          split <;> simp
        | _ => simp [pure, Except.pure]

/-! ## The decision on typed tokens -/

theorem verifyDeviceResponse_str (devicePub : PyStr) (challenge response : Bytes) :
    verifyDeviceResponse E (.str devicePub) challenge response
      = .ok (possession E devicePub challenge response) := by
  simp only [verifyDeviceResponse, possession]
  cases b64uDecode devicePub >>= publicFromRaw <;> rfl

theorem presentationChecks_hold_iff {store : ChallengeStore} {devicePub : PyStr}
    {challenge response : Bytes} {now : Int} :
    firstFailing (presentationChecks E store devicePub challenge response now) = none ↔
      store.Acceptable challenge now ∧ possession E devicePub challenge response = true := by
  simp [firstFailing_eq_none_iff, presentationChecks, ChallengeStore.Acceptable, and_assoc,
    Option.any_eq_true]

/-- The answer is positive exactly when no check fails. -/
theorem Answers.unlock_iff {result : Except PyError Decision} {keyId : PyStr}
    {failing : Option DenyReason} (h : Answers result keyId failing) :
    result = .ok (.unlock keyId) ↔ failing = none := by
  cases failing with
  | none => exact ⟨fun _ => rfl, fun _ => h⟩
  | some reason =>
    obtain ⟨k, hk⟩ := h
    rw [hk]
    exact ⟨nofun, nofun⟩

/-- Steps 2 to 4 run the presentation checks. -/
theorem presentChallenge_answers (store : ChallengeStore) (keyId devicePub : PyStr)
    (challenge response : Bytes) (now : Int) :
    Answers (presentChallenge E store keyId (.str devicePub) challenge response now).1 keyId
      (firstFailing (presentationChecks E store devicePub challenge response now)) := by
  unfold presentChallenge presentationChecks ChallengeStore.check
  cases hc : store.consumed.get? challenge with
  | some t => exact ⟨keyId, rfl⟩
  | none =>
    simp only [Option.isNone_none, firstFailing_cons_true, Option.isSome_none, Bool.false_eq_true,
      if_false]
    cases hp : store.pending.get? challenge with
    | none => exact ⟨keyId, rfl⟩
    | some issuedAt =>
      by_cases ht : store.ttl < now - issuedAt
      · simp only [Option.any_some, not_le.mpr ht, decide_false, firstFailing_cons_false, if_pos ht]
        exact ⟨keyId, rfl⟩
      · simp only [Option.any_some, not_lt.mp ht, decide_true, firstFailing_cons_true, if_neg ht,
          verifyDeviceResponse_str]
        cases possession E devicePub challenge response with
        | false => exact ⟨keyId, rfl⟩
        | true => rfl

/-- Once the signature holds, the lock runs its checks on the fields. -/
theorem finishUnlock_answers (l : LockVerifier) {token : PyStr} {p : ParsedToken} {f : Fields}
    (hp : parseToken E token = .ok (some p))
    (hs : E.ed.verify l.propertyPub p.signature p.payloadBytes = true) (hf : Carries p.payload f)
    (challenge response : Bytes) (now : Int) :
    Answers (l.finishUnlock E token challenge response now).1 f.keyId
      (firstFailing (unlockChecks E l f challenge response now)) := by
  rw [unlockChecks, firstFailing_append, LockVerifier.finishUnlock, evaluateStatic_of_parsed hp,
    if_pos hs, evaluatePayload_of_carries hf]
  cases firstFailing (staticChecks f l.propertyId l.roomId now l.revoked) with
  | some reason => exact ⟨f.keyId, rfl⟩
  | none =>
    simp only [StaticResult.ofReason, Option.none_or, payloadKeyId, payloadDevicePub, hf.keyId,
      hf.devicePub, Option.getD_some, pyStr]
    exact presentChallenge_answers _ _ _ _ _ _

theorem readToken_of_nested {token : PyStr} (h : NestedToken E token) : readToken E token = none := by
  rw [readToken, parseToken_error_iff.mpr ⟨rfl, h⟩]

/-- A token nested too deeply is not answered: the exception escapes. -/
theorem finishUnlock_of_nested {token : PyStr} (h : NestedToken E token) (l : LockVerifier)
    (challenge response : Bytes) (now : Int) :
    (l.finishUnlock E token challenge response now).1 = .error .recursionError := by
  simp only [LockVerifier.finishUnlock, evaluateStatic, parseToken_error_iff.mpr ⟨rfl, h⟩, bind,
    Except.bind]

theorem finishUnlock_of_malformed {token : PyStr} (h : parseToken E token = .ok none)
    (l : LockVerifier) (challenge response : Bytes) (now : Int) :
    (l.finishUnlock E token challenge response now).1 = .ok (.deny .malformed none) := by
  simp only [LockVerifier.finishUnlock, evaluateStatic, h, bind, Except.bind, pure, Except.pure]

theorem finishUnlock_of_forged {token : PyStr} {p : ParsedToken}
    (hp : parseToken E token = .ok (some p)) (l : LockVerifier)
    (hs : E.ed.verify l.propertyPub p.signature p.payloadBytes = false)
    (challenge response : Bytes) (now : Int) :
    (l.finishUnlock E token challenge response now).1 = .ok (.deny .forgedSignature none) := by
  rw [LockVerifier.finishUnlock, evaluateStatic_of_parsed hp, if_neg (by simp [hs])]

/-- The lock meets its specification on exactly the tokens it can read
within the recursion limit. -/
theorem meetsSpec_iff {l : LockVerifier} {token : PyStr} (ht : TypedWhenSigned E l token)
    (challenge response : Bytes) (now : Int) :
    MeetsSpec E l token challenge response now ↔ ¬ NestedToken E token := by
  constructor
  · intro hm hn
    simp only [MeetsSpec, readToken_of_nested hn, finishUnlock_of_nested hn] at hm
    obtain ⟨_, h⟩ := hm
    cases h
  · intro hn
    unfold MeetsSpec
    unfold TypedWhenSigned at ht
    cases hp : parseToken E token with
    | error e => exact absurd (parseToken_error_iff.mp hp).2 hn
    | ok o =>
      have hr : readToken E token = o := by rw [readToken, hp]
      rw [hr] at ht ⊢
      cases o with
      | none => exact ⟨none, finishUnlock_of_malformed hp l challenge response now⟩
      | some p =>
        simp only
        cases hs : E.ed.verify l.propertyPub p.signature p.payloadBytes with
        | false => exact ⟨none, finishUnlock_of_forged hp l hs challenge response now⟩
        | true =>
          obtain ⟨f, hf⟩ := ht p rfl hs
          exact ⟨f, hf, finishUnlock_answers l hp hs hf challenge response now⟩

/-! ## What an answer does to the challenges -/

/-- A positive answer is to an acceptable challenge and consumes it; any
other answer leaves the store alone. -/
def UsesChallenge (store : ChallengeStore) (challenge : Bytes) (now : Int)
    (result : Except PyError Decision) (store' : ChallengeStore) : Prop :=
  if unlocks result then store.Acceptable challenge now ∧ store' = store.consume challenge now
  else store' = store

theorem presentChallenge_uses (store : ChallengeStore) (keyId : PyStr) (devicePub : Json)
    (challenge response : Bytes) (now : Int) :
    UsesChallenge store challenge now
      (presentChallenge E store keyId devicePub challenge response now).1
      (presentChallenge E store keyId devicePub challenge response now).2 := by
  unfold presentChallenge
  cases hc : store.check challenge now with
  | replayed | unknown => exact rfl
  | ok =>
    simp only
    cases verifyDeviceResponse E devicePub challenge response with
    | error e => exact rfl
    | ok b =>
      cases b with
      | false => exact rfl
      | true => exact ⟨ChallengeStore.check_eq_ok_iff.mp hc, rfl⟩

theorem finishUnlock_uses (l : LockVerifier) (token : PyStr) (challenge response : Bytes) (now : Int) :
    UsesChallenge l.challenges challenge now (l.finishUnlock E token challenge response now).1
      (l.finishUnlock E token challenge response now).2.challenges := by
  unfold LockVerifier.finishUnlock
  cases hs : evaluateStatic E token l.propertyPub l.propertyId l.roomId now l.revoked with
  | error e => exact rfl
  | ok result =>
    obtain ⟨reason, keyId, rfl⟩ | ⟨p, -, -, -, rfl⟩ := evaluateStatic_ok hs
    · exact rfl
    · exact presentChallenge_uses ..

/-- A call touches nothing but the challenges. -/
theorem finishUnlock_snd (l : LockVerifier) (token : PyStr) (challenge response : Bytes) (now : Int) :
    (l.finishUnlock E token challenge response now).2
      = { l with challenges := (l.finishUnlock E token challenge response now).2.challenges } := by
  unfold LockVerifier.finishUnlock
  split <;> rfl

/-! ## What an answer says of the key -/

/-- What an answer says about revocation agrees with the list it was given. -/
structure Consults (revoked : Finset PyStr) (d : Decision) : Prop where
  unlocked : d.unlocked = true → ∃ k, d.keyId = some k ∧ k ∉ revoked
  revoked : d.reason = some .revoked → ∃ k ∈ revoked, d.keyId = some k

/-- The challenge and the possession proof have no part in revocation. -/
theorem presentChallenge_consults {store : ChallengeStore} {keyId : PyStr} {devicePub : Json}
    {challenge response : Bytes} {now : Int} {revoked : Finset PyStr} {d : Decision}
    (hkey : keyId ∉ revoked)
    (h : (presentChallenge E store keyId devicePub challenge response now).1 = .ok d) :
    Consults revoked d := by
  unfold presentChallenge at h
  split at h
  · cases h
    exact ⟨nofun, nofun⟩
  · cases h
    exact ⟨nofun, nofun⟩
  · split at h
    · cases h
    · cases h
      exact ⟨nofun, nofun⟩
    · cases h
      exact ⟨fun _ => ⟨keyId, rfl, hkey⟩, nofun⟩

/-- A token is denied by the static checks, or its key is not in the list. -/
theorem evaluateStatic_consults {token : PyStr} {pub : PublicKey} {expectedProperty : String}
    {expectedRoom now : Int} {revoked : Finset PyStr} {result : StaticResult}
    (h : evaluateStatic E token pub expectedProperty expectedRoom now revoked = .ok result) :
    (∃ d, result = .deny d ∧ Consults revoked d) ∨
      ∃ payload, result = .pass payload ∧ payloadKeyId E payload ∉ revoked := by
  obtain ⟨reason, keyId, rfl⟩ | ⟨p, -, -, hpass, rfl⟩ := evaluateStatic_ok h
  · refine .inl ⟨_, rfl, nofun, fun hreason => ?_⟩
    obtain rfl := Option.some.inj hreason
    exact evaluateStatic_revoked h
  · obtain ⟨-, hrevoked⟩ | ⟨reason, keyId, hdeny⟩ := evaluatePayload_ok hpass
    · exact .inr ⟨_, rfl, hrevoked⟩
    · cases hdeny

theorem finishUnlock_consults {l : LockVerifier} {token : PyStr} {challenge response : Bytes} {now : Int}
    {d : Decision} (h : (l.finishUnlock E token challenge response now).1 = .ok d) :
    Consults l.revoked d := by
  unfold LockVerifier.finishUnlock at h
  cases hs : evaluateStatic E token l.propertyPub l.propertyId l.roomId now l.revoked with
  | error e => rw [hs] at h; cases h
  | ok result =>
    rw [hs] at h
    obtain ⟨d', rfl, hd⟩ | ⟨payload, rfl, hkey⟩ := evaluateStatic_consults hs
    · cases h
      exact hd
    · exact presentChallenge_consults hkey h

/-! ## What a positive answer rests on -/

/-- The result is that of steps 2 to 4, on the payload of a token that
passed the static checks. -/
structure RestsOn (E : Env) (pub : PublicKey) (propertyId : String) (roomId : Int)
    (store : ChallengeStore) (token : PyStr) (challenge response : Bytes) (now : Int)
    (revoked : Finset PyStr) (result : Except PyError Decision) (p : ParsedToken) : Prop where
  parsed : parseToken E token = .ok (some p)
  signed : E.ed.verify pub p.signature p.payloadBytes = true
  passed : evaluatePayload E p.payload propertyId roomId now revoked = .ok (.pass p.payload)
  answer : result = (presentChallenge E store (payloadKeyId E p.payload) (payloadDevicePub p.payload)
    challenge response now).1

theorem finishUnlock_restsOn {l : LockVerifier} {token : PyStr} {challenge response : Bytes} {now : Int}
    (hu : unlocks (l.finishUnlock E token challenge response now).1 = true) :
    ∃ p, RestsOn E l.propertyPub l.propertyId l.roomId l.challenges token challenge response now
      l.revoked (l.finishUnlock E token challenge response now).1 p := by
  unfold LockVerifier.finishUnlock at hu ⊢
  cases hs : evaluateStatic E token l.propertyPub l.propertyId l.roomId now l.revoked with
  | error e => rw [hs] at hu; cases hu
  | ok result =>
    obtain ⟨reason, keyId, rfl⟩ | ⟨p, hparse, hv, hpass, rfl⟩ := evaluateStatic_ok hs
    · rw [hs] at hu; cases hu
    · exact ⟨p, hparse, hv, hpass, rfl⟩

/-- The key of the token is not in the snapshot. -/
theorem RestsOn.unrevoked {pub : PublicKey} {propertyId : String} {roomId : Int} {store : ChallengeStore}
    {token : PyStr} {challenge response : Bytes} {now : Int} {revoked : Finset PyStr}
    {result : Except PyError Decision} {p : ParsedToken}
    (h : RestsOn E pub propertyId roomId store token challenge response now revoked result p) :
    payloadKeyId E p.payload ∉ revoked := by
  obtain ⟨-, hrevoked⟩ | ⟨reason, keyId, hdeny⟩ := evaluatePayload_ok h.passed
  · exact hrevoked
  · cases hdeny

/-- On a typed payload the static checks hold. -/
theorem RestsOn.static {pub : PublicKey} {propertyId : String} {roomId : Int} {store : ChallengeStore}
    {token : PyStr} {challenge response : Bytes} {now : Int} {revoked : Finset PyStr}
    {result : Except PyError Decision} {p : ParsedToken} {f : Fields}
    (h : RestsOn E pub propertyId roomId store token challenge response now revoked result p)
    (hf : Carries p.payload f) : firstFailing (staticChecks f propertyId roomId now revoked) = none := by
  have hpass := h.passed
  rw [evaluatePayload_of_carries hf, Except.ok.injEq] at hpass
  cases hstatic : firstFailing (staticChecks f propertyId roomId now revoked) with
  | some reason => rw [hstatic] at hpass; cases hpass
  | none => rfl

/-- A positive answer on a typed payload: the static checks and the proof of
possession hold for its fields. -/
theorem RestsOn.fields {pub : PublicKey} {propertyId : String} {roomId : Int} {store : ChallengeStore}
    {token : PyStr} {challenge response : Bytes} {now : Int} {revoked : Finset PyStr}
    {result : Except PyError Decision} {p : ParsedToken} {f : Fields}
    (h : RestsOn E pub propertyId roomId store token challenge response now revoked result p)
    (hu : unlocks result = true) (hf : Carries p.payload f) :
    f.propertyId = py propertyId ∧ roomId ∈ f.roomIds ∧ result = .ok (.unlock f.keyId) ∧
      possession E f.devicePub challenge response = true := by
  have hanswers := presentChallenge_answers (E := E) store f.keyId f.devicePub challenge response now
  have hanswer : result = (presentChallenge E store f.keyId (.str f.devicePub) challenge response now).1 := by
    rw [h.answer]
    simp only [payloadKeyId, payloadDevicePub, hf.keyId, hf.devicePub, Option.getD_some, pyStr]
  rw [← hanswer] at hanswers
  have hnone : firstFailing (presentationChecks E store f.devicePub challenge response now) = none := by
    cases hfail : firstFailing (presentationChecks E store f.devicePub challenge response now) with
    | none => rfl
    | some reason =>
      rw [hfail] at hanswers
      obtain ⟨k, hk⟩ := hanswers
      rw [hk] at hu
      cases hu
  obtain ⟨hproperty, hroom, -⟩ := staticChecks_hold_iff.mp (h.static hf)
  exact ⟨hproperty, hroom, hanswers.unlock_iff.mpr hnone, (presentationChecks_hold_iff.mp hnone).2⟩

/-! ## Issued credentials -/

/-- The device key handed out with a credential signs as the key in it. -/
theorem deviceSign_issue {sk : PrivateKey} {a : CredentialIn} {fresh : Fresh} {ik : IssuedKey}
    (h : issueCredential E sk a fresh = .ok ik) (challenge : Bytes) :
    deviceSign E ik.deviceSkB64 challenge = .ok (E.ed.sign (a.device fresh) challenge) := by
  obtain ⟨_, bytes, -, rfl⟩ := issueCredential_ok h
  have hraw : privateFromRaw (a.device fresh).val = .ok (a.device fresh) :=
    dif_pos (a.device fresh).property
  simp only [deviceSign, b64uDecode_b64uEncode, hraw, bind, Except.bind, pure, Except.pure]

/-- Possession of the key whose public half an issued payload holds. -/
theorem possession_b64uEncode (pub : PublicKey) (challenge response : Bytes) :
    possession E (b64uEncode pub.val) challenge response = E.ed.verify pub response challenge := by
  have hraw : publicFromRaw pub.val = .ok pub := dif_pos pub.property
  simp only [possession, b64uDecode_b64uEncode, hraw, bind, Except.bind]

/-- The device's own answer proves possession. -/
theorem possession_sign (hE : E.ed.Correct) (sk : PrivateKey) (challenge : Bytes) :
    possession E (b64uEncode (E.ed.publicKey sk).val) challenge (E.ed.sign sk challenge) = true := by
  rw [possession_b64uEncode]
  exact hE sk challenge

/-- **An issued credential, answered by its own device,** unlocks exactly
the locks of its property and rooms, inside its window, until it is in the
snapshot, on a fresh challenge. -/
theorem finishUnlock_issue (hE : E.ed.Correct) {sk : PrivateKey} {a : CredentialIn} {fresh : Fresh}
    {ik : IssuedKey} (h : issueCredential E sk a fresh = .ok ik) {l : LockVerifier}
    (hl : l.propertyPub = E.ed.publicKey sk) {challenge response : Bytes}
    (hr : deviceSign E ik.deviceSkB64 challenge = .ok response) (now : Int) :
    (l.finishUnlock E ik.token challenge response now).1 = .ok (.unlock (py ik.keyId)) ↔
      l.propertyId = a.propertyId ∧ l.roomId ∈ a.roomIds ∧ a.validFrom ≤ now ∧ now ≤ a.validUntil ∧
        py ik.keyId ∉ l.revoked ∧ l.challenges.Acceptable challenge now := by
  obtain ⟨bytes, -, hp⟩ := parseToken_issue h
  have hs : E.ed.verify l.propertyPub (E.ed.sign sk bytes) bytes = true := hl ▸ hE sk bytes
  have hans := finishUnlock_answers l hp hs (carries_payload a fresh) challenge response now
  have hkey : ik.keyId = a.issuedKeyId fresh := by obtain ⟨_, _, _, rfl⟩ := issueCredential_ok h; rfl
  rw [deviceSign_issue h, Except.ok.injEq] at hr
  subst hr
  rw [hkey]
  have hnone : firstFailing (unlockChecks E l (a.fields E fresh) challenge
        (E.ed.sign (a.device fresh) challenge) now) = none ↔
      l.propertyId = a.propertyId ∧ l.roomId ∈ a.roomIds ∧ a.validFrom ≤ now ∧ now ≤ a.validUntil ∧
        py (a.issuedKeyId fresh) ∉ l.revoked ∧ l.challenges.Acceptable challenge now := by
    rw [unlockChecks, firstFailing_append, Option.or_eq_none_iff, staticChecks_hold_iff,
      presentationChecks_hold_iff]
    simp only [CredentialIn.fields, possession_sign hE, py_inj, List.mem_insertionSort, and_true,
      and_assoc, eq_comm (a := l.propertyId)]
  rw [← hnone]
  exact hans.unlock_iff

/-- A scheme that is correct, and transparent: a signature shows the key
and the message. -/
def Ed25519.transparent : Ed25519 where
  publicKey sk := sk
  sign sk m := sk.val ++ m
  verify pub sig m := decide (sig = pub.val ++ m)

/-- An interpreter with a thousand levels of nesting to spare. -/
def PyRuntime.sample : PyRuntime where
  recursionLimit := 1000
  strOf
    | .null => py "None"
    | .bool true => py "True"
    | .bool false => py "False"
    | .int n => if n < 0 then 45 :: natText n.natAbs else natText n.natAbs
    | _ => []
  intOfStr s := if s ≠ [] ∧ s.all isDigit then some (digitsVal s) else none
  floatRepr _ := []

def Env.sample : Env := ⟨PyRuntime.sample, Ed25519.transparent⟩

theorem Env.sample_correct : Env.sample.ed.Correct := fun _ _ => decide_eq_true rfl

def sampleKey : PrivateKey := ⟨List.replicate 32 1, by decide⟩

def sampleFresh : Fresh where
  deviceSk := ⟨List.replicate 32 2, by decide⟩
  keyId := "k1"
  nonce := "n1"

def sampleCredential : CredentialIn where
  guestId := "g_1"
  stayId := "s_1"
  propertyId := "HILTON-DEMO-001"
  roomIds := [101]
  validFrom := 1000
  validUntil := 2000
  issuedAt := 1000
  deviceSk := none
  keyId := none
  nonce := none

theorem sampleCredential_writable : sampleCredential.Writable where
  window := by decide
  roomIds := by decide
  validFrom := by decide
  validUntil := by decide
  issuedAt := by decide

def sampleLock : LockVerifier := .new "HILTON-DEMO-001" 101 (Env.sample.ed.publicKey sampleKey) []

/-! ## The specification of the lock -/

/-- **The lock decides its specification** on every typed token that is not
nested beyond the recursion limit, and on no other; and an issued
credential answered by its own device unlocks exactly the locks of its
property and rooms, inside its window, until it is revoked there. -/
theorem lock_decides_specification :
    (∀ (l : LockVerifier) (token : PyStr) (challenge response : Bytes) (now : Int),
      TypedWhenSigned E l token →
        (MeetsSpec E l token challenge response now ↔ ¬ NestedToken E token)) ∧
    (E.ed.Correct → ∀ (sk : PrivateKey) (a : CredentialIn) (fresh : Fresh) (ik : IssuedKey),
      issueCredential E sk a fresh = .ok ik →
      ∀ (l : LockVerifier) (challenge response : Bytes) (now : Int),
        l.propertyPub = E.ed.publicKey sk → deviceSign E ik.deviceSkB64 challenge = .ok response →
        ((l.finishUnlock E ik.token challenge response now).1 = .ok (.unlock (py ik.keyId)) ↔
          l.propertyId = a.propertyId ∧ l.roomId ∈ a.roomIds ∧ a.validFrom ≤ now ∧
            now ≤ a.validUntil ∧ py ik.keyId ∉ l.revoked ∧
            l.challenges.Acceptable challenge now)) :=
  ⟨fun _ _ challenge response now ht => meetsSpec_iff ht challenge response now,
    fun hE _ _ _ _ h _ _ _ now hl hr => finishUnlock_issue hE h hl hr now⟩

/-- At a lock of the sample property, the credential `sampleCredential` on a
challenge issued at its check-in. -/
theorem lock_decides_specification_sample :
    ∃ ik response, issueCredential Env.sample sampleKey sampleCredential sampleFresh = .ok ik ∧
      (((sampleLock.beginUnlock 1000 [7]).2).finishUnlock Env.sample ik.token [7] response 1000).1
        = .ok (.unlock (py ik.keyId)) := by
  obtain ⟨ik, hik⟩ := issueCredential_isOk (E := Env.sample) sampleCredential_writable (by decide)
    sampleKey sampleFresh
  refine ⟨ik, Env.sample.ed.sign (sampleCredential.device sampleFresh) [7], hik, ?_⟩
  have hkey : ik.keyId = "k1" := by obtain ⟨_, _, _, rfl⟩ := issueCredential_ok hik; rfl
  refine ((lock_decides_specification (E := Env.sample)).2 Env.sample_correct _ _ _ _ hik _ _ _ _ rfl
    (deviceSign_issue hik _)).mpr ⟨rfl, by decide, by decide, by decide, ?_, rfl, 1000, rfl, by decide⟩
  rw [hkey]
  decide

/-- A payload segment of brackets one deeper than the limit. -/
def nestedToken (E : Env) : PyStr :=
  b64uEncode (encodeAscii (List.replicate (E.py.recursionLimit + 1) 91)) ++ [46]

theorem nestedToken_nested (h : 1 ≤ E.py.recursionLimit) : NestedToken E (nestedToken E) := by
  obtain ⟨n, hn⟩ : ∃ n, E.py.recursionLimit = n + 1 := ⟨_, (Nat.sub_add_cancel h).symm⟩
  have hascii : Ascii (91 :: 91 :: List.replicate n 91) := by
    intro c hc
    rw [← List.replicate_succ, ← List.replicate_succ] at hc
    rw [List.eq_of_mem_replicate hc]
    decide
  obtain ⟨hcount, htake, hdrop⟩ := splitAtDot (b := []) (b64uEncode_ne_dot (encodeAscii _)) (by simp)
  refine ⟨hcount, encodeAscii (List.replicate (E.py.recursionLimit + 1) 91), [],
    List.replicate (E.py.recursionLimit + 1) 91, ?_, ?_, ?_, ?_⟩
  · rw [nestedToken, htake, b64uDecode_b64uEncode]
  · rw [nestedToken, hdrop]; rfl
  · rw [hn]
    exact decodeText_ascii (by decide) (by decide) hascii
  · have := nestsBeyond_replicate E.py.recursionLimit []
    rw [List.append_nil] at this
    rw [List.replicate_succ, skipWs_cons (by decide), ← List.replicate_succ]
    exact this

/-- On a token nested too deeply the lock never meets its specification. -/
theorem not_meetsSpec_of_nested {token : PyStr} (hn : NestedToken E token) (l : LockVerifier)
    (challenge response : Bytes) (now : Int) :
    TypedWhenSigned E l token ∧
      (l.finishUnlock E token challenge response now).1 = .error .recursionError ∧
      ¬ MeetsSpec E l token challenge response now := by
  have ht : TypedWhenSigned E l token := by
    intro p hp
    rw [readToken_of_nested hn] at hp
    cases hp
  exact ⟨ht, finishUnlock_of_nested hn l challenge response now,
    fun h => (meetsSpec_iff ht challenge response now).mp h hn⟩

/-- The interpreter that allows a thousand levels, a lock in its initial
state, and a token of one thousand and one brackets: it is malformed, and
the call raises instead of denying it. -/
theorem lock_raises_on_nested_token :
    TypedWhenSigned Env.sample sampleLock (nestedToken Env.sample) ∧
      (sampleLock.finishUnlock Env.sample (nestedToken Env.sample) [] [] 1000).1
        = .error .recursionError ∧
      ¬ MeetsSpec Env.sample sampleLock (nestedToken Env.sample) [] [] 1000 :=
  not_meetsSpec_of_nested (nestedToken_nested (by decide)) sampleLock [] [] 1000

end StayKey.Door
