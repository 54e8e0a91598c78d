/-
StayKey.Door.Answered — which presentations a lock answers with a decision.

The signature is checked before the payload, so the payloads that reach the
other checks are those the property signed, of whatever types. The checks
convert two fields with `int()` and read a third as text. `WindowSafe` and
`DeviceKeySafe` say when these go well; a field
is only looked at when the checks before it passed, so each clause stands
under what came first.

`finishUnlock_isOk_iff`: the call returns a decision exactly on a token
within the recursion limit whose signed payload is safe.
-/
import StayKey.Door.LockTheorems

namespace StayKey.Door

open StayKey.Codec StayKey.Program

variable (E : Env)

/-- `int(x)` returns. -/
def Convertible : Json → Prop
  | .int _ | .bool _ | .float (.finite ..) => True
  | .str s => (E.py.intOfStr s).isSome
  | .float _ | .null | .arr _ | .obj _ => False

/-- A field of a payload that has it. -/
def field (payload : JsonDict) (k : String) : Json := (dictGet? payload (py k)).getD .null

/-- The payload has the required fields and is for this property and room. -/
structure Addressed (payload : JsonDict) (propertyId : String) (roomId : Int) : Prop where
  required : ∀ k ∈ requiredFields, (dictGet? payload k).isSome = true
  property : eqStr (field payload "property_id") (py propertyId) = true
  room : roomListed (field payload "room_ids") roomId = true

/-- The ends of the window convert, as far as they are looked at. -/
structure WindowSafe (payload : JsonDict) (now : Int) : Prop where
  validFrom : Convertible E (field payload "valid_from")
  validUntil : ∀ n, pyInt E.py (field payload "valid_from") = .ok n → n ≤ now →
    Convertible E (field payload "valid_until")

/-- The window contains `now` and the key is not in the snapshot. -/
structure InForce (payload : JsonDict) (now : Int) (revoked : Finset PyStr) : Prop where
  validFrom : ∃ n, pyInt E.py (field payload "valid_from") = .ok n ∧ n ≤ now
  validUntil : ∃ n, pyInt E.py (field payload "valid_until") = .ok n ∧ now ≤ n
  unrevoked : payloadKeyId E payload ∉ revoked

variable {E}

theorem pyInt_isOk_iff {j : Json} : (∃ n, pyInt E.py j = .ok n) ↔ Convertible E j := by
  cases j with
  | int n => exact iff_of_true ⟨n, rfl⟩ trivial
  | bool b => exact iff_of_true ⟨_, rfl⟩ trivial
  | float x =>
    cases x with
    | nan => exact iff_of_false not_isOk_error id
    | inf neg => exact iff_of_false not_isOk_error id
    | finite neg m e => exact iff_of_true ⟨_, rfl⟩ trivial
  | str s =>
    rw [pyInt, Convertible]
    cases E.py.intOfStr s with
    | none => exact iff_of_false not_isOk_error fun h => by cases h
    | some n => exact iff_of_true ⟨n, rfl⟩ rfl
  | null | arr | obj => exact iff_of_false not_isOk_error id

/-! ## The static checks -/

section StaticChecks

variable {payload : JsonDict} {propertyId : String} {roomId now : Int} {revoked : Finset PyStr}

/-- The checks of the window and of the snapshot, which come last. -/
def windowChecks (E : Env) (payload : JsonDict) (now : Int) (revoked : Finset PyStr) :
    Except PyError StaticResult := do
  let keyId := payloadKeyId E payload
  let validFrom ← pyInt E.py (field payload "valid_from")
  if now < validFrom then return .deny (.deny .notYetValid keyId)
  let validUntil ← pyInt E.py (field payload "valid_until")
  if validUntil < now then return .deny (.deny .expired keyId)
  if keyId ∈ revoked then return .deny (.deny .revoked keyId)
  return .pass payload

theorem required_iff : (requiredFields.any fun k => (dictGet? payload k).isNone) = false ↔
    ∀ k ∈ requiredFields, (dictGet? payload k).isSome = true := by
  rw [List.any_eq_false]
  exact forall₂_congr fun k _ => by cases dictGet? payload k <;> simp

/-- A payload for another door is denied, one for this door is checked on. -/
theorem evaluatePayload_eq (E : Env) (payload : JsonDict) (propertyId : String) (roomId now : Int)
    (revoked : Finset PyStr) :
    (Addressed payload propertyId roomId ∧ evaluatePayload E payload propertyId roomId now revoked
      = windowChecks E payload now revoked) ∨
    (¬ Addressed payload propertyId roomId ∧
      ∃ d, evaluatePayload E payload propertyId roomId now revoked = .ok (.deny d)) := by
  unfold evaluatePayload
  by_cases hreq : (requiredFields.any fun k => (dictGet? payload k).isNone) = true
  · refine .inr ⟨fun h => ?_, _, if_pos hreq⟩
    rw [required_iff.mpr h.required] at hreq
    cases hreq
  by_cases hp : eqStr (field payload "property_id") (py propertyId) = true
  swap
  · exact .inr ⟨fun h => hp h.property, _, by rw [if_neg hreq, if_pos (by simpa [field] using hp)]⟩
  by_cases hr : roomListed (field payload "room_ids") roomId = true
  swap
  · exact .inr ⟨fun h => hr h.room, _, by
      rw [if_neg hreq, if_neg (by simpa [field] using hp), if_pos (by simpa [field] using hr)]⟩
  · refine .inl ⟨⟨required_iff.mp (by simpa using hreq), hp, hr⟩, ?_⟩
    rw [if_neg hreq, if_neg (by simpa [field] using hp), if_neg (by simpa [field] using hr)]
    rfl

/-- The window is checked without an exception if it is safe. -/
theorem windowChecks_isOk_iff :
    (∃ r, windowChecks E payload now revoked = .ok r) ↔ WindowSafe E payload now := by
  unfold windowChecks
  constructor
  · rintro ⟨r, hr⟩
    obtain ⟨n, hn, hr⟩ := exceptBind_ok hr
    refine ⟨pyInt_isOk_iff.mp ⟨n, hn⟩, fun n' hn' hle => ?_⟩
    obtain rfl : n = n' := Except.ok.inj (hn.symm.trans hn')
    rw [if_neg (not_lt.mpr hle)] at hr
    obtain ⟨m, hm, -⟩ := exceptBind_ok hr
    exact pyInt_isOk_iff.mp ⟨m, hm⟩
  · rintro ⟨hfrom, huntil⟩
    obtain ⟨n, hn⟩ := pyInt_isOk_iff.mpr hfrom
    simp only [hn, bind, Except.bind]
    by_cases hle : n ≤ now
    swap
    · rw [if_pos (not_le.mp hle)]
      exact ⟨_, rfl⟩
    obtain ⟨m, hm⟩ := pyInt_isOk_iff.mpr (huntil n hn hle)
    rw [if_neg (not_lt.mpr hle), hm]
    simp only
    split
    · exact ⟨_, rfl⟩
    · split <;> exact ⟨_, rfl⟩

theorem windowChecks_pass_iff :
    windowChecks E payload now revoked = .ok (.pass payload) ↔ InForce E payload now revoked := by
  unfold windowChecks
  constructor
  · intro h
    obtain ⟨n, hn, h⟩ := exceptBind_ok h
    by_cases hle : n ≤ now
    swap
    · rw [if_pos (not_le.mp hle)] at h
      cases h
    rw [if_neg (not_lt.mpr hle)] at h
    obtain ⟨m, hm, h⟩ := exceptBind_ok h
    by_cases hlt : now ≤ m
    swap
    · rw [if_pos (not_le.mp hlt)] at h
      cases h
    rw [if_neg (not_lt.mpr hlt)] at h
    by_cases hrev : payloadKeyId E payload ∈ revoked
    · rw [if_pos hrev] at h
      cases h
    · exact ⟨⟨n, hn, hle⟩, ⟨m, hm, hlt⟩, hrev⟩
  · rintro ⟨⟨n, hn, hle⟩, ⟨m, hm, hlt⟩, hrev⟩
    simp only [hn, hm, bind, Except.bind, if_neg (not_lt.mpr hle), if_neg (not_lt.mpr hlt), if_neg hrev]
    rfl

theorem evaluatePayload_isOk_iff (E : Env) (payload : JsonDict) (propertyId : String) (roomId now : Int)
    (revoked : Finset PyStr) :
    (∃ r, evaluatePayload E payload propertyId roomId now revoked = .ok r) ↔
      (Addressed payload propertyId roomId → WindowSafe E payload now) := by
  rcases evaluatePayload_eq E payload propertyId roomId now revoked with ⟨ha, heq⟩ | ⟨ha, d, hd⟩
  · rw [heq, windowChecks_isOk_iff]
    exact ⟨fun h _ => h, fun h => h ha⟩
  · exact iff_of_true ⟨_, hd⟩ fun h => (ha h).elim

theorem evaluatePayload_pass_iff (E : Env) (payload : JsonDict) (propertyId : String) (roomId now : Int)
    (revoked : Finset PyStr) :
    evaluatePayload E payload propertyId roomId now revoked = .ok (.pass payload) ↔
      Addressed payload propertyId roomId ∧ InForce E payload now revoked := by
  rcases evaluatePayload_eq E payload propertyId roomId now revoked with ⟨ha, heq⟩ | ⟨ha, d, hd⟩
  · rw [heq, windowChecks_pass_iff]
    exact (and_iff_right ha).symm
  · rw [hd]
    exact iff_of_false nofun fun h => ha h.1

end StaticChecks

/-! ## What comes after the static checks -/

/-- The answer of a verifier that goes on with `k` when they pass. -/
def afterStatic (result : Except PyError StaticResult) (k : JsonDict → Except PyError Decision) :
    Except PyError Decision :=
  match result with
  | .error e => .error e
  | .ok (.deny d) => .ok d
  | .ok (.pass payload) => k payload

/-- What every payload of the token signed by this key satisfies. -/
def SignedPayload (E : Env) (pub : PublicKey) (token : PyStr) (P : JsonDict → Prop) : Prop :=
  ∀ p, parseToken E token = .ok (some p) → E.ed.verify pub p.signature p.payloadBytes = true →
    P p.payload

/-- A signed payload that the checks of a door can read now, where `K` says
what the checks that follow need of it. -/
def SafePayload (E : Env) (propertyId : String) (roomId now : Int) (revoked : Finset PyStr)
    (K : JsonDict → Prop) (payload : JsonDict) : Prop :=
  Addressed payload propertyId roomId →
    WindowSafe E payload now ∧ (InForce E payload now revoked → K payload)

theorem afterStatic_payload_isOk_iff {payload : JsonDict} {propertyId : String} {roomId now : Int}
    {revoked : Finset PyStr} {k : JsonDict → Except PyError Decision} {K : JsonDict → Prop}
    (hk : ∀ payload, (∃ d, k payload = .ok d) ↔ K payload) :
    (∃ d, afterStatic (evaluatePayload E payload propertyId roomId now revoked) k = .ok d) ↔
      SafePayload E propertyId roomId now revoked K payload := by
  have hsafe := evaluatePayload_isOk_iff E payload propertyId roomId now revoked
  have hpass := evaluatePayload_pass_iff E payload propertyId roomId now revoked
  cases he : evaluatePayload E payload propertyId roomId now revoked with
  | error e =>
    rw [he] at hsafe
    have hnot : ¬ (Addressed payload propertyId roomId → WindowSafe E payload now) :=
      fun h => by obtain ⟨_, h⟩ := hsafe.mpr h; cases h
    exact iff_of_false not_isOk_error fun h => hnot fun ha => (h ha).1
  | ok result =>
    rw [he] at hsafe hpass
    have hwindow := hsafe.mp ⟨_, rfl⟩
    rcases evaluatePayload_ok he with ⟨rfl, -⟩ | ⟨reason, keyId, rfl⟩
    · obtain ⟨haddr, hforce⟩ := hpass.mp rfl
      refine (hk payload).trans ⟨fun h _ => ⟨hwindow haddr, fun _ => h⟩, fun h => ?_⟩
      exact (h haddr).2 hforce
    · refine iff_of_true ⟨_, rfl⟩ fun ha => ⟨hwindow ha, fun hforce => ?_⟩
      cases hpass.mpr ⟨ha, hforce⟩

/-- **When a verifier answers a token**: if it does not nest too deeply, and
its payload is safe should it be signed. -/
theorem afterStatic_isOk_iff {token : PyStr} {pub : PublicKey} {propertyId : String} {roomId now : Int}
    {revoked : Finset PyStr} {k : JsonDict → Except PyError Decision} {K : JsonDict → Prop}
    (hk : ∀ payload, (∃ d, k payload = .ok d) ↔ K payload) :
    (∃ d, afterStatic (evaluateStatic E token pub propertyId roomId now revoked) k = .ok d) ↔
      ¬ NestedToken E token ∧
        SignedPayload E pub token (SafePayload E propertyId roomId now revoked K) := by
  cases hp : parseToken E token with
  | error e =>
    obtain ⟨rfl, hn⟩ := parseToken_error_iff.mp hp
    simp only [evaluateStatic, hp, bind, Except.bind]
    exact iff_of_false not_isOk_error fun h => h.1 hn
  | ok o =>
    have hn : ¬ NestedToken E token := fun hn => by
      rw [parseToken_error_iff.mpr ⟨rfl, hn⟩] at hp
      cases hp
    refine Iff.trans ?_ (and_iff_right hn).symm
    unfold SignedPayload
    rw [hp]
    cases o with
    | none =>
      simp only [evaluateStatic, hp, bind, Except.bind]
      exact iff_of_true ⟨_, rfl⟩ fun _ h => by cases h
    | some p =>
      rw [evaluateStatic_of_parsed hp]
      cases hv : E.ed.verify pub p.signature p.payloadBytes with
      | false =>
        refine iff_of_true ⟨_, rfl⟩ fun q hq hqv => ?_
        cases hq
        rw [hv] at hqv
        cases hqv
      | true =>
        rw [if_pos rfl, afterStatic_payload_isOk_iff hk]
        constructor
        · intro h q hq _
          cases hq
          exact h
        · exact fun h => h p rfl hv

/-! ## The lock -/

/-- The challenge is checked, and the response to an acceptable one is
verified under a key that is text. -/
theorem presentChallenge_isOk_iff {store : ChallengeStore} {keyId : PyStr} {devicePub : Json}
    {challenge response : Bytes} {now : Int} :
    (∃ d, (presentChallenge E store keyId devicePub challenge response now).1 = .ok d) ↔
      (store.Acceptable challenge now → ∃ s, devicePub = .str s) := by
  rw [← ChallengeStore.check_eq_ok_iff]
  unfold presentChallenge
  cases store.check challenge now with
  | replayed | unknown => exact iff_of_true ⟨_, rfl⟩ nofun
  | ok =>
    cases devicePub with
    | str s =>
      refine iff_of_true ?_ fun _ => ⟨s, rfl⟩
      simp only [verifyDeviceResponse_str]
      cases possession E s challenge response <;> exact ⟨_, rfl⟩
    | null | bool | int | float | arr | obj =>
      exact iff_of_false not_isOk_error fun h => by obtain ⟨_, hs⟩ := h rfl; cases hs

/-- The key of a payload can be verified under, if it comes to that. -/
def DeviceKeySafe (store : ChallengeStore) (challenge : Bytes) (now : Int) (payload : JsonDict) : Prop :=
  store.Acceptable challenge now → ∃ s, field payload "device_pub" = .str s

theorem finishUnlock_fst (l : LockVerifier) (token : PyStr) (challenge response : Bytes) (now : Int) :
    (l.finishUnlock E token challenge response now).1 =
      afterStatic (evaluateStatic E token l.propertyPub l.propertyId l.roomId now l.revoked)
        fun payload => (presentChallenge E l.challenges (payloadKeyId E payload)
          (payloadDevicePub payload) challenge response now).1 := by
  unfold LockVerifier.finishUnlock afterStatic
  cases evaluateStatic E token l.propertyPub l.propertyId l.roomId now l.revoked with
  | error e => rfl
  | ok result => cases result <;> rfl

/-- **When the lock answers.** -/
theorem finishUnlock_isOk_iff (l : LockVerifier) (token : PyStr) (challenge response : Bytes) (now : Int) :
    (∃ d, (l.finishUnlock E token challenge response now).1 = .ok d) ↔
      ¬ NestedToken E token ∧ SignedPayload E l.propertyPub token
        (SafePayload E l.propertyId l.roomId now l.revoked
          (DeviceKeySafe l.challenges challenge now)) := by
  rw [finishUnlock_fst]
  exact afterStatic_isOk_iff fun _ => presentChallenge_isOk_iff

/-! ## Typed payloads -/

section Typed

variable {payload : JsonDict} {f : Fields}

/-- The token cannot be parsed, or its payload has the types of an issued
one. -/
def TypedToken (E : Env) (token : PyStr) : Prop :=
  ∀ p, parseToken E token = .ok (some p) → ∃ f, Carries p.payload f

theorem windowSafe_of_carries (h : Carries payload f) (now : Int) : WindowSafe E payload now := by
  constructor
  · rw [field, h.validFrom]
    trivial
  · intro _ _ _
    rw [field, h.validUntil]
    trivial

theorem deviceKeySafe_of_carries (h : Carries payload f) (store : ChallengeStore)
    (challenge : Bytes) (now : Int) : DeviceKeySafe store challenge now payload :=
  fun _ => ⟨f.devicePub, by rw [field, h.devicePub, Option.getD_some]⟩

/-- What the token of an issued key is parsed into. -/
theorem carries_of_parsed {sk : PrivateKey} {a : CredentialIn} {fresh : Fresh} {key : IssuedKey}
    (hkey : issueCredential E sk a fresh = .ok key) {p : ParsedToken}
    (hp : parseToken E key.token = .ok (some p)) : Carries p.payload (a.fields E fresh) := by
  obtain ⟨bytes, -, hparse⟩ := parseToken_issue hkey
  obtain rfl : _ = p := Option.some.inj (Except.ok.inj (hparse.symm.trans hp))
  exact carries_payload a fresh

/-- An issued token does not nest too deeply. -/
theorem not_nested_issue {sk : PrivateKey} {a : CredentialIn} {fresh : Fresh} {key : IssuedKey}
    (hkey : issueCredential E sk a fresh = .ok key) : ¬ NestedToken E key.token := by
  obtain ⟨bytes, -, hparse⟩ := parseToken_issue hkey
  intro hnested
  rw [parseToken_error_iff.mpr ⟨rfl, hnested⟩] at hparse
  cases hparse

end Typed

end StayKey.Door
