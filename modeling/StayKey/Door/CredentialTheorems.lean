/-
StayKey.Door.CredentialTheorems — what the checks do with a genuine token.

`parseToken_issue`: the token `issueCredential` returns is parsed into the
issued payload (its keys sorted), the signed bytes and the signature. It
puts together the round trips of `Codec.Base64` and `Codec.JsonTheorems`.

`evaluatePayload_of_carries` gives the static checks of any payload whose
fields have the types `issueCredential` writes (`Carries`) as the first
failing check of a list (`staticChecks`); `evaluateStatic_issue` is the
same for an issued token, under whatever key it is presented.
-/
import StayKey.Codec.JsonNesting
import StayKey.Door.Lock
import StayKey.Program.Prog

namespace StayKey.Door

open StayKey.Codec StayKey.Program

variable {E : Env}

/-! ## The payload -/

theorem payload_nodup (a : CredentialIn) (fresh : Fresh) :
    ((a.payload E fresh).map Prod.fst).Nodup := by
  simp only [CredentialIn.payload, List.map_cons, List.map_nil]
  decide

theorem isScalar_of_isB64u {c : Nat} (h : IsB64u c) : IsScalar c :=
  Or.inl (Nat.lt_trans h.ascii (by decide))

theorem plainItems_map_int (l : List Int) : PlainItems (l.map Json.int) := by
  induction l with
  | nil => trivial
  | cons n l ih => exact ⟨trivial, ih⟩

theorem sortKeysItems_map_int (l : List Int) :
    sortKeysItems (l.map Json.int) = l.map Json.int := by
  induction l with
  | nil => rfl
  | cons n l ih => rw [List.map_cons, sortKeysItems, ih]; rfl

theorem payload_plain (a : CredentialIn) (fresh : Fresh) :
    Plain (.obj (a.payload E fresh)) := by
  have hpy (s : String) : ∀ c ∈ py s, IsScalar c := fun c hc => isScalar_of_mem_py hc
  have hdev : ∀ c ∈ b64uEncode (E.ed.publicKey (a.device fresh)).val, IsScalar c :=
    fun c hc => isScalar_of_isB64u (isB64u_of_mem_b64uEncode hc)
  refine ⟨?_, payload_nodup a fresh⟩
  simp only [CredentialIn.payload, PlainFields, Plain, and_true, true_and, plainItems_map_int]
  exact ⟨hpy _, hpy _, hpy _, hpy _, hpy _, hpy _, hpy _, hpy _, hpy _, hpy _, hpy _, hpy _, hpy _,
    hpy _, hpy _, hpy _, hdev⟩

/-- Inside the payload there is nothing to sort. -/
theorem sortKeys_payload (a : CredentialIn) (fresh : Fresh) :
    sortKeys (.obj (a.payload E fresh)) = .obj (sortByKey (a.payload E fresh)) := by
  simp only [sortKeys, CredentialIn.payload, sortKeysFields, sortKeysItems_map_int]

theorem dictGet_sorted_payload (a : CredentialIn) (fresh : Fresh) (k : PyStr) :
    dictGet? (sortByKey (a.payload E fresh)) k = dictGet? (a.payload E fresh) k :=
  (dictGet_perm (sortByKey_perm _).symm (payload_nodup a fresh) k).symm

/-! ## Parsing a genuine token -/

theorem splitAtDot {a b : PyStr} (ha : ∀ c ∈ a, c ≠ 46) (hb : ∀ c ∈ b, c ≠ 46) :
    (a ++ 46 :: b).count 46 = 1 ∧ (a ++ 46 :: b).takeWhile (· ≠ 46) = a
      ∧ ((a ++ 46 :: b).dropWhile (· ≠ 46)).tail = b := by
  have ha' : a.count 46 = 0 := List.count_eq_zero.mpr fun h => ha 46 h rfl
  have hb' : b.count 46 = 0 := List.count_eq_zero.mpr fun h => hb 46 h rfl
  refine ⟨by simp [ha', hb'], ?_, ?_⟩
  · rw [List.takeWhile_append_of_pos (by simpa using ha)]; simp
  · rw [List.dropWhile_append_of_pos (by simpa using ha)]; simp

/-- What `issueCredential` returns when it returns. -/
theorem issueCredential_ok {sk : PrivateKey} {a : CredentialIn} {fresh : Fresh} {ik : IssuedKey}
    (h : issueCredential E sk a fresh = .ok ik) :
    a.validFrom < a.validUntil ∧ ∃ bytes, canonicalBytes E (a.payload E fresh) = .ok bytes ∧
      ik = { keyId := a.issuedKeyId fresh
             token := b64uEncode bytes ++ 46 :: b64uEncode (E.ed.sign sk bytes)
             deviceSkB64 := b64uEncode (a.device fresh).val
             payload := a.payload E fresh } := by
  unfold issueCredential at h
  split at h
  · cases h
  · rename_i hw
    split at h
    · cases h
    · rename_i bytes hb
      exact ⟨not_le.mp hw, bytes, hb, (Except.ok.inj h).symm⟩

/-- The canonical bytes load as the sorted payload. -/
theorem loads_canonicalBytes {a : CredentialIn} {fresh : Fresh} {bytes : Bytes}
    (h : canonicalBytes E (a.payload E fresh) = .ok bytes) :
    loads E.py bytes = .ok (.obj (sortByKey (a.payload E fresh))) := by
  obtain ⟨t, ht, rfl⟩ := exceptMap_ok_iff.mp h
  rw [loads_dumps E.py (payload_plain a fresh) ht, sortKeys_payload]

/-- A token over the canonical bytes of a payload, whatever its signature,
is parsed into these bytes and that payload. -/
theorem parseToken_canonical {a : CredentialIn} {fresh : Fresh} {bytes : Bytes}
    (h : canonicalBytes E (a.payload E fresh) = .ok bytes) (sig : Bytes) :
    parseToken E (b64uEncode bytes ++ 46 :: b64uEncode sig)
      = .ok (some ⟨sortByKey (a.payload E fresh), bytes, sig⟩) := by
  obtain ⟨hcount, htake, hdrop⟩ := splitAtDot (b64uEncode_ne_dot bytes) (b64uEncode_ne_dot sig)
  have hkey : (dictGet? (sortByKey (a.payload E fresh)) (py "key_id")).isSome = true := by
    rw [dictGet_sorted_payload]; rfl
  unfold parseToken
  rw [if_neg (by simp [hcount]), htake, hdrop, decodeSegments, b64uDecode_b64uEncode,
    b64uDecode_b64uEncode]
  simp only [bind, Except.bind, loads_canonicalBytes h, pure, Except.pure, hkey, if_true]

/-- **The genuine token parses** into the issued payload. -/
theorem parseToken_issue {sk : PrivateKey} {a : CredentialIn} {fresh : Fresh} {ik : IssuedKey}
    (h : issueCredential E sk a fresh = .ok ik) :
    ∃ bytes, canonicalBytes E (a.payload E fresh) = .ok bytes ∧
      parseToken E ik.token
        = .ok (some ⟨sortByKey (a.payload E fresh), bytes, E.ed.sign sk bytes⟩) := by
  obtain ⟨_, bytes, hb, rfl⟩ := issueCredential_ok h
  exact ⟨bytes, hb, parseToken_canonical hb _⟩

/-! ## A credential can be issued -/

/-- The integer is within `sys.get_int_max_str_digits()`. -/
def Printable (n : Int) : Prop := (natText n.natAbs).length ≤ intMaxStrDigits

instance (n : Int) : Decidable (Printable n) :=
  inferInstanceAs (Decidable ((natText n.natAbs).length ≤ intMaxStrDigits))

theorem intRepr_of_printable {n : Int} (h : Printable n) : ∃ t, intRepr n = .ok t :=
  ⟨_, if_neg (not_lt.mpr h)⟩

theorem dumpsItems_isOk {rt : PyRuntime} {d : Nat} {l : List Json}
    (h : ∀ j ∈ l, ∃ t, dumps rt d j = .ok t) : ∃ ts, dumpsItems rt d l = .ok ts := by
  induction l with
  | nil => exact ⟨[], rfl⟩
  | cons j l ih =>
    obtain ⟨t, ht⟩ := h j List.mem_cons_self
    obtain ⟨ts, hts⟩ := ih fun m hm => h m (List.mem_cons_of_mem j hm)
    exact ⟨t :: ts, by rw [dumpsItems, ht, hts]; rfl⟩

theorem dumpsFields_isOk {rt : PyRuntime} {d : Nat} {l : JsonDict}
    (h : ∀ p ∈ l, ∃ t, dumps rt d p.2 = .ok t) : ∃ ts, dumpsFields rt d l = .ok ts := by
  induction l with
  | nil => exact ⟨[], rfl⟩
  | cons p l ih =>
    obtain ⟨t, ht⟩ := h p List.mem_cons_self
    obtain ⟨ts, hts⟩ := ih fun q hq => h q (List.mem_cons_of_mem p hq)
    exact ⟨(p.1, t) :: ts, by rw [dumpsFields, ht, hts]; rfl⟩

theorem dumps_int_isOk {rt : PyRuntime} (d : Nat) {n : Int} (h : Printable n) :
    ∃ t, dumps rt d (.int n) = .ok t := by
  obtain ⟨t, ht⟩ := intRepr_of_printable h
  exact ⟨t, by rw [dumps, ht]⟩

theorem dumps_str_isOk {rt : PyRuntime} (d : Nat) (s : PyStr) : ∃ t, dumps rt d (.str s) = .ok t :=
  ⟨escapeString s, by rw [dumps]⟩

/-- The integers of the credential can be written. -/
structure CredentialIn.Writable (a : CredentialIn) : Prop where
  window : a.validFrom < a.validUntil
  roomIds : ∀ r ∈ a.roomIds, Printable r
  validFrom : Printable a.validFrom
  validUntil : Printable a.validUntil
  issuedAt : Printable a.issuedAt

/-- With two levels of nesting to spare, a writable credential is issued. -/
theorem issueCredential_isOk {a : CredentialIn} (h : a.Writable)
    (hlimit : 2 ≤ E.py.recursionLimit) (sk : PrivateKey) (fresh : Fresh) :
    ∃ ik, issueCredential E sk a fresh = .ok ik := by
  obtain ⟨d, hd⟩ : ∃ d, E.py.recursionLimit = d + 2 := ⟨_, (Nat.sub_add_cancel hlimit).symm⟩
  have hrooms : ∃ t, dumps E.py (d + 1) (.arr ((a.roomIds.insertionSort (· ≤ ·)).map .int)) = .ok t := by
    have hitems : ∀ j ∈ (a.roomIds.insertionSort (· ≤ ·)).map Json.int, ∃ t, dumps E.py d j = .ok t := by
      intro j hj
      obtain ⟨n, hn, rfl⟩ := List.mem_map.mp hj
      exact dumps_int_isOk d (h.roomIds n ((List.mem_insertionSort _).mp hn))
    obtain ⟨ts, hts⟩ := dumpsItems_isOk hitems
    exact ⟨_, by rw [dumps, hts]; rfl⟩
  have hfields : ∃ ts, dumpsFields E.py (d + 1) (a.payload E fresh) = .ok ts := by
    refine dumpsFields_isOk ?_
    have hone : Printable 1 := by decide
    simp only [CredentialIn.payload, List.forall_mem_cons, dumps_str_isOk, hrooms,
      dumps_int_isOk _ hone, dumps_int_isOk _ h.validFrom, dumps_int_isOk _ h.validUntil,
      dumps_int_isOk _ h.issuedAt, true_and, List.not_mem_nil, false_implies, implies_true]
  obtain ⟨ts, hts⟩ := hfields
  have hb : ∃ bytes, canonicalBytes E (a.payload E fresh) = .ok bytes :=
    ⟨_, by rw [canonicalBytes, hd, dumps, hts]; rfl⟩
  obtain ⟨bytes, hb⟩ := hb
  rw [issueCredential, if_neg (not_le.mpr h.window), hb]
  exact ⟨_, rfl⟩

/-! ## The static checks on typed payloads -/

/-- The payload fields a verifier reads, with the types `issueCredential`
writes them in. -/
structure Fields where
  keyId : PyStr
  stayId : PyStr
  propertyId : PyStr
  roomIds : List Int
  validFrom : Int
  validUntil : Int
  devicePub : PyStr

/-- The payload carries these fields. -/
structure Carries (payload : JsonDict) (f : Fields) : Prop where
  keyId : dictGet? payload (py "key_id") = some (.str f.keyId)
  stayId : dictGet? payload (py "stay_id") = some (.str f.stayId)
  propertyId : dictGet? payload (py "property_id") = some (.str f.propertyId)
  roomIds : dictGet? payload (py "room_ids") = some (.arr (f.roomIds.map .int))
  validFrom : dictGet? payload (py "valid_from") = some (.int f.validFrom)
  validUntil : dictGet? payload (py "valid_until") = some (.int f.validUntil)
  devicePub : dictGet? payload (py "device_pub") = some (.str f.devicePub)

/-- The fields of an issued payload. -/
def CredentialIn.fields (E : Env) (a : CredentialIn) (fresh : Fresh) : Fields where
  keyId := py (a.issuedKeyId fresh)
  stayId := py a.stayId
  propertyId := py a.propertyId
  roomIds := a.roomIds.insertionSort (· ≤ ·)
  validFrom := a.validFrom
  validUntil := a.validUntil
  devicePub := b64uEncode (E.ed.publicKey (a.device fresh)).val

/-- A payload that went through issue and parse carries what was issued. -/
theorem carries_payload (a : CredentialIn) (fresh : Fresh) :
    Carries (sortByKey (a.payload E fresh)) (a.fields E fresh) := by
  constructor <;> rw [dictGet_sorted_payload] <;> rfl

/-- The payload that is handed out carries the same. -/
theorem carries_issued {sk : PrivateKey} {a : CredentialIn} {fresh : Fresh} {ik : IssuedKey}
    (h : issueCredential E sk a fresh = .ok ik) : Carries ik.payload (a.fields E fresh) := by
  obtain ⟨_, bytes, -, rfl⟩ := issueCredential_ok h
  constructor <;> rfl

/-- A payload carries at most one record of fields. -/
theorem Carries.unique {payload : JsonDict} {f g : Fields} (hf : Carries payload f)
    (hg : Carries payload g) : f = g := by
  have hints : Function.Injective (List.map Json.int) :=
    List.map_injective_iff.mpr fun m n h => Json.int.inj h
  have h1 := hf.keyId.symm.trans hg.keyId
  have h2 := hf.stayId.symm.trans hg.stayId
  have h3 := hf.propertyId.symm.trans hg.propertyId
  have h4 := hf.roomIds.symm.trans hg.roomIds
  have h5 := hf.validFrom.symm.trans hg.validFrom
  have h6 := hf.validUntil.symm.trans hg.validUntil
  have h7 := hf.devicePub.symm.trans hg.devicePub
  simp only [Option.some.injEq, Json.str.injEq, Json.arr.injEq, Json.int.injEq] at h1 h2 h3 h4 h5 h6 h7
  cases f; cases g
  simp only [Fields.mk.injEq]
  exact ⟨h1, h2, h3, hints h4, h5, h6, h7⟩

theorem roomListed_map_int (l : List Int) (room : Int) :
    roomListed (.arr (l.map .int)) room = decide (room ∈ l) := by
  rw [roomListed, List.any_map]
  induction l with
  | nil => rfl
  | cons n l ih =>
    rw [List.any_cons, ih]
    simp [Function.comp, eqInt, List.mem_cons, eq_comm, Bool.beq_eq_decide_eq]

/-- The static checks after the signature, in the order they are made. -/
def staticChecks (f : Fields) (expectedProperty : String) (expectedRoom now : Int)
    (revoked : Finset PyStr) : List (DenyReason × Bool) :=
  [ (.wrongProperty, f.propertyId = py expectedProperty),
    (.wrongRoom, expectedRoom ∈ f.roomIds),
    (.notYetValid, f.validFrom ≤ now),
    (.expired, now ≤ f.validUntil),
    (.revoked, f.keyId ∉ revoked) ]

theorem staticChecks_hold_iff {f : Fields} {expectedProperty : String} {expectedRoom now : Int}
    {revoked : Finset PyStr} :
    firstFailing (staticChecks f expectedProperty expectedRoom now revoked) = none ↔
      f.propertyId = py expectedProperty ∧ expectedRoom ∈ f.roomIds ∧ f.validFrom ≤ now ∧
        now ≤ f.validUntil ∧ f.keyId ∉ revoked := by
  simp [firstFailing_eq_none_iff, staticChecks]

/-- The answer of the checks as a `StaticResult`. -/
def StaticResult.ofReason (payload : JsonDict) (keyId : PyStr) : Option DenyReason → StaticResult
  | none => .pass payload
  | some reason => .deny (.deny reason keyId)

/-- **The static checks of a typed payload** answer with the reason of the
first that fails. -/
theorem evaluatePayload_of_carries {payload : JsonDict} {f : Fields} (h : Carries payload f)
    (expectedProperty : String) (expectedRoom now : Int) (revoked : Finset PyStr) :
    evaluatePayload E payload expectedProperty expectedRoom now revoked
      = .ok (.ofReason payload f.keyId
          (firstFailing (staticChecks f expectedProperty expectedRoom now revoked))) := by
  have hreq : (requiredFields.any fun k => (dictGet? payload k).isNone) = false := by
    simp [requiredFields, h.propertyId, h.roomIds, h.validFrom, h.validUntil, h.devicePub]
  unfold evaluatePayload staticChecks
  simp only [hreq, h.keyId, h.propertyId, h.roomIds, h.validFrom, h.validUntil, Option.getD_some,
    pyStr, pyInt, eqStr, roomListed_map_int, bind, Except.bind, pure, Except.pure]
  by_cases hp : f.propertyId = py expectedProperty
  case neg => simp [hp, firstFailing, StaticResult.ofReason]
  by_cases hr : expectedRoom ∈ f.roomIds
  case neg => simp [hp, hr, firstFailing, StaticResult.ofReason]
  by_cases hf : f.validFrom ≤ now
  case neg => simp [hp, hr, hf, not_le.mp hf, firstFailing, StaticResult.ofReason]
  by_cases hu : now ≤ f.validUntil
  case neg => simp [hp, hr, hf, not_lt.mpr hf, hu, not_le.mp hu, firstFailing, StaticResult.ofReason]
  by_cases hk : f.keyId ∈ revoked
  · simp [hp, hr, hf, not_lt.mpr hf, hu, not_lt.mpr hu, hk, firstFailing, StaticResult.ofReason]
  · simp [hp, hr, hf, not_lt.mpr hf, hu, not_lt.mpr hu, hk, firstFailing, StaticResult.ofReason]

/-- Once the token is parsed the signature decides whether the payload is
looked at. -/
theorem evaluateStatic_of_parsed {token : PyStr} {p : ParsedToken}
    (h : parseToken E token = .ok (some p)) (pub : PublicKey) (expectedProperty : String)
    (expectedRoom now : Int) (revoked : Finset PyStr) :
    evaluateStatic E token pub expectedProperty expectedRoom now revoked
      = if E.ed.verify pub p.signature p.payloadBytes then
          evaluatePayload E p.payload expectedProperty expectedRoom now revoked
        else .ok (.deny (.deny .forgedSignature none)) := by
  simp only [evaluateStatic, h, bind, Except.bind]
  have hs : signatureOk E pub p.payloadBytes p.signature
      = E.ed.verify pub p.signature p.payloadBytes := rfl
  cases hv : E.ed.verify pub p.signature p.payloadBytes with
  | false => rw [hs.trans hv]; rfl
  | true => rw [hs.trans hv]; rfl

/-- **`parse_token` on a string**: the two segments decode, and the bytes of
the first load as a dictionary with a key id. -/
theorem parseToken_some_iff {token : PyStr} {p : ParsedToken} :
    parseToken E token = .ok (some p) ↔
      token.count 46 = 1 ∧ b64uDecode (token.takeWhile (· ≠ 46)) = .ok p.payloadBytes ∧
        b64uDecode (token.dropWhile (· ≠ 46)).tail = .ok p.signature ∧
        loads E.py p.payloadBytes = .ok (.obj p.payload) ∧
        (dictGet? p.payload (py "key_id")).isSome = true := by
  constructor
  · intro h
    unfold parseToken at h
    split at h
    · cases h
    rename_i hcount
    split at h
    case h_3 payloadBytes signature payload hseg =>
      split at h
      · rename_i hkey
        cases h
        obtain ⟨b, hb, hseg⟩ := exceptBind_ok hseg
        obtain ⟨sig, hsig, hseg⟩ := exceptBind_ok hseg
        obtain ⟨j, hj, hseg⟩ := exceptBind_ok hseg
        cases hseg
        exact ⟨not_not.mp hcount, hb, hsig, hj, hkey⟩
      · cases h
    all_goals cases h
  · rintro ⟨hcount, hb, hsig, hj, hkey⟩
    rw [parseToken, if_neg (not_not_intro hcount), decodeSegments, hb, hsig]
    simp only [bind, Except.bind, hj, pure, Except.pure, hkey, if_true]

/-- The payload of a parsed token is what its bytes load as. -/
theorem parseToken_loads {token : PyStr} {p : ParsedToken} (h : parseToken E token = .ok (some p)) :
    loads E.py p.payloadBytes = .ok (.obj p.payload) :=
  (parseToken_some_iff.mp h).2.2.2.1

/-- The static checks deny, or pass the payload on, its key not being in the
snapshot. -/
theorem evaluatePayload_ok {payload : JsonDict} {expectedProperty : String} {expectedRoom now : Int}
    {revoked : Finset PyStr} {result : StaticResult}
    (h : evaluatePayload E payload expectedProperty expectedRoom now revoked = .ok result) :
    (result = .pass payload ∧
        pyStr E.py ((dictGet? payload (py "key_id")).getD .null) ∉ revoked) ∨
      ∃ reason keyId, result = .deny (.deny reason keyId) := by
  have hdeny {P : Prop} {reason : DenyReason} {keyId : Option PyStr} {result : StaticResult}
      (h : (Except.ok (.deny (.deny reason keyId)) : Except PyError StaticResult) = .ok result) :
      P ∨ ∃ reason keyId, result = .deny (.deny reason keyId) :=
    .inr ⟨_, _, (Except.ok.inj h).symm⟩
  unfold evaluatePayload at h
  dsimp only at h
  split at h
  · exact hdeny h
  split at h
  · exact hdeny h
  split at h
  · exact hdeny h
  obtain ⟨validFrom, -, h⟩ := exceptBind_ok h
  split at h
  · exact hdeny h
  obtain ⟨validUntil, -, h⟩ := exceptBind_ok h
  split at h
  · exact hdeny h
  split at h
  · exact hdeny h
  · rename_i hrevoked
    exact .inl ⟨(Except.ok.inj h).symm, hrevoked⟩

/-- A denial for revocation names a key of the snapshot. -/
theorem evaluatePayload_revoked {payload : JsonDict} {expectedProperty : String} {expectedRoom now : Int}
    {revoked : Finset PyStr} {keyId : Option PyStr}
    (h : evaluatePayload E payload expectedProperty expectedRoom now revoked
      = .ok (.deny (.deny .revoked keyId))) : ∃ k ∈ revoked, keyId = some k := by
  unfold evaluatePayload at h
  dsimp only at h
  split at h
  · cases h
  split at h
  · cases h
  split at h
  · cases h
  obtain ⟨validFrom, -, h⟩ := exceptBind_ok h
  split at h
  · cases h
  obtain ⟨validUntil, -, h⟩ := exceptBind_ok h
  split at h
  · cases h
  split at h
  · rename_i hrevoked
    cases h
    exact ⟨_, hrevoked, rfl⟩
  · cases h

/-- The static checks answer for a token that parses and whose signature
verifies; every other answer is a denial. -/
theorem evaluateStatic_ok {token : PyStr} {pub : PublicKey} {expectedProperty : String}
    {expectedRoom now : Int} {revoked : Finset PyStr} {result : StaticResult}
    (h : evaluateStatic E token pub expectedProperty expectedRoom now revoked = .ok result) :
    (∃ reason keyId, result = .deny (.deny reason keyId)) ∨
      ∃ p, parseToken E token = .ok (some p) ∧ E.ed.verify pub p.signature p.payloadBytes = true ∧
        evaluatePayload E p.payload expectedProperty expectedRoom now revoked = .ok result ∧
        result = .pass p.payload := by
  obtain ⟨o, hparse, hrest⟩ := exceptBind_ok h
  cases o with
  | none => exact .inl ⟨_, _, (Except.ok.inj hrest).symm⟩
  | some p =>
    rw [evaluateStatic_of_parsed hparse] at h
    by_cases hv : E.ed.verify pub p.signature p.payloadBytes = true
    · rw [if_pos hv] at h
      rcases evaluatePayload_ok h with ⟨hpass, -⟩ | hdeny
      · exact .inr ⟨p, hparse, hv, h, hpass⟩
      · exact .inl hdeny
    · rw [if_neg hv] at h
      exact .inl ⟨_, _, (Except.ok.inj h).symm⟩

theorem evaluateStatic_revoked {token : PyStr} {pub : PublicKey} {expectedProperty : String}
    {expectedRoom now : Int} {revoked : Finset PyStr} {keyId : Option PyStr}
    (h : evaluateStatic E token pub expectedProperty expectedRoom now revoked
      = .ok (.deny (.deny .revoked keyId))) : ∃ k ∈ revoked, keyId = some k := by
  obtain ⟨o, hparse, hrest⟩ := exceptBind_ok h
  cases o with
  | none => cases hrest
  | some p =>
    rw [evaluateStatic_of_parsed hparse] at h
    split at h
    · exact evaluatePayload_revoked h
    · cases h

/-- An issued token under any key: either the signature does not verify
there, or the checks run on the issued fields. -/
theorem evaluateStatic_issue {sk : PrivateKey} {a : CredentialIn} {fresh : Fresh} {ik : IssuedKey}
    (h : issueCredential E sk a fresh = .ok ik) (pub : PublicKey) (expectedProperty : String)
    (expectedRoom now : Int) (revoked : Finset PyStr) :
    ∃ bytes, canonicalBytes E (a.payload E fresh) = .ok bytes ∧
      evaluateStatic E ik.token pub expectedProperty expectedRoom now revoked
        = .ok (if E.ed.verify pub (E.ed.sign sk bytes) bytes then
            .ofReason (sortByKey (a.payload E fresh)) (py (a.issuedKeyId fresh))
              (firstFailing (staticChecks (a.fields E fresh) expectedProperty expectedRoom now revoked))
          else .deny (.deny .forgedSignature none)) := by
  obtain ⟨bytes, hb, hp⟩ := parseToken_issue h
  refine ⟨bytes, hb, ?_⟩
  rw [evaluateStatic_of_parsed hp, evaluatePayload_of_carries (carries_payload a fresh)]
  split <;> rfl

end StayKey.Door
