/-
StayKey.Door.TokenRoundTrip — decoding a token undoes encoding it.

Three facts meet here: a credential whose integers can be written is
issued (`issueCredential_isOk`), its token parses into the dictionary that
was issued, the bytes that were signed and the signature
(`parseToken_issue`), and the canonical bytes stand for the dictionary and
not for the order it was filled in (`canonicalBytes_of_sameJson`,
`sameJson_of_canonicalBytes`).

Dictionaries are compared as Python does: `List.Perm` on the entries is
equality of two dictionaries with the same values, `SameJson` the same at
every depth.
-/
import StayKey.Codec.JsonCanonical
import StayKey.Door.LockTheorems

namespace StayKey.Door

open StayKey.Codec

variable {E : Env}

/-! ## Canonical bytes -/

/-- A text is recovered from the bytes it is encoded in. -/
theorem encodeAscii_inj {s t : PyStr} (hs : Ascii s) (ht : Ascii t)
    (h : encodeAscii s = encodeAscii t) : s = t := by
  have hdecode := utf8Decode_ascii hs
  rw [h, utf8Decode_ascii ht] at hdecode
  exact (Option.some.inj hdecode).symm

/-- The order in which a dictionary was filled is not signed. -/
theorem canonicalBytes_of_sameJson {l m : JsonDict} (h : SameJson (.obj l) (.obj m))
    (hm : DistinctKeys (.obj m)) {bytes : Bytes} :
    canonicalBytes E l = .ok bytes ↔ canonicalBytes E m = .ok bytes := by
  rw [canonicalBytes, canonicalBytes, exceptMap_ok_iff, exceptMap_ok_iff]
  exact exists_congr fun t => and_congr_left fun _ => h.dumps_ok E.py hm

/-- Different dictionaries are signed as different bytes. -/
theorem sameJson_of_canonicalBytes {l m : JsonDict} (hl : Plain (.obj l)) (hm : Plain (.obj m))
    {bytes : Bytes} (h : canonicalBytes E l = .ok bytes) (h' : canonicalBytes E m = .ok bytes) :
    SameJson (.obj l) (.obj m) := by
  obtain ⟨t, ht, hbytes⟩ := exceptMap_ok_iff.mp h
  obtain ⟨t', ht', hbytes'⟩ := exceptMap_ok_iff.mp h'
  have hascii := (scans_dumps E.py _ _ t hl ht).ascii
  have hascii' := (scans_dumps E.py _ _ t' hm ht').ascii
  obtain rfl := encodeAscii_inj hascii hascii' (hbytes.trans hbytes'.symm)
  exact sameJson_of_dumps E.py hl hm ht ht'

/-! ## The segments of a token -/

theorem count_dot_issue {sk : PrivateKey} {a : CredentialIn} {fresh : Fresh} {ik : IssuedKey}
    (h : issueCredential E sk a fresh = .ok ik) : ik.token.count 46 = 1 := by
  obtain ⟨_, bytes, -, rfl⟩ := issueCredential_ok h
  exact (splitAtDot (b64uEncode_ne_dot bytes) (b64uEncode_ne_dot _)).1

/-- What `parseToken` gives back of an issued credential. -/
structure GivenBack (E : Env) (sk : PrivateKey) (a : CredentialIn) (fresh : Fresh) (ik : IssuedKey)
    (p : ParsedToken) : Prop where
  /-- the issued dictionary, possibly filled in another order -/
  payload : p.payload.Perm ik.payload
  issued : ik.payload = a.payload E fresh
  carries : Carries p.payload (a.fields E fresh)
  rooms : (a.fields E fresh).roomIds.Pairwise (· ≤ ·) ∧ (a.fields E fresh).roomIds.Perm a.roomIds
  /-- the bytes that were signed -/
  bytes : canonicalBytes E ik.payload = .ok p.payloadBytes
  signature : p.signature = E.ed.sign sk p.payloadBytes

theorem givenBack_issue {sk : PrivateKey} {a : CredentialIn} {fresh : Fresh} {ik : IssuedKey}
    (h : issueCredential E sk a fresh = .ok ik) :
    ∃ p, parseToken E ik.token = .ok (some p) ∧ GivenBack E sk a fresh ik p := by
  obtain ⟨bytes, hb, hp⟩ := parseToken_issue h
  obtain ⟨_, _, -, rfl⟩ := issueCredential_ok h
  exact ⟨_, hp,
    { payload := sortByKey_perm _
      issued := rfl
      carries := carries_payload a fresh
      rooms := ⟨List.pairwise_insertionSort _ _, List.perm_insertionSort _ _⟩
      bytes := hb
      signature := rfl }⟩

/-! ## The round trip -/

/-- **Decoding undoes encoding**: every credential with a window and
writable integers is issued; the token of an issued credential has one dot
and parses into what was issued and signed; and the signed bytes are the
same for two dictionaries exactly when these are equal. -/
theorem token_round_trip :
    (∀ (sk : PrivateKey) (a : CredentialIn) (fresh : Fresh), a.Writable → 2 ≤ E.py.recursionLimit →
      ∃ ik, issueCredential E sk a fresh = .ok ik) ∧
    (∀ (sk : PrivateKey) (a : CredentialIn) (fresh : Fresh) (ik : IssuedKey),
      issueCredential E sk a fresh = .ok ik →
        ik.token.count 46 = 1 ∧
        ∃ p, parseToken E ik.token = .ok (some p) ∧ GivenBack E sk a fresh ik p) ∧
    (∀ (l m : JsonDict), SameJson (.obj l) (.obj m) → DistinctKeys (.obj m) →
      ∀ bytes, canonicalBytes E l = .ok bytes ↔ canonicalBytes E m = .ok bytes) ∧
    (∀ (l m : JsonDict), Plain (.obj l) → Plain (.obj m) →
      ∀ bytes, canonicalBytes E l = .ok bytes → canonicalBytes E m = .ok bytes →
        SameJson (.obj l) (.obj m)) ∧
    (∀ (a : CredentialIn) (fresh : Fresh), Plain (.obj (a.payload E fresh))) :=
  ⟨fun sk _ fresh ha hlimit => issueCredential_isOk ha hlimit sk fresh,
    fun _ _ _ _ h => ⟨count_dot_issue h, givenBack_issue h⟩,
    fun _ _ h hm _ => canonicalBytes_of_sameJson h hm,
    fun _ _ hl hm _ h h' => sameJson_of_canonicalBytes hl hm h h',
    payload_plain⟩

/-- The sample credential; its payload and the payload sorted. -/
theorem token_round_trip_sample :
    ∃ ik, issueCredential Env.sample sampleKey sampleCredential sampleFresh = .ok ik ∧
      ik.token.count 46 = 1 ∧
      ∃ p, parseToken Env.sample ik.token = .ok (some p) ∧
        GivenBack Env.sample sampleKey sampleCredential sampleFresh ik p ∧
        canonicalBytes Env.sample p.payload = .ok p.payloadBytes ∧
        SameJson (.obj p.payload) (.obj ik.payload) := by
  obtain ⟨hissue, hparse, hsame, hdiff, hplain⟩ := token_round_trip (E := Env.sample)
  obtain ⟨ik, hik⟩ := hissue sampleKey sampleCredential sampleFresh sampleCredential_writable (by decide)
  obtain ⟨hdot, p, hp, hback⟩ := hparse _ _ _ _ hik
  have hperm : SameJson (.obj p.payload) (.obj ik.payload) := sameJson_of_perm hback.payload
  have hik' : Plain (.obj ik.payload) := hback.issued ▸ hplain sampleCredential sampleFresh
  have hbytes := (hsame _ _ hperm (distinctKeys_of_plain hik') p.payloadBytes).mpr hback.bytes
  have hp' : Plain (.obj p.payload) := plain_of_perm hback.payload hik'
  exact ⟨ik, hik, hdot, p, hp, hback, hbytes, hdiff _ _ hp' hik' _ hbytes hback.bytes⟩

end StayKey.Door
