/-
StayKey.Door.TokenGrammar — which strings `parse_token` takes for tokens.

The format is `b64url(payload_bytes) + "." + b64url(signature)`. The parser
decodes the two segments with a decoder that skips characters it does not
know, and it signs off on the decoded bytes, so a string of another
spelling passes for the same token (`parseToken_congr`). The strings of the
format are exactly those with two canonical segments (`CanonicalToken`), and
for one result there is one such string.
-/
import StayKey.Codec.Base64Canonical
import StayKey.Door.LockTheorems

namespace StayKey.Door

open StayKey.Codec

variable {E : Env}

/-- `token = b64url(payload_bytes) + "." + b64url(signature)`. -/
def tokenText (payloadBytes signature : Bytes) : PyStr :=
  b64uEncode payloadBytes ++ 46 :: b64uEncode signature

/-- Both segments are written as the encoder writes them. -/
structure CanonicalToken (token : PyStr) : Prop where
  payload : CanonicalB64u (token.takeWhile (· ≠ 46))
  signature : CanonicalB64u (token.dropWhile (· ≠ 46)).tail

/-- Two strings with one dot whose segments decode to the same bytes. -/
structure SameBytes (token token' : PyStr) : Prop where
  dot : token.count 46 = 1
  dot' : token'.count 46 = 1
  payload : b64uDecode (token'.takeWhile (· ≠ 46)) = b64uDecode (token.takeWhile (· ≠ 46))
  signature : b64uDecode (token'.dropWhile (· ≠ 46)).tail = b64uDecode (token.dropWhile (· ≠ 46)).tail

/-- A string with a dot is its two segments around it. -/
theorem token_segments {token : PyStr} (h : token.count 46 = 1) :
    token = token.takeWhile (· ≠ 46) ++ 46 :: (token.dropWhile (· ≠ 46)).tail := by
  have hmem : 46 ∈ token := List.count_pos_iff.mp (h ▸ Nat.one_pos)
  obtain ⟨a, b, rfl, ha⟩ := List.eq_append_cons_of_mem hmem
  have hb : 46 ∉ b := by
    rw [List.count_append, List.count_cons_self, List.count_eq_zero.mpr ha] at h
    exact List.count_eq_zero.mp (by omega)
  have hne {s : PyStr} (hs : 46 ∉ s) : ∀ c ∈ s, c ≠ 46 := fun c hc h46 => hs (h46 ▸ hc)
  obtain ⟨-, htake, hdrop⟩ := splitAtDot (hne ha) (hne hb)
  rw [htake, hdrop]

/-- **The format is the canonical spelling** of what was parsed. -/
theorem tokenText_eq_iff {token : PyStr} {p : ParsedToken} (h : parseToken E token = .ok (some p)) :
    token = tokenText p.payloadBytes p.signature ↔ CanonicalToken token := by
  obtain ⟨hdot, hpayload, hsignature, -, -⟩ := parseToken_some_iff.mp h
  constructor
  · intro ht
    obtain ⟨-, htake, hdrop⟩ :=
      splitAtDot (b64uEncode_ne_dot p.payloadBytes) (b64uEncode_ne_dot p.signature)
    rw [ht, tokenText]
    constructor
    · rw [htake]; exact canonical_b64uEncode _
    · rw [hdrop]; exact canonical_b64uEncode _
  · intro hc
    rw [tokenText, ← (b64uEncode_eq_iff hpayload).mpr hc.payload,
      ← (b64uEncode_eq_iff hsignature).mpr hc.signature]
    exact token_segments hdot

/-- A string of the same bytes is parsed the same. -/
theorem parseToken_congr {token token' : PyStr} (h : SameBytes token token') :
    parseToken E token' = parseToken E token := by
  rw [parseToken, parseToken, if_neg (not_not_intro h.dot), if_neg (not_not_intro h.dot'),
    decodeSegments, decodeSegments, h.payload, h.signature]

/-- Accepted strings with the same result have the same bytes. -/
theorem sameBytes_of_parsed {token token' : PyStr} {p p' : ParsedToken}
    (h : parseToken E token = .ok (some p)) (h' : parseToken E token' = .ok (some p'))
    (hb : p'.payloadBytes = p.payloadBytes) (hs : p'.signature = p.signature) :
    SameBytes token token' := by
  obtain ⟨hdot, hpayload, hsignature, -, -⟩ := parseToken_some_iff.mp h
  obtain ⟨hdot', hpayload', hsignature', -, -⟩ := parseToken_some_iff.mp h'
  exact ⟨hdot, hdot', by rw [hpayload, hpayload', hb], by rw [hsignature, hsignature', hs]⟩

/-- Beside a canonical token, a string of the same bytes is that token or
is not canonical. -/
theorem eq_iff_canonical {token token' : PyStr} {p : ParsedToken}
    (h : parseToken E token = .ok (some p)) (hc : CanonicalToken token) (hs : SameBytes token token') :
    token' = token ↔ CanonicalToken token' := by
  rw [← tokenText_eq_iff ((parseToken_congr hs).trans h), ← (tokenText_eq_iff h).mpr hc]

/-- **The token grammar**: an accepted string has the format exactly when
both segments are canonical. Another string whose segments decode to its
bytes is accepted with the same result, never rejected; and beside a
canonical token it is the same string only if it is canonical too. -/
theorem token_has_format_iff {token : PyStr} {p : ParsedToken}
    (h : parseToken E token = .ok (some p)) :
    (token = tokenText p.payloadBytes p.signature ↔ CanonicalToken token) ∧
    (∀ token', SameBytes token token' → parseToken E token' = .ok (some p) ∧
      (CanonicalToken token → (token' = token ↔ CanonicalToken token'))) ∧
    (∀ token' p', parseToken E token' = .ok (some p') → p'.payloadBytes = p.payloadBytes →
      p'.signature = p.signature → CanonicalToken token → (token' = token ↔ CanonicalToken token')) :=
  ⟨tokenText_eq_iff h,
    fun _ hs => ⟨(parseToken_congr hs).trans h, fun hc => eq_iff_canonical h hc hs⟩,
    fun _ _ h' hb hsig hc => eq_iff_canonical h hc (sameBytes_of_parsed h h' hb hsig)⟩

/-- The issued sample token is one: it is canonical. -/
theorem token_has_format_issued : ∃ ik p,
    issueCredential Env.sample sampleKey sampleCredential sampleFresh = .ok ik ∧
      parseToken Env.sample ik.token = .ok (some p) ∧ CanonicalToken ik.token := by
  obtain ⟨ik, hik⟩ := issueCredential_isOk (E := Env.sample) sampleCredential_writable (by decide)
    sampleKey sampleFresh
  obtain ⟨bytes, hb, hp⟩ := parseToken_issue hik
  refine ⟨ik, _, hik, hp, (token_has_format_iff hp).1.mp ?_⟩
  obtain ⟨_, bytes', hb', rfl⟩ := issueCredential_ok hik
  obtain rfl := Except.ok.inj (hb.symm.trans hb')
  rfl

/-- The last character of the payload segment, one of sixteen that leave
the bytes alone. -/
def respell (token : PyStr) : PyStr := token.set ((token.takeWhile (· ≠ 46)).length - 1) 82

/-- The two strings decode to the same bytes. -/
def sameBytes (token token' : PyStr) : Bool :=
  token.count 46 = 1 && token'.count 46 = 1
    && decide (b64uDecode (token'.takeWhile (· ≠ 46)) = b64uDecode (token.takeWhile (· ≠ 46)))
    && decide (b64uDecode (token'.dropWhile (· ≠ 46)).tail = b64uDecode (token.dropWhile (· ≠ 46)).tail)

/-- The issued sample token with one character of its payload segment
changed: it is accepted as the same token, and has not the format. -/
theorem respelled_token_accepted : ∃ ik p,
    issueCredential Env.sample sampleKey sampleCredential sampleFresh = .ok ik ∧
      parseToken Env.sample ik.token = .ok (some p) ∧
      parseToken Env.sample (respell ik.token) = .ok (some p) ∧ respell ik.token ≠ ik.token ∧
      respell ik.token ≠ tokenText p.payloadBytes p.signature := by
  have hcheck : (issueCredential Env.sample sampleKey sampleCredential sampleFresh).toOption.all
      (fun ik => sameBytes ik.token (respell ik.token) && respell ik.token != ik.token) = true := by
    decide +kernel
  obtain ⟨ik, hik⟩ := issueCredential_isOk (E := Env.sample) sampleCredential_writable (by decide)
    sampleKey sampleFresh
  obtain ⟨bytes, hb, hp⟩ := parseToken_issue hik
  rw [hik] at hcheck
  simp only [Except.toOption, Option.all_some, sameBytes, Bool.and_eq_true, decide_eq_true_eq,
    bne_iff_ne] at hcheck
  obtain ⟨⟨⟨⟨hdot, hdot'⟩, hpayload⟩, hsignature⟩, hne⟩ := hcheck
  have hs : SameBytes ik.token (respell ik.token) := ⟨hdot, hdot', hpayload, hsignature⟩
  refine ⟨ik, _, hik, hp, (parseToken_congr hs).trans hp, hne, ?_⟩
  obtain ⟨_, bytes', hb', rfl⟩ := issueCredential_ok hik
  obtain rfl := Except.ok.inj (hb.symm.trans hb')
  exact hne

end StayKey.Door
