/-
StayKey.Codec.Base64Canonical — the texts the URL-safe decoder takes, and
those the encoder writes.

The decoder takes an ASCII text whose last group of four characters is
complete, or is closed by pads, once the padding was added and the
characters it does not know were skipped (`Base64Text`).

So it reads many texts as the same bytes. Among them is exactly one that
the encoder writes: characters of its alphabet only, and zeros in the bits
of the last character that no byte uses (`CanonicalB64u`).
`b64uEncode_eq_iff` is that statement for a text that decodes.
-/
import StayKey.Codec.Base64

namespace StayKey.Codec

/-! ## The texts that decode -/

/-- A character of either alphabet. -/
def isB64Data (c : Nat) : Bool := (b64Index? (fromUrlsafe c)).isSome

/-- The groups of four close: `quad` characters of the current one were
read, and `pads` pads since the last of them. -/
def groupsClose : Nat → Nat → PyStr → Bool
  | quad, _, [] => quad = 0
  | quad, pads, c :: rest =>
    if c = padChar then
      if 2 ≤ quad then decide (4 ≤ quad + (pads + 1)) || groupsClose quad (pads + 1) rest
      else groupsClose quad pads rest
    else if isB64Data c then groupsClose ((quad + 1) % 4) 0 rest
    else groupsClose quad pads rest

/-- A text that `_b64u_decode` takes. -/
def Base64Text (s : PyStr) : Prop :=
  Ascii s ∧ groupsClose 0 0 (s ++ List.replicate ((4 - s.length % 4) % 4) padChar) = true

instance (s : PyStr) : Decidable (Base64Text s) :=
  inferInstanceAs (Decidable (Ascii s ∧ groupsClose 0 0 _ = true))

theorem fromUrlsafe_eq_pad_iff {c : Nat} : fromUrlsafe c = padChar ↔ c = padChar := by
  unfold fromUrlsafe padChar
  split
  · omega
  · split <;> omega

theorem a2bBase64_isSome {quad : Nat} (hq : quad < 4) (left pads : Nat) (s : PyStr) :
    (a2bBase64 quad left pads (s.map fromUrlsafe)).isSome = groupsClose quad pads s := by
  induction s generalizing quad left pads with
  | nil =>
    rw [List.map_nil, a2bBase64, groupsClose]
    split <;> simp_all
  | cons c s ih =>
    rw [List.map_cons, a2bBase64, groupsClose]
    simp only [fromUrlsafe_eq_pad_iff]
    by_cases hpad : c = padChar
    · rw [if_pos hpad, if_pos hpad]
      by_cases h2 : 2 ≤ quad
      · rw [if_pos h2, if_pos h2]
        by_cases h4 : 4 ≤ quad + (pads + 1)
        · rw [if_pos h4, decide_eq_true h4]
          rfl
        · rw [if_neg h4, decide_eq_false h4, Bool.false_or, ih hq]
      · rw [if_neg h2, if_neg h2, ih hq]
    · rw [if_neg hpad, if_neg hpad, isB64Data]
      cases b64Index? (fromUrlsafe c) with
      | none => exact ih hq left pads
      | some v =>
        simp only [Option.isSome_some, if_true]
        obtain rfl | rfl | rfl | rfl : quad = 0 ∨ quad = 1 ∨ quad = 2 ∨ quad = 3 := by omega
        · exact ih (by decide) v 0
        · simp only [Option.isSome_map]
          exact ih (by decide) _ 0
        · simp only [Option.isSome_map]
          exact ih (by decide) _ 0
        · simp only [Option.isSome_map]
          exact ih (by decide) 0 0

/-- **The texts that decode.** -/
theorem b64uDecode_isOk_iff {s : PyStr} : (∃ raw, b64uDecode s = .ok raw) ↔ Base64Text s := by
  have hascii : ((s ++ List.replicate ((4 - s.length % 4) % 4) padChar).all (· < 0x80)) = true ↔
      Ascii s := by
    rw [List.all_append, Bool.and_eq_true, List.all_eq_true]
    simp [Ascii, padChar]
  rw [b64uDecode, urlsafeB64decode, Base64Text, ← hascii,
    ← a2bBase64_isSome (by decide : 0 < 4) 0 0]
  split
  · rename_i h
    cases a2bBase64 0 0 0 ((s ++ List.replicate ((4 - s.length % 4) % 4) padChar).map fromUrlsafe) with
    | none => exact iff_of_false not_isOk_error fun h => by cases h.2
    | some raw => exact iff_of_true ⟨raw, rfl⟩ ⟨h, rfl⟩
  · rename_i h
    exact iff_of_false not_isOk_error fun h' => h h'.1

/-! ## The texts that are written -/

/-- The six bits a URL-safe character stands for. -/
def b64uIndex (c : Nat) : Nat := (b64Index? (fromUrlsafe c)).getD 0

/-- The last group of characters is no longer than its bytes need, and the
bits of its last character that no byte uses are zero. -/
def noSpareBits : PyStr → Bool
  | [] => true
  | [_] => false
  | [_, c] => b64uIndex c % 16 = 0
  | [_, _, c] => b64uIndex c % 4 = 0
  | _ :: _ :: _ :: _ :: rest => noSpareBits rest

/-- A text the encoder can have written. -/
structure CanonicalB64u (s : PyStr) : Prop where
  alphabet : ∀ c ∈ s, IsB64u c
  spare : noSpareBits s = true

@[simp] theorem b64uIndex_toUrlsafe {i : Nat} (h : i < 64) :
    b64uIndex (toUrlsafe (b64Char i)) = i := by
  rw [b64uIndex, b64Index_b64Char i h, Option.getD_some]

theorem noSpareBits_b64uBody (raw : Bytes) : noSpareBits (b64uBody raw) = true := by
  induction raw using b64uBody.induct with
  | case1 => rfl
  | case2 a =>
    have : a.toNat % 4 * 16 < 64 := by omega
    simp [b64uBody, noSpareBits, b64uIndex_toUrlsafe this]
  | case3 a b =>
    have : b.toNat % 16 * 4 < 64 := by omega
    simp [b64uBody, noSpareBits, b64uIndex_toUrlsafe this]
  | case4 a b c rest ih =>
    simp only [b64uBody, List.map_cons, List.map_nil, List.cons_append, List.nil_append, noSpareBits]
    exact ih

theorem canonical_b64uEncode (raw : Bytes) : CanonicalB64u (b64uEncode raw) where
  alphabet _ hc := isB64u_of_mem_b64uEncode hc
  spare := b64uEncode_eq raw ▸ noSpareBits_b64uBody raw

/-! ## Every canonical text is written -/

/-- The byte made of two parts. -/
theorem toNat_ofNat_of_lt {n : Nat} (h : n < 256) : (UInt8.ofNat n).toNat = n := by
  rw [UInt8.toNat_ofNat', Nat.mod_eq_of_lt h]

theorem exists_b64uBody {s : PyStr} (halpha : ∀ c ∈ s, IsB64u c) (hspare : noSpareBits s = true) :
    ∃ raw, b64uBody raw = s := by
  induction s using noSpareBits.induct with
  | case1 => exact ⟨[], rfl⟩
  | case2 => cases hspare
  | case3 c d =>
    obtain ⟨i, hi, rfl⟩ := halpha c (by simp)
    obtain ⟨j, hj, rfl⟩ := halpha d (by simp)
    simp only [noSpareBits, b64uIndex_toUrlsafe hj, decide_eq_true_eq] at hspare
    refine ⟨[UInt8.ofNat (i * 4 + j / 16)], ?_⟩
    simp only [b64uBody, toNat_ofNat_of_lt (show i * 4 + j / 16 < 256 by omega), List.map_cons,
      List.map_nil]
    rw [show (i * 4 + j / 16) / 4 = i by omega, show (i * 4 + j / 16) % 4 * 16 = j by omega]
  | case4 c d e =>
    obtain ⟨i, hi, rfl⟩ := halpha c (by simp)
    obtain ⟨j, hj, rfl⟩ := halpha d (by simp)
    obtain ⟨k, hk, rfl⟩ := halpha e (by simp)
    simp only [noSpareBits, b64uIndex_toUrlsafe hk, decide_eq_true_eq] at hspare
    refine ⟨[UInt8.ofNat (i * 4 + j / 16), UInt8.ofNat (j % 16 * 16 + k / 4)], ?_⟩
    simp only [b64uBody, toNat_ofNat_of_lt (show i * 4 + j / 16 < 256 by omega),
      toNat_ofNat_of_lt (show j % 16 * 16 + k / 4 < 256 by omega), List.map_cons, List.map_nil]
    rw [show (i * 4 + j / 16) / 4 = i by omega,
      show (i * 4 + j / 16) % 4 * 16 + (j % 16 * 16 + k / 4) / 16 = j by omega,
      show (j % 16 * 16 + k / 4) % 16 * 4 = k by omega]
  | case5 c d e f rest ih =>
    obtain ⟨i, hi, rfl⟩ := halpha c (by simp)
    obtain ⟨j, hj, rfl⟩ := halpha d (by simp)
    obtain ⟨k, hk, rfl⟩ := halpha e (by simp)
    obtain ⟨m, hm, rfl⟩ := halpha f (by simp)
    have hrest : ∀ x ∈ rest, IsB64u x := fun x hx => halpha x (by simp [hx])
    obtain ⟨raw, hraw⟩ := ih hrest hspare
    refine ⟨UInt8.ofNat (i * 4 + j / 16) :: UInt8.ofNat (j % 16 * 16 + k / 4)
      :: UInt8.ofNat (k % 4 * 64 + m) :: raw, ?_⟩
    simp only [b64uBody, toNat_ofNat_of_lt (show i * 4 + j / 16 < 256 by omega),
      toNat_ofNat_of_lt (show j % 16 * 16 + k / 4 < 256 by omega),
      toNat_ofNat_of_lt (show k % 4 * 64 + m < 256 by omega), List.map_cons, List.map_nil, hraw]
    rw [show (i * 4 + j / 16) / 4 = i by omega,
      show (i * 4 + j / 16) % 4 * 16 + (j % 16 * 16 + k / 4) / 16 = j by omega,
      show (j % 16 * 16 + k / 4) % 16 * 4 + (k % 4 * 64 + m) / 64 = k by omega,
      show (k % 4 * 64 + m) % 64 = m by omega]
    rfl

theorem CanonicalB64u.exists_raw {s : PyStr} (h : CanonicalB64u s) : ∃ raw, b64uEncode raw = s := by
  obtain ⟨raw, hraw⟩ := exists_b64uBody h.alphabet h.spare
  exact ⟨raw, (b64uEncode_eq raw).trans hraw⟩

/-- **The canonical spelling**: of the texts that decode to `raw`, the one
the encoder writes is the canonical one. -/
theorem b64uEncode_eq_iff {s : PyStr} {raw : Bytes} (h : b64uDecode s = .ok raw) :
    s = b64uEncode raw ↔ CanonicalB64u s := by
  constructor
  · intro hs
    exact hs ▸ canonical_b64uEncode raw
  · intro hs
    obtain ⟨raw', rfl⟩ := hs.exists_raw
    rw [b64uDecode_b64uEncode, Except.ok.injEq] at h
    rw [h]

end StayKey.Codec
