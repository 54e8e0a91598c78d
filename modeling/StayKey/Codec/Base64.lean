/-
StayKey.Codec.Base64 — URL-safe base64 as Python's `base64` module has it.

`urlsafeB64encode` is the standard encoder with `+/` replaced by `-_`,
and `b64uEncode` strips the padding. `a2bBase64` is the non-validating
decoder `binascii.a2b_base64` (strict mode off): a character outside the
alphabet is skipped, `=` is skipped unless it completes a quad, in which
case decoding stops there, and a quad left open at the end is an error.
`urlsafeB64decode` maps `-_` to `+/` first, so `+` and `/` stay accepted.

`b64uDecode_b64uEncode` is the round trip: the padding recomputed from
the stripped text's length is the padding that was stripped.
-/
import StayKey.Codec.PyStr
import Mathlib.Data.List.DropRight

namespace StayKey.Codec

/-! ## The alphabet -/

/-- The standard alphabet `A-Z a-z 0-9 + /`, as ASCII codes. -/
def b64Char (i : Nat) : Nat :=
  if i < 26 then 65 + i
  else if i < 52 then 97 + (i - 26)
  else if i < 62 then 48 + (i - 52)
  else if i = 62 then 43
  else 47

/-- The index of a character of the standard alphabet. -/
def b64Index? (c : Nat) : Option Nat :=
  if 65 ≤ c ∧ c ≤ 90 then some (c - 65)
  else if 97 ≤ c ∧ c ≤ 122 then some (c - 97 + 26)
  else if 48 ≤ c ∧ c ≤ 57 then some (c - 48 + 52)
  else if c = 43 then some 62
  else if c = 47 then some 63
  else none

/-- The pad character `=`. -/
abbrev padChar : Nat := 61

/-- `bytes.translate` with `+/` sent to `-_`. -/
def toUrlsafe (c : Nat) : Nat := if c = 43 then 45 else if c = 47 then 95 else c

/-- `bytes.translate` with `-_` sent to `+/`. -/
def fromUrlsafe (c : Nat) : Nat := if c = 45 then 43 else if c = 95 then 47 else c

/-- A character the URL-safe encoder writes for a six-bit group. -/
def IsB64u (c : Nat) : Prop := ∃ i < 64, c = toUrlsafe (b64Char i)

theorem b64Index_b64Char : ∀ i < 64, b64Index? (fromUrlsafe (toUrlsafe (b64Char i))) = some i := by
  decide

theorem b64Char_ne_pad : ∀ i < 64, fromUrlsafe (toUrlsafe (b64Char i)) ≠ padChar := by decide

@[simp] theorem toUrlsafe_padChar : toUrlsafe padChar = padChar := by decide

theorem urlsafe_padChar : fromUrlsafe (toUrlsafe padChar) = padChar := by decide

theorem IsB64u.ne_pad {c : Nat} (h : IsB64u c) : c ≠ padChar := by
  obtain ⟨i, hi, rfl⟩ := h
  revert i; decide

theorem IsB64u.ne_dot {c : Nat} (h : IsB64u c) : c ≠ 46 := by
  obtain ⟨i, hi, rfl⟩ := h
  revert i; decide

theorem IsB64u.ascii {c : Nat} (h : IsB64u c) : c < 0x80 := by
  obtain ⟨i, hi, rfl⟩ := h
  revert i; decide

/-! ## Encoding -/

/-- `binascii.b2a_base64` without the newline. -/
def b64encode : Bytes → PyStr
  | [] => []
  | [a] => [b64Char (a.toNat / 4), b64Char (a.toNat % 4 * 16), padChar, padChar]
  | [a, b] =>
    [b64Char (a.toNat / 4), b64Char (a.toNat % 4 * 16 + b.toNat / 16),
      b64Char (b.toNat % 16 * 4), padChar]
  | a :: b :: c :: rest =>
    b64Char (a.toNat / 4) :: b64Char (a.toNat % 4 * 16 + b.toNat / 16)
      :: b64Char (b.toNat % 16 * 4 + c.toNat / 64) :: b64Char (c.toNat % 64) :: b64encode rest

def urlsafeB64encode (raw : Bytes) : PyStr := (b64encode raw).map toUrlsafe

/-- `base64.urlsafe_b64encode(raw).rstrip(b"=").decode("ascii")`. -/
def b64uEncode (raw : Bytes) : PyStr :=
  (urlsafeB64encode raw).rdropWhile (· == padChar)

/-! ## Decoding -/

/-- `binascii.a2b_base64`, strict mode off. `quad` is the position in the
current quad, `left` the bits carried over, `pads` the pads counted. -/
def a2bBase64 : Nat → Nat → Nat → PyStr → Option Bytes
  | quad, _, _, [] => if quad = 0 then some [] else none
  | quad, left, pads, ch :: rest =>
    if ch = padChar then
      if 2 ≤ quad then
        if 4 ≤ quad + (pads + 1) then some [] else a2bBase64 quad left (pads + 1) rest
      else a2bBase64 quad left pads rest
    else match b64Index? ch with
      | none => a2bBase64 quad left pads rest
      | some v =>
        match quad with
        | 0 => a2bBase64 1 v 0 rest
        | 1 => (a2bBase64 2 (v % 16) 0 rest).map (UInt8.ofNat (left * 4 + v / 16) :: ·)
        | 2 => (a2bBase64 3 (v % 4) 0 rest).map (UInt8.ofNat (left * 16 + v / 4) :: ·)
        | _ => (a2bBase64 0 0 0 rest).map (UInt8.ofNat (left * 64 + v) :: ·)

/-- `base64.urlsafe_b64decode` on a `str`: a non-ASCII text is refused. -/
def urlsafeB64decode (text : PyStr) : Except PyError Bytes :=
  if text.all (· < 0x80) then
    match a2bBase64 0 0 0 (text.map fromUrlsafe) with
    | some b => .ok b
    | none => .error .valueError
  else .error .valueError

/-- `base64.urlsafe_b64decode(text + "=" * (-len(text) % 4))`. -/
def b64uDecode (text : PyStr) : Except PyError Bytes :=
  urlsafeB64decode (text ++ List.replicate ((4 - text.length % 4) % 4) padChar)

/-! ## The unpadded text -/

/-- What `b64uEncode` writes: the encoding without its padding. -/
def b64uBody : Bytes → PyStr
  | [] => []
  | [a] => [b64Char (a.toNat / 4), b64Char (a.toNat % 4 * 16)].map toUrlsafe
  | [a, b] =>
    [b64Char (a.toNat / 4), b64Char (a.toNat % 4 * 16 + b.toNat / 16),
      b64Char (b.toNat % 16 * 4)].map toUrlsafe
  | a :: b :: c :: rest =>
    [b64Char (a.toNat / 4), b64Char (a.toNat % 4 * 16 + b.toNat / 16),
      b64Char (b.toNat % 16 * 4 + c.toNat / 64), b64Char (c.toNat % 64)].map toUrlsafe
      ++ b64uBody rest

/-- The padding the standard encoder adds. -/
def padCount (raw : Bytes) : Nat := (3 - raw.length % 3) % 3

theorem urlsafeB64encode_eq (raw : Bytes) :
    urlsafeB64encode raw = b64uBody raw ++ List.replicate (padCount raw) padChar := by
  induction raw using b64uBody.induct with
  | case1 => rfl
  | case2 a => simp [urlsafeB64encode, b64encode, b64uBody, padCount]
  | case3 a b => simp [urlsafeB64encode, b64encode, b64uBody, padCount]
  | case4 a b c rest ih =>
    have hpad : padCount (a :: b :: c :: rest) = padCount rest := by
      simp only [padCount, List.length_cons]; omega
    simp only [urlsafeB64encode, b64encode, List.map_cons, b64uBody, hpad] at ih ⊢
    rw [ih]; rfl

/-- The lengths of the two halves of the encoding fit together. -/
theorem length_b64uBody (raw : Bytes) :
    (4 - (b64uBody raw).length % 4) % 4 = padCount raw := by
  induction raw using b64uBody.induct with
  | case1 => rfl
  | case2 a => simp [b64uBody, padCount]
  | case3 a b => simp [b64uBody, padCount]
  | case4 a b c rest ih =>
    simp only [b64uBody, padCount, List.length_cons, List.length_append, List.length_map,
      List.length_nil] at ih ⊢
    omega

theorem isB64u_of_lt {i : Nat} (h : i < 64) : IsB64u (toUrlsafe (b64Char i)) := ⟨i, h, rfl⟩

theorem isB64u_of_mem_b64uBody (raw : Bytes) : ∀ c ∈ b64uBody raw, IsB64u c := by
  have lt (a : UInt8) : a.toNat < 256 := a.toNat_lt
  induction raw using b64uBody.induct with
  | case1 => simp [b64uBody]
  | case2 a =>
    have := lt a
    simp only [b64uBody, List.map_cons, List.map_nil, List.forall_mem_cons]
    exact ⟨isB64u_of_lt (by omega), isB64u_of_lt (by omega), by simp⟩
  | case3 a b =>
    have := lt a; have := lt b
    simp only [b64uBody, List.map_cons, List.map_nil, List.forall_mem_cons]
    exact ⟨isB64u_of_lt (by omega), isB64u_of_lt (by omega), isB64u_of_lt (by omega), by simp⟩
  | case4 a b c rest ih =>
    have := lt a; have := lt b; have := lt c
    simp only [b64uBody, List.map_cons, List.map_nil, List.cons_append, List.nil_append,
      List.forall_mem_cons]
    exact ⟨isB64u_of_lt (by omega), isB64u_of_lt (by omega), isB64u_of_lt (by omega),
      isB64u_of_lt (by omega), ih⟩

/-- Stripping the padding leaves the body. -/
theorem b64uEncode_eq (raw : Bytes) : b64uEncode raw = b64uBody raw := by
  rw [b64uEncode, urlsafeB64encode_eq, List.rdropWhile, List.reverse_append,
    List.dropWhile_append_of_pos (by simp)]
  cases hb : (b64uBody raw).reverse with
  | nil => simpa using hb
  | cons c l =>
    have hc : c ∈ b64uBody raw := by
      rw [← List.mem_reverse, hb]; exact List.mem_cons_self
    have hne : (c == padChar) = false :=
      beq_eq_false_iff_ne.mpr (isB64u_of_mem_b64uBody raw c hc).ne_pad
    rw [List.dropWhile_cons_of_neg (by simp [hne]), ← hb, List.reverse_reverse]

theorem isB64u_of_mem_b64uEncode {raw : Bytes} {c : Nat} (h : c ∈ b64uEncode raw) : IsB64u c :=
  isB64u_of_mem_b64uBody raw c (b64uEncode_eq raw ▸ h)

theorem b64uEncode_ne_dot (raw : Bytes) : ∀ c ∈ b64uEncode raw, c ≠ 46 :=
  fun _ hc => (isB64u_of_mem_b64uEncode hc).ne_dot

/-! ## The round trip -/

/-- The decoder on a data character: the index it stands for is used. -/
theorem a2bBase64_char {i : Nat} (hi : i < 64) (quad left pads : Nat) (rest : PyStr) :
    a2bBase64 quad left pads (fromUrlsafe (toUrlsafe (b64Char i)) :: rest) =
      match quad with
      | 0 => a2bBase64 1 i 0 rest
      | 1 => (a2bBase64 2 (i % 16) 0 rest).map (UInt8.ofNat (left * 4 + i / 16) :: ·)
      | 2 => (a2bBase64 3 (i % 4) 0 rest).map (UInt8.ofNat (left * 16 + i / 4) :: ·)
      | _ => (a2bBase64 0 0 0 rest).map (UInt8.ofNat (left * 64 + i) :: ·) := by
  rw [a2bBase64, if_neg (b64Char_ne_pad i hi), b64Index_b64Char i hi]

/-- The first two characters of a quad give its first byte. -/
theorem a2bBase64_two {i j : Nat} (hi : i < 64) (hj : j < 64) (left pads : Nat) (rest : PyStr) :
    a2bBase64 0 left pads
        (fromUrlsafe (toUrlsafe (b64Char i)) :: fromUrlsafe (toUrlsafe (b64Char j)) :: rest)
      = (a2bBase64 2 (j % 16) 0 rest).map (UInt8.ofNat (i * 4 + j / 16) :: ·) := by
  simp only [a2bBase64_char hi, a2bBase64_char hj]

/-- The third gives the second. -/
theorem a2bBase64_third {i : Nat} (hi : i < 64) (left pads : Nat) (rest : PyStr) :
    a2bBase64 2 left pads (fromUrlsafe (toUrlsafe (b64Char i)) :: rest)
      = (a2bBase64 3 (i % 4) 0 rest).map (UInt8.ofNat (left * 16 + i / 4) :: ·) := by
  simp only [a2bBase64_char hi]

/-- The fourth gives the third. -/
theorem a2bBase64_fourth {i : Nat} (hi : i < 64) (left pads : Nat) (rest : PyStr) :
    a2bBase64 3 left pads (fromUrlsafe (toUrlsafe (b64Char i)) :: rest)
      = (a2bBase64 0 0 0 rest).map (UInt8.ofNat (left * 64 + i) :: ·) := by
  simp only [a2bBase64_char hi]

/-- Padding that completes the quad ends the decoding. -/
theorem a2bBase64_pads (left : Nat) :
    a2bBase64 2 left 0 [padChar, padChar] = some [] ∧ a2bBase64 3 left 0 [padChar] = some [] := by
  simp [a2bBase64]

theorem ofNat_eq_of_toNat {n : Nat} {a : UInt8} (h : n = a.toNat) : UInt8.ofNat n = a := by
  rw [h, UInt8.ofNat_toNat]

theorem a2bBase64_encode (raw : Bytes) (left pads : Nat) :
    a2bBase64 0 left pads ((urlsafeB64encode raw).map fromUrlsafe) = some raw := by
  have lt (a : UInt8) : a.toNat < 256 := a.toNat_lt
  induction raw using b64uBody.induct generalizing left pads with
  | case1 => rfl
  | case2 a =>
    have := lt a
    simp only [urlsafeB64encode, b64encode, List.map_cons, List.map_nil, urlsafe_padChar]
    rw [a2bBase64_two (by omega) (by omega), (a2bBase64_pads _).1, Option.map_some,
      ofNat_eq_of_toNat (a := a) (by omega)]
  | case3 a b =>
    have := lt a; have := lt b
    simp only [urlsafeB64encode, b64encode, List.map_cons, List.map_nil, urlsafe_padChar]
    rw [a2bBase64_two (by omega) (by omega), a2bBase64_third (by omega), (a2bBase64_pads _).2,
      Option.map_some, Option.map_some, ofNat_eq_of_toNat (a := a) (by omega),
      ofNat_eq_of_toNat (a := b) (by omega)]
  | case4 a b c rest ih =>
    have := lt a; have := lt b; have := lt c
    have ih' := ih 0 0
    simp only [urlsafeB64encode, b64encode, List.map_cons] at ih' ⊢
    rw [a2bBase64_two (by omega) (by omega), a2bBase64_third (by omega),
      a2bBase64_fourth (by omega), ih', Option.map_some, Option.map_some, Option.map_some,
      ofNat_eq_of_toNat (a := a) (by omega), ofNat_eq_of_toNat (a := b) (by omega),
      ofNat_eq_of_toNat (a := c) (by omega)]

/-- **Round trip**: decoding the stripped text gives the bytes back. -/
theorem b64uDecode_b64uEncode (raw : Bytes) : b64uDecode (b64uEncode raw) = .ok raw := by
  have hascii : (urlsafeB64encode raw).all (· < 0x80) = true := by
    rw [urlsafeB64encode_eq, List.all_append, Bool.and_eq_true]
    refine ⟨?_, by simp [padChar]⟩
    exact List.all_eq_true.mpr fun c hc => by
      simpa using (isB64u_of_mem_b64uBody raw c hc).ascii
  rw [b64uDecode, b64uEncode_eq, length_b64uBody, ← urlsafeB64encode_eq, urlsafeB64decode,
    if_pos hascii, a2bBase64_encode]

end StayKey.Codec
