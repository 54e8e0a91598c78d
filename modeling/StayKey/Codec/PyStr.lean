/-
StayKey.Codec.PyStr — Python strings and bytes, and the decoding that
`json.loads` applies to a `bytes` argument.

A Python `str` is a sequence of code points and may hold lone
surrogates, so it is not a Lean `String`: `PyStr` is the list of its
code points and `py` is the embedding of a Lean `String` (scalar values
only), which is what an identifier column or a literal of the source is.

`decodeText` follows `json.detect_encoding` and then decodes with the
`surrogatepass` handler, as `json.loads` does. A text written in ASCII
that opens with two nonzero bytes is read back unchanged
(`decodeText_ascii`), which is the only case a token of this system
reaches; the other encodings are here because a presented token may
hold any bytes.
-/
import Mathlib.Data.List.Basic

namespace StayKey.Codec

/-- A Python `str`: its code points, lone surrogates included. -/
abbrev PyStr := List Nat

/-- A Python `bytes`. -/
abbrev Bytes := List UInt8

/-- The exceptions of the language and its standard library that the
modelled code can meet. `UnicodeDecodeError`, `binascii.Error` and
`JSONDecodeError` are subclasses of `ValueError` and are not told apart. -/
inductive PyError where
  | valueError
  | recursionError
  | typeError
  | keyError
  | overflowError
  deriving DecidableEq, Repr

/-- What runs to its end ran its first step to the end. -/
theorem exceptBind_ok {ε α β : Type} {x : Except ε α} {f : α → Except ε β} {b : β}
    (h : (x >>= f) = .ok b) : ∃ a, x = .ok a ∧ f a = .ok b := by
  cases x with
  | error e => cases h
  | ok a => exact ⟨a, rfl, h⟩

/-- What raised has returned nothing. -/
theorem not_isOk_error {ε α : Type} {e : ε} : ¬ ∃ a : α, (.error e : Except ε α) = .ok a := by
  rintro ⟨a, h⟩
  cases h

theorem exceptMap_ok_iff {ε α β : Type} {x : Except ε α} {f : α → β} {b : β} :
    x.map f = .ok b ↔ ∃ a, x = .ok a ∧ f a = b := by
  cases x with
  | error e =>
    refine iff_of_false (by simp [Except.map]) ?_
    rintro ⟨a, h, -⟩
    cases h
  | ok a => simp [Except.map]

/-- The `str` with the given scalar values. -/
def py (s : String) : PyStr := s.toList.map Char.toNat

theorem py_injective : Function.Injective py := by
  intro s t h
  have hl : s.toList = t.toList :=
    List.map_injective_iff.mpr (fun a b => Char.toNat_inj.mp) h
  exact String.toList_inj.mp hl

@[simp] theorem py_inj {s t : String} : py s = py t ↔ s = t := py_injective.eq_iff

/-- A Unicode scalar value: a code point that is no surrogate. -/
def IsScalar (c : Nat) : Prop := c < 0xD800 ∨ (0xDFFF < c ∧ c < 0x110000)

instance (c : Nat) : Decidable (IsScalar c) :=
  inferInstanceAs (Decidable (c < 0xD800 ∨ (0xDFFF < c ∧ c < 0x110000)))

theorem isScalar_of_mem_py {s : String} {c : Nat} (h : c ∈ py s) : IsScalar c := by
  obtain ⟨a, _, rfl⟩ := List.mem_map.mp h
  exact a.valid

/-! ## Decoding bytes -/

def isCont (b : UInt8) : Bool := 0x80 ≤ b.toNat && b.toNat < 0xC0

/-- `bytes.decode("utf-8", "surrogatepass")`: the well-formed sequences,
and the three-byte spellings of the surrogates besides. -/
def utf8Decode : Bytes → Option PyStr
  | [] => some []
  | a :: r =>
    if a.toNat < 0x80 then (utf8Decode r).map (a.toNat :: ·)
    else if a.toNat < 0xC2 then none
    else if a.toNat < 0xE0 then
      match r with
      | b :: r' =>
        let v := (a.toNat - 0xC0) * 64 + (b.toNat - 0x80)
        if isCont b then (utf8Decode r').map (v :: ·) else none
      | _ => none
    else if a.toNat < 0xF0 then
      match r with
      | b :: c :: r' =>
        let v := (a.toNat - 0xE0) * 4096 + (b.toNat - 0x80) * 64 + (c.toNat - 0x80)
        if isCont b && isCont c && 0x800 ≤ v then (utf8Decode r').map (v :: ·) else none
      | _ => none
    else if a.toNat < 0xF5 then
      match r with
      | b :: c :: d :: r' =>
        let v := (a.toNat - 0xF0) * 262144 + (b.toNat - 0x80) * 4096
          + (c.toNat - 0x80) * 64 + (d.toNat - 0x80)
        if isCont b && isCont c && isCont d && 0x10000 ≤ v && v < 0x110000 then
          (utf8Decode r').map (v :: ·)
        else none
      | _ => none
    else none

def isHighSurrogate (c : Nat) : Bool := 0xD800 ≤ c && c < 0xDC00

def isLowSurrogate (c : Nat) : Bool := 0xDC00 ≤ c && c < 0xE000

/-- The code point a surrogate pair stands for. -/
def joinSurrogates (hi lo : Nat) : Nat := 0x10000 + (hi - 0xD800) * 1024 + (lo - 0xDC00)

/-- The 16-bit units of a byte string; none when a byte is left over. -/
def units16 (bigEndian : Bool) : Bytes → Option (List Nat)
  | [] => some []
  | [_] => none
  | a :: b :: r =>
    let u := if bigEndian then a.toNat * 256 + b.toNat else b.toNat * 256 + a.toNat
    (units16 bigEndian r).map (u :: ·)

/-- Join the pair in front, if there is one. Pairs never overlap, so
joining from the right end gives what a scan from the left gives. -/
def pairUnit (u : Nat) : List Nat → List Nat
  | v :: r => if isHighSurrogate u && isLowSurrogate v then joinSurrogates u v :: r else u :: v :: r
  | [] => [u]

/-- `bytes.decode("utf-16-le" or "utf-16-be", "surrogatepass")`. -/
def utf16Decode (bigEndian : Bool) (b : Bytes) : Option PyStr :=
  (units16 bigEndian b).map (List.foldr pairUnit [])

/-- `bytes.decode("utf-32-le" or "utf-32-be", "surrogatepass")`. -/
def utf32Decode (bigEndian : Bool) : Bytes → Option PyStr
  | [] => some []
  | a :: b :: c :: d :: r =>
    let v := if bigEndian
      then ((a.toNat * 256 + b.toNat) * 256 + c.toNat) * 256 + d.toNat
      else ((d.toNat * 256 + c.toNat) * 256 + b.toNat) * 256 + a.toNat
    if v < 0x110000 then (utf32Decode bigEndian r).map (v :: ·) else none
  | _ => none

/-- `json.loads` on `bytes`: `json.detect_encoding`, then decode. The
byte order marks are tried first, the longer ones before the shorter;
without one, the zero bytes among the first four tell the width. -/
def decodeText (b : Bytes) : Option PyStr :=
  if [0x00, 0x00, 0xFE, 0xFF].isPrefixOf b then utf32Decode true (b.drop 4)
  else if [0xFF, 0xFE, 0x00, 0x00].isPrefixOf b then utf32Decode false (b.drop 4)
  else if [0xFE, 0xFF].isPrefixOf b then utf16Decode true (b.drop 2)
  else if [0xFF, 0xFE].isPrefixOf b then utf16Decode false (b.drop 2)
  else if [0xEF, 0xBB, 0xBF].isPrefixOf b then utf8Decode (b.drop 3)
  else match b with
    | b0 :: b1 :: b2 :: b3 :: _ =>
      if b0 = 0 then if b1 ≠ 0 then utf16Decode true b else utf32Decode true b
      else if b1 = 0 then
        if b2 ≠ 0 ∨ b3 ≠ 0 then utf16Decode false b else utf32Decode false b
      else utf8Decode b
    | [b0, b1] =>
      if b0 = 0 then utf16Decode true b
      else if b1 = 0 then utf16Decode false b
      else utf8Decode b
    | _ => utf8Decode b

/-! ## ASCII text -/

/-- Every code point is ASCII. -/
def Ascii (s : PyStr) : Prop := ∀ c ∈ s, c < 0x80

instance (s : PyStr) : Decidable (Ascii s) := inferInstanceAs (Decidable (∀ c ∈ s, c < 0x80))

/-- The bytes of an ASCII text: `str.encode("utf-8")` where it applies. -/
def encodeAscii (s : PyStr) : Bytes := s.map UInt8.ofNat

theorem Ascii.append {s t : PyStr} (hs : Ascii s) (ht : Ascii t) : Ascii (s ++ t) :=
  fun c hc => (List.mem_append.mp hc).elim (hs c) (ht c)

theorem Ascii.cons {c : Nat} {s : PyStr} (hc : c < 0x80) (hs : Ascii s) : Ascii (c :: s) := by
  intro d hd
  rcases List.mem_cons.mp hd with rfl | hd
  · exact hc
  · exact hs d hd

theorem ascii_nil : Ascii [] := by simp [Ascii]

theorem toNat_ofNat_ascii {c : Nat} (h : c < 0x80) : (UInt8.ofNat c).toNat = c := by
  simp [Nat.mod_eq_of_lt (show c < 256 by omega)]

theorem utf8Decode_ascii {s : PyStr} (h : Ascii s) : utf8Decode (encodeAscii s) = some s := by
  induction s with
  | nil => rfl
  | cons c s ih =>
    have hc : c < 0x80 := h c List.mem_cons_self
    have hs : Ascii s := fun d hd => h d (List.mem_cons_of_mem c hd)
    have ih' : utf8Decode (s.map UInt8.ofNat) = some s := ih hs
    rw [encodeAscii, List.map_cons, utf8Decode.eq_def]
    simp only [toNat_ofNat_ascii hc, if_pos hc, ih', Option.map_some]

/-- ASCII bytes that open with two nonzero ones are taken for UTF-8. -/
theorem decodeText_ascii {a b : Nat} {s : PyStr} (ha : a ≠ 0) (hb : b ≠ 0)
    (h : Ascii (a :: b :: s)) : decodeText (encodeAscii (a :: b :: s)) = some (a :: b :: s) := by
  have ha' : a < 0x80 := h a (by simp)
  have hb' : b < 0x80 := h b (by simp)
  have key : ∀ c : Nat, c < 0x80 → ∀ d : UInt8, d.toNat ≠ c → UInt8.ofNat c ≠ d := by
    rintro c hc d hd rfl
    exact hd (toNat_ofNat_ascii hc)
  have ha0 : UInt8.ofNat a ≠ 0 := key a ha' 0 (Ne.symm ha)
  have hb0 : UInt8.ofNat b ≠ 0 := key b hb' 0 (Ne.symm hb)
  have hFF : UInt8.ofNat a ≠ 0xFF := key a ha' 0xFF (by simp; omega)
  have hFE : UInt8.ofNat a ≠ 0xFE := key a ha' 0xFE (by simp; omega)
  have hEF : UInt8.ofNat a ≠ 0xEF := key a ha' 0xEF (by simp; omega)
  have hu := utf8Decode_ascii h
  simp only [encodeAscii, List.map_cons] at hu ⊢
  unfold decodeText
  simp only [List.isPrefixOf, beq_iff_eq, Bool.and_eq_true, Ne.symm ha0, Ne.symm hFF, Ne.symm hFE,
    Ne.symm hEF, false_and, if_false]
  split <;> simp_all

end StayKey.Codec
