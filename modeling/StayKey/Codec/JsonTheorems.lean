/-
StayKey.Codec.JsonTheorems — the reader undoes the writer.

`loads_dumps`: on every value without doubles, whose strings are sequences
of scalar values and whose objects have distinct keys (`Plain`), what
`dumps` writes is read back as the same value with its keys sorted
(`sortKeys`), whatever the nesting, as long as `dumps` itself returned.

The induction is on the value, one case per constructor. Its invariant is
`Scans d t v`: the text `t`, in front of anything a value may be followed
by (`Follow`), is scanned with `d` levels left as the value `v` and
exactly `t` is used up. The lemmas before it are the same statement for a
string literal and for an integer; the member loops of arrays and objects
lift it along the list of members.
-/
import StayKey.Codec.Json

namespace StayKey.Codec

variable (rt : PyRuntime)

/-! ## Escapes -/

theorem hexVal_hexDigit : ∀ d < 16, hexVal? (hexDigit d) = some d := by decide

theorem hex4_unicodeEscape {u : Nat} (h : u < 0x10000) :
    hex4? (hexDigit (u / 4096 % 16)) (hexDigit (u / 256 % 16)) (hexDigit (u / 16 % 16))
      (hexDigit (u % 16)) = some u := by
  have digit (n : Nat) : hexVal? (hexDigit (n % 16)) = some (n % 16) :=
    hexVal_hexDigit _ (Nat.mod_lt _ (by decide))
  simp only [hex4?, digit, Option.bind_eq_bind, Option.bind_some, Option.pure_def,
    Option.some.injEq]
  omega

/-- The units a character is written as. -/
def unitsOf (c : Nat) : List StrUnit :=
  if c = 34 ∨ c = 92 ∨ c = 10 ∨ c = 13 ∨ c = 9 ∨ c = 12 ∨ c = 8 ∨ (32 ≤ c ∧ c ≤ 126) then [.lit c]
  else if c < 0x10000 then [.esc c]
  else [.esc (0xD800 + (c - 0x10000) / 1024), .esc (0xDC00 + (c - 0x10000) % 1024)]

theorem scanUnits_unicodeEscape {u : Nat} (h : u < 0x10000) (rest : PyStr) :
    scanUnits (unicodeEscape u ++ rest)
      = (scanUnits rest).map fun p => (.esc u :: p.1, p.2) := by
  simp only [unicodeEscape, List.cons_append, List.nil_append]
  rw [scanUnits]
  simp [hex4_unicodeEscape h]

theorem scanUnits_simpleEscape {e v : Nat} (he : e ≠ 117) (hv : simpleEscape? e = some v)
    (rest : PyStr) :
    scanUnits ([92, e] ++ rest) = (scanUnits rest).map fun p => (.lit v :: p.1, p.2) := by
  simp only [List.cons_append, List.nil_append]
  rw [scanUnits.eq_def]
  simp [he, hv]

/-- One written character is scanned as its units. -/
theorem scanUnits_escapeChar {c : Nat} (h : IsScalar c) (rest : PyStr) :
    scanUnits (escapeChar c ++ rest)
      = (scanUnits rest).map fun p => (unitsOf c ++ p.1, p.2) := by
  unfold escapeChar
  split_ifs with h1 h2 h3 h4 h5 h6 h7 h8 h9
  · subst h1; exact scanUnits_simpleEscape (by decide) rfl rest
  · subst h2; exact scanUnits_simpleEscape (by decide) rfl rest
  · subst h3; exact scanUnits_simpleEscape (by decide) rfl rest
  · subst h4; exact scanUnits_simpleEscape (by decide) rfl rest
  · subst h5; exact scanUnits_simpleEscape (by decide) rfl rest
  · subst h6; exact scanUnits_simpleEscape (by decide) rfl rest
  · subst h7; exact scanUnits_simpleEscape (by decide) rfl rest
  · have hu : unitsOf c = [.lit c] := if_pos (by tauto)
    rw [hu, List.cons_append, List.nil_append, scanUnits.eq_def]
    simp only [if_neg h1, if_neg h2, if_neg (show ¬ c < 32 by omega), List.cons_append,
      List.nil_append]
  · have hu : unitsOf c = [.esc c] := by
      rw [unitsOf, if_neg (by tauto), if_pos h9]
    rw [hu, scanUnits_unicodeEscape h9]
    rfl
  · have hlt : c < 0x110000 := by rcases h with h | h <;> omega
    have hu : unitsOf c
        = [.esc (0xD800 + (c - 0x10000) / 1024), .esc (0xDC00 + (c - 0x10000) % 1024)] := by
      rw [unitsOf, if_neg (by tauto), if_neg h9]
    rw [hu, List.append_assoc, scanUnits_unicodeEscape (by omega),
      scanUnits_unicodeEscape (by omega)]
    cases scanUnits rest <;> rfl

theorem scanUnits_escapeString {s : PyStr} (h : ∀ c ∈ s, IsScalar c) (rest : PyStr) :
    scanUnits (s.flatMap escapeChar ++ 34 :: rest) = .ok (s.flatMap unitsOf, rest) := by
  induction s with
  | nil => rw [scanUnits.eq_def]; simp
  | cons c s ih =>
    rw [List.flatMap_cons, List.append_assoc, scanUnits_escapeChar (h c List.mem_cons_self),
      ih fun d hd => h d (List.mem_cons_of_mem c hd)]
    rfl

theorem pairEscape_of_not_high {u : Nat} (h : isHighSurrogate u = false) (acc : List StrUnit) :
    pairEscape (.esc u) acc = .esc u :: acc := by
  cases acc with
  | nil => rfl
  | cons v r => cases v <;> simp [pairEscape, h]

theorem foldr_pairEscape {c : Nat} (h : IsScalar c) (acc : List StrUnit) :
    ((unitsOf c).foldr pairEscape acc).map StrUnit.code = c :: acc.map StrUnit.code := by
  rw [unitsOf]
  split
  · rfl
  · by_cases h2 : c < 0x10000
    · have hs : isHighSurrogate c = false := by
        simp only [isHighSurrogate, Bool.and_eq_false_iff, decide_eq_false_iff_not]
        rcases h with h | h <;> omega
      rw [if_pos h2, List.foldr_cons, List.foldr_nil, pairEscape_of_not_high hs]
      rfl
    · have hlt : c < 0x110000 := by rcases h with h | h <;> omega
      have hlo : isHighSurrogate (0xDC00 + (c - 0x10000) % 1024) = false := by
        simp only [isHighSurrogate, Bool.and_eq_false_iff, decide_eq_false_iff_not]
        omega
      have hpair : (isHighSurrogate (0xD800 + (c - 0x10000) / 1024)
          && isLowSurrogate (0xDC00 + (c - 0x10000) % 1024)) = true := by
        simp only [isHighSurrogate, isLowSurrogate, Bool.and_eq_true, decide_eq_true_eq]
        omega
      have hjoin : joinSurrogates (0xD800 + (c - 0x10000) / 1024)
          (0xDC00 + (c - 0x10000) % 1024) = c := by
        unfold joinSurrogates; omega
      rw [if_neg h2, List.foldr_cons, List.foldr_cons, List.foldr_nil, pairEscape_of_not_high hlo,
        pairEscape, if_pos hpair, hjoin]
      rfl

theorem foldr_pairEscape_flatMap {s : PyStr} (h : ∀ c ∈ s, IsScalar c) :
    ((s.flatMap unitsOf).foldr pairEscape []).map StrUnit.code = s := by
  induction s with
  | nil => rfl
  | cons c s ih =>
    rw [List.flatMap_cons, List.foldr_append, foldr_pairEscape (h c List.mem_cons_self),
      ih fun d hd => h d (List.mem_cons_of_mem c hd)]

/-- A written string literal is scanned as the string. -/
theorem scanString_escape {s : PyStr} (h : ∀ c ∈ s, IsScalar c) (rest : PyStr) :
    scanString (s.flatMap escapeChar ++ 34 :: rest) = .ok (s, rest) := by
  rw [scanString, scanUnits_escapeString h]
  simp only [Except.map, foldr_pairEscape_flatMap h]

/-! ## Integers -/

theorem isDigit_natText {n c : Nat} (h : c ∈ natText n) : isDigit c = true := by
  unfold natText at h
  split at h
  · rw [List.mem_singleton.mp h]; rfl
  · obtain ⟨d, hd, rfl⟩ := List.mem_map.mp (List.mem_reverse.mp h)
    have := Nat.digits_lt_base (by decide : 1 < 10) hd
    simp only [isDigit, Bool.and_eq_true, decide_eq_true_eq]
    omega

theorem digitsVal_map_reverse (l : List Nat) :
    digitsVal (l.map (48 + ·)).reverse = Nat.ofDigits 10 l := by
  rw [digitsVal, List.foldl_reverse]
  induction l with
  | nil => rfl
  | cons d l ih =>
    rw [List.map_cons, List.foldr_cons, ih, Nat.ofDigits_cons]
    omega

theorem digitsVal_natText (n : Nat) : digitsVal (natText n) = n := by
  unfold natText
  split
  · subst n; rfl
  · rw [digitsVal_map_reverse, Nat.ofDigits_digits]

/-- The text of a number is a single `0` or does not open with `0`. -/
theorem natText_cases (n : Nat) :
    natText n = [48] ∨ ∃ c r, natText n = c :: r ∧ c ≠ 48 := by
  by_cases hn : n = 0
  · exact Or.inl (by rw [natText, if_pos hn])
  · right
    have hne : Nat.digits 10 n ≠ [] := Nat.digits_ne_nil_iff_ne_zero.mpr hn
    refine ⟨48 + (Nat.digits 10 n).getLast hne,
      ((Nat.digits 10 n).dropLast.map (48 + ·)).reverse, ?_, ?_⟩
    · rw [natText, if_neg hn]
      conv_lhs => rw [← List.dropLast_append_getLast hne]
      simp
    · have := Nat.getLast_digit_ne_zero 10 hn
      omega

/-- What may follow a value: nothing, `,`, `]` or a closing brace. -/
def Follow : PyStr → Prop
  | [] => True
  | c :: _ => c = 44 ∨ c = 93 ∨ c = 125

theorem Follow.not_digit {c : Nat} {r : PyStr} (h : Follow (c :: r)) : isDigit c = false := by
  rcases h with rfl | rfl | rfl <;> rfl

theorem takeWhile_digits {ds rest : PyStr} (hd : ∀ c ∈ ds, isDigit c = true) (hr : Follow rest) :
    (ds ++ rest).takeWhile isDigit = ds ∧ (ds ++ rest).dropWhile isDigit = rest := by
  rw [List.takeWhile_append_of_pos hd, List.dropWhile_append_of_pos hd]
  cases rest with
  | nil => simp
  | cons c r => simp [hr.not_digit]

theorem scanIntPart_natText (n : Nat) {rest : PyStr} (hr : Follow rest) :
    scanIntPart (natText n ++ rest) = some (natText n, rest) := by
  rcases natText_cases n with h | ⟨c, r, h, hc⟩
  · rw [h]; rfl
  · have hd : ∀ x ∈ c :: r, isDigit x = true := fun x hx => isDigit_natText (h ▸ hx)
    have hspan := takeWhile_digits (fun x hx => hd x (List.mem_cons_of_mem c hx)) hr
    rw [h, List.cons_append, scanIntPart, if_neg hc, if_pos (hd c List.mem_cons_self), hspan.1,
      hspan.2]

theorem scanFrac_follow {rest : PyStr} (hr : Follow rest) : scanFrac rest = (none, rest) := by
  unfold scanFrac
  split
  · simp [Follow] at hr
  · rfl

theorem scanExp_follow {rest : PyStr} (hr : Follow rest) : scanExp rest = (none, rest) := by
  cases rest with
  | nil => rfl
  | cons c r => rcases hr with rfl | rfl | rfl <;> rfl

theorem natText_head_ne_minus (n : Nat) (rest : PyStr) : ∀ t, natText n ++ rest ≠ 45 :: t := by
  intro t h
  have h45 : (45 : Nat) ∈ natText n := by
    rcases natText_cases n with hn | ⟨c, r, hn, _⟩
    · rw [hn] at h; simp at h
    · rw [hn, List.cons_append, List.cons.injEq] at h
      rw [hn, h.1]; exact List.mem_cons_self
  exact absurd (isDigit_natText h45) (by decide)

/-- The digits after the sign are read as their value. -/
theorem scanUnsigned_natText (neg : Bool) {n : Nat} (h : (natText n).length ≤ intMaxStrDigits)
    {rest : PyStr} (hr : Follow rest) :
    scanUnsigned neg (natText n ++ rest) = .ok (.int (if neg then -(n : Int) else n), rest) := by
  simp only [scanUnsigned, scanIntPart_natText n hr, scanFrac_follow hr, scanExp_follow hr,
    if_neg (Nat.not_lt.mpr h), digitsVal_natText]

theorem scanSign_natText (n : Nat) (rest : PyStr) :
    scanSign (natText n ++ rest) = (false, natText n ++ rest) := by
  unfold scanSign
  split
  · rename_i r hs; exact absurd hs (natText_head_ne_minus n rest r)
  · rfl

/-- A written integer is scanned as the integer. -/
theorem scanNumber_intRepr {n : Int} {t : PyStr} (h : intRepr n = .ok t) {rest : PyStr}
    (hr : Follow rest) : scanNumber (t ++ rest) = .ok (.int n, rest) := by
  unfold intRepr at h
  split at h
  · cases h
  · rename_i hlen
    have hlen' : (natText n.natAbs).length ≤ intMaxStrDigits := Nat.not_lt.mp hlen
    obtain rfl := Except.ok.inj h
    by_cases hneg : n < 0
    · rw [if_pos hneg, List.cons_append, scanNumber]
      simp only [scanSign, scanUnsigned_natText true hlen' hr, if_true]
      rw [show -(n.natAbs : Int) = n by omega]
    · rw [if_neg hneg, scanNumber, scanSign_natText]
      simp only [scanUnsigned_natText false hlen' hr, Bool.false_eq_true, if_false]
      rw [show (n.natAbs : Int) = n by omega]

/-! ## Written text is ASCII -/

theorem hexDigit_ascii : ∀ d < 16, hexDigit d < 0x80 := by decide

theorem ascii_unicodeEscape (u : Nat) : Ascii (unicodeEscape u) := by
  have digit (n : Nat) : hexDigit (n % 16) < 0x80 := hexDigit_ascii _ (Nat.mod_lt _ (by decide))
  intro c hc
  simp only [unicodeEscape, List.mem_cons, List.not_mem_nil, or_false] at hc
  rcases hc with rfl | rfl | rfl | rfl | rfl | rfl
  · decide
  · decide
  all_goals exact digit _

theorem ascii_escapeChar (c : Nat) : Ascii (escapeChar c) := by
  unfold escapeChar
  split_ifs
  all_goals first
    | exact (ascii_unicodeEscape _).append (ascii_unicodeEscape _)
    | exact ascii_unicodeEscape _
    | decide
    | (intro d hd; rw [List.mem_singleton.mp hd]; omega)

theorem ascii_escapeString (s : PyStr) : Ascii (escapeString s) := by
  refine Ascii.cons (by decide) (Ascii.append ?_ (by simp [Ascii]))
  intro c hc
  obtain ⟨d, _, hd⟩ := List.mem_flatMap.mp hc
  exact ascii_escapeChar d c hd

theorem ascii_natText (n : Nat) : Ascii (natText n) := by
  intro c hc
  have := isDigit_natText hc
  simp only [isDigit, Bool.and_eq_true, decide_eq_true_eq] at this
  omega

theorem ascii_intRepr {n : Int} {t : PyStr} (h : intRepr n = .ok t) : Ascii t := by
  unfold intRepr at h
  split at h
  · cases h
  · obtain rfl := Except.ok.inj h
    split
    · exact Ascii.cons (by decide) (ascii_natText _)
    · exact ascii_natText _

/-! ## The invariant of the induction -/

/-- The first character of a value: no white space and no bracket that
closes. -/
def Starts (t : PyStr) : Prop := ∃ c r, t = c :: r ∧ isWs c = false ∧ c ≠ 93 ∧ c ≠ 125

/-- With `d` levels left, `t` is scanned as `v` and is used up. -/
structure Scans (d : Nat) (t : PyStr) (v : Json) : Prop where
  starts : Starts t
  ascii : Ascii t
  scan : ∀ rest, Follow rest → scanOnce d (t ++ rest) = .ok (v, rest)

theorem Starts.skipWs {t : PyStr} (h : Starts t) (rest : PyStr) :
    skipWs (t ++ rest) = t ++ rest := by
  obtain ⟨c, r, rfl, hc, _⟩ := h
  simp [Codec.skipWs, hc]

theorem skipWs_cons {c : Nat} (h : isWs c = false) (r : PyStr) : skipWs (c :: r) = c :: r := by
  simp [skipWs, h]

theorem scanValue_cons (inner : Option Scanner) (c : Nat) (r : PyStr) :
    scanValue inner (c :: r) =
      if c = 34 then (scanString r).map fun p => (.str p.1, p.2)
      else if c = 123 then inner.elim (.error .recursionError) fun scan => scanObject scan r
      else if c = 91 then inner.elim (.error .recursionError) fun scan => scanArray scan r
      else scanScalar (c :: r) := by
  cases inner <;> rfl

theorem scanOnce_eq (d : Nat) (s : PyStr) : ∃ inner, scanOnce d s = scanValue inner s := by
  cases d with
  | zero => exact ⟨none, rfl⟩
  | succ d => exact ⟨some (scanOnce d), rfl⟩

theorem scans_str (d : Nat) {s : PyStr} (h : ∀ c ∈ s, IsScalar c) :
    Scans d (escapeString s) (.str s) where
  starts := ⟨34, _, rfl, rfl, by decide, by decide⟩
  ascii := ascii_escapeString s
  scan rest _ := by
    obtain ⟨inner, hinner⟩ := scanOnce_eq d (escapeString s ++ rest)
    rw [hinner, escapeString, List.cons_append, List.append_assoc, List.cons_append,
      List.nil_append, scanValue_cons, if_pos rfl, scanString_escape h]
    rfl

/-- A text whose first character opens no string and no container goes to
`scanScalar`. -/
theorem scanOnce_scalar (d : Nat) {c : Nat} (r : PyStr) (h34 : c ≠ 34) (h123 : c ≠ 123)
    (h91 : c ≠ 91) : scanOnce d (c :: r) = scanScalar (c :: r) := by
  obtain ⟨inner, hinner⟩ := scanOnce_eq d (c :: r)
  rw [hinner, scanValue_cons, if_neg h34, if_neg h123, if_neg h91]

theorem dropPrefix_append (p r : PyStr) : (p ++ r).dropPrefix? p = some r := by
  induction p with
  | nil => cases r <;> rfl
  | cons a p ih => simpa [List.dropPrefix?] using ih

theorem dropPrefix_ne {c e : Nat} (h : c ≠ e) (r w : PyStr) :
    (c :: r).dropPrefix? (e :: w) = none := by
  simp [List.dropPrefix?, h]

theorem scans_null (d : Nat) : Scans d (py "null") .null where
  starts := ⟨110, _, rfl, rfl, by decide, by decide⟩
  ascii := by decide
  scan rest _ := by
    have h := scanOnce_scalar d (py "ull" ++ rest) (c := 110) (by decide) (by decide) (by decide)
    rw [show py "null" ++ rest = 110 :: (py "ull" ++ rest) from rfl, h,
      show 110 :: (py "ull" ++ rest) = py "null" ++ rest from rfl, scanScalar, dropPrefix_append]

theorem scans_true (d : Nat) : Scans d (py "true") (.bool true) where
  starts := ⟨116, _, rfl, rfl, by decide, by decide⟩
  ascii := by decide
  scan rest _ := by
    have h := scanOnce_scalar d (py "rue" ++ rest) (c := 116) (by decide) (by decide) (by decide)
    have hnull : (py "true" ++ rest).dropPrefix? (py "null") = none := dropPrefix_ne (by decide) _ _
    rw [show py "true" ++ rest = 116 :: (py "rue" ++ rest) from rfl, h,
      show 116 :: (py "rue" ++ rest) = py "true" ++ rest from rfl, scanScalar, hnull,
      dropPrefix_append]

theorem scans_false (d : Nat) : Scans d (py "false") (.bool false) where
  starts := ⟨102, _, rfl, rfl, by decide, by decide⟩
  ascii := by decide
  scan rest _ := by
    have h := scanOnce_scalar d (py "alse" ++ rest) (c := 102) (by decide) (by decide) (by decide)
    have hnull : (py "false" ++ rest).dropPrefix? (py "null") = none :=
      dropPrefix_ne (by decide) _ _
    have htrue : (py "false" ++ rest).dropPrefix? (py "true") = none :=
      dropPrefix_ne (by decide) _ _
    rw [show py "false" ++ rest = 102 :: (py "alse" ++ rest) from rfl, h,
      show 102 :: (py "alse" ++ rest) = py "false" ++ rest from rfl, scanScalar, hnull, htrue,
      dropPrefix_append]

/-- The head of an integer's text: a minus sign or a digit. -/
theorem intRepr_head {n : Int} {t : PyStr} (h : intRepr n = .ok t) :
    ∃ c r, t = c :: r ∧ (c = 45 ∧ n < 0 ∧ r = natText n.natAbs ∨ isDigit c = true) := by
  unfold intRepr at h
  split at h
  · cases h
  · obtain rfl := Except.ok.inj h
    split
    · rename_i hneg
      exact ⟨45, _, rfl, Or.inl ⟨rfl, hneg, rfl⟩⟩
    · rcases hc : natText n.natAbs with _ | ⟨c, r⟩
      · rcases natText_cases n.natAbs with h | ⟨c, r, h, _⟩ <;> simp [h] at hc
      · exact ⟨c, r, rfl, Or.inr (isDigit_natText (hc ▸ List.mem_cons_self))⟩

theorem scanScalar_number {c : Nat} {r : PyStr}
    (h : c = 45 ∧ r.head? ≠ some 73 ∨ isDigit c = true) :
    scanScalar (c :: r) = scanNumber (c :: r) := by
  have hne : c ≠ 110 ∧ c ≠ 116 ∧ c ≠ 102 ∧ c ≠ 78 ∧ c ≠ 73 := by
    rcases h with ⟨rfl, _⟩ | h
    · decide
    · simp only [isDigit, Bool.and_eq_true, decide_eq_true_eq] at h
      omega
  have hminus : (c :: r).dropPrefix? (py "-Infinity") = none := by
    rw [show py "-Infinity" = 45 :: 73 :: py "nfinity" from rfl]
    rcases h with ⟨rfl, h⟩ | h
    · cases r with
      | nil => rfl
      | cons e r' =>
        have : e ≠ 73 := by simpa using h
        simp [List.dropPrefix?, this]
    · exact dropPrefix_ne (by rintro rfl; simp [isDigit] at h) _ _
  rw [scanScalar, show py "null" = 110 :: py "ull" from rfl, show py "true" = 116 :: py "rue" from rfl,
    show py "false" = 102 :: py "alse" from rfl, show py "NaN" = 78 :: py "aN" from rfl,
    show py "Infinity" = 73 :: py "nfinity" from rfl,
    dropPrefix_ne hne.1, dropPrefix_ne hne.2.1, dropPrefix_ne hne.2.2.1,
    dropPrefix_ne hne.2.2.2.1, dropPrefix_ne hne.2.2.2.2, hminus]

theorem natText_head_ne (n : Nat) (rest : PyStr) (x : Nat) (hx : isDigit x = false) :
    (natText n ++ rest).head? ≠ some x := by
  rcases hc : natText n with _ | ⟨c, r⟩
  · rcases natText_cases n with h | ⟨c, r, h, _⟩ <;> simp [h] at hc
  · have hd : isDigit c = true := isDigit_natText (hc ▸ List.mem_cons_self)
    simp only [List.cons_append, List.head?_cons, ne_eq, Option.some.injEq]
    rintro rfl
    simp [hx] at hd

theorem scans_int (d : Nat) {n : Int} {t : PyStr} (h : intRepr n = .ok t) :
    Scans d t (.int n) := by
  obtain ⟨c, r, rfl, hc⟩ := intRepr_head h
  have hc' : c = 45 ∨ (48 ≤ c ∧ c ≤ 57) := by
    rcases hc with ⟨rfl, _⟩ | hc
    · exact Or.inl rfl
    · simpa [isDigit] using Or.inr hc
  refine ⟨⟨c, r, rfl, ?_, by omega, by omega⟩, ascii_intRepr h, fun rest hr => ?_⟩
  · simp only [isWs, Bool.or_eq_false_iff, beq_eq_false_iff_ne]
    omega
  · have hnum := scanNumber_intRepr h hr
    rw [List.cons_append] at hnum ⊢
    rw [scanOnce_scalar d _ (by omega) (by omega) (by omega), scanScalar_number, hnum]
    rcases hc with ⟨rfl, _, rfl⟩ | hc
    · exact Or.inl ⟨rfl, natText_head_ne _ _ _ rfl⟩
    · exact Or.inr hc

/-! ## Members -/

theorem joinComma_cons (x : PyStr) (l : List PyStr) :
    joinComma (x :: l) = x ++ (if l = [] then [] else 44 :: joinComma l) := by
  cases l <;> simp [joinComma]

/-- The text after a member: the next member, or the closing bracket. -/
theorem follow_tail (l : List PyStr) {b : Nat} (hb : b = 93 ∨ b = 125) (rest : PyStr) :
    Follow ((if l = [] then [] else 44 :: joinComma l) ++ b :: rest) := by
  split
  · rcases hb with rfl | rfl
    · exact Or.inr (Or.inl rfl)
    · exact Or.inr (Or.inr rfl)
  · exact Or.inl rfl

theorem starts_joinComma {x : PyStr} {l : List PyStr} (h : Starts x) : Starts (joinComma (x :: l)) := by
  obtain ⟨c, r, rfl, hc⟩ := h
  exact ⟨c, _, by rw [joinComma_cons, List.cons_append], hc⟩

theorem ascii_joinComma {l : List PyStr} (h : ∀ x ∈ l, Ascii x) : Ascii (joinComma l) := by
  induction l with
  | nil => exact ascii_nil
  | cons x l ih =>
    rw [joinComma_cons]
    refine (h x List.mem_cons_self).append ?_
    split
    · exact ascii_nil
    · exact Ascii.cons (by decide) (ih fun y hy => h y (List.mem_cons_of_mem x hy))

/-- The loop over the members of an array, along the list of its texts. -/
theorem scanItems_joinComma {d : Nat} {ts : List PyStr} {vs : List Json}
    (h : List.Forall₂ (Scans d) ts vs) (hne : ts ≠ []) :
    ∀ n, ts.length ≤ n → ∀ rest,
      scanItems (scanOnce d) n (joinComma ts ++ 93 :: rest) = .ok (vs, rest) := by
  induction h with
  | nil => exact absurd rfl hne
  | @cons t v ts vs ht hts ih =>
    intro n hn rest
    obtain ⟨n, rfl⟩ : ∃ m, n = m + 1 := ⟨n - 1, by simp at hn; omega⟩
    rw [joinComma_cons, List.append_assoc, scanItems,
      ht.scan _ (follow_tail ts (Or.inl rfl) rest)]
    rcases ts with _ | ⟨t', ts⟩
    · cases hts
      simp only [if_pos, List.nil_append, skipWs_cons (show isWs 93 = false from rfl)]
    · obtain ⟨v', vs, ht', hts', rfl⟩ := List.forall₂_cons_left_iff.mp hts
      have hlen : (t' :: ts).length ≤ n := by simp at hn ⊢; omega
      simp only [reduceCtorEq, if_false, List.cons_append,
        skipWs_cons (show isWs 44 = false from rfl), if_neg (show ¬ (44 : Nat) = 93 by decide),
        if_true, (starts_joinComma ht'.starts).skipWs, ih (by simp) n hlen rest, Except.map]

/-- A field's text and value: the same key, and the value's text scans. -/
def FieldScans (d : Nat) (p : PyStr × PyStr) (q : PyStr × Json) : Prop :=
  p.1 = q.1 ∧ (∀ c ∈ p.1, IsScalar c) ∧ Scans d p.2 q.2

theorem starts_writeField (p : PyStr × PyStr) : Starts (writeField p) :=
  ⟨34, _, rfl, rfl, by decide, by decide⟩

theorem ascii_writeField {d : Nat} {p : PyStr × PyStr} {q : PyStr × Json}
    (h : FieldScans d p q) : Ascii (writeField p) :=
  (ascii_escapeString _).append (Ascii.cons (by decide) h.2.2.ascii)

/-- The loop over the members of an object, along the list of its fields. -/
theorem scanFields_joinComma {d : Nat} {ps : List (PyStr × PyStr)} {qs : List (PyStr × Json)}
    (h : List.Forall₂ (FieldScans d) ps qs) (hne : ps ≠ []) :
    ∀ n, ps.length ≤ n → ∀ rest,
      scanFields (scanOnce d) n (joinComma (ps.map writeField) ++ 125 :: rest)
        = .ok (qs, rest) := by
  induction h with
  | nil => exact absurd rfl hne
  | @cons p q ps qs hp hps ih =>
    intro n hn rest
    obtain ⟨n, rfl⟩ : ∃ m, n = m + 1 := ⟨n - 1, by simp at hn; omega⟩
    obtain ⟨hkey, hscalar, hval⟩ := hp
    have hfollow := follow_tail (ps.map writeField) (Or.inr rfl : (125 : Nat) = 93 ∨ _) rest
    have hk : (p.1, q.2) = q := by rw [hkey]
    rw [List.map_cons, joinComma_cons, writeField, escapeString]
    simp only [List.append_assoc, List.cons_append, List.nil_append]
    rw [scanFields, if_neg (by decide), scanString_escape hscalar]
    simp only [skipWs_cons (show isWs 58 = false from rfl), ne_eq, not_true_eq_false, if_false,
      hval.starts.skipWs, hval.scan _ hfollow]
    rcases ps with _ | ⟨p', ps⟩
    · cases hps
      simp only [List.map_nil, if_true, List.nil_append,
        skipWs_cons (show isWs 125 = false from rfl), hk]
    · obtain ⟨q', qs, hp', hps', rfl⟩ := List.forall₂_cons_left_iff.mp hps
      have hlen : (p' :: ps).length ≤ n := by simp at hn ⊢; omega
      have hstart := starts_joinComma (l := ps.map writeField) (starts_writeField p')
      have ih' := ih (by simp) n hlen rest
      rw [List.map_cons] at ih' ⊢
      simp only [reduceCtorEq, if_false, List.cons_append,
        skipWs_cons (show isWs 44 = false from rfl), if_neg (show ¬ (44 : Nat) = 125 by decide),
        if_true, hstart.skipWs, ih', Except.map, hk]

/-! ## Sorting -/

section Sorting

variable {α β : Type}

theorem forall₂_orderedInsert {R : PyStr × α → PyStr × β → Prop}
    (hR : ∀ p q, R p q → p.1 = q.1) {p : PyStr × α} {q : PyStr × β} (hp : R p q)
    {l : List (PyStr × α)} {m : List (PyStr × β)} (h : List.Forall₂ R l m) :
    List.Forall₂ R (l.orderedInsert (fun a b => keyLe a.1 b.1) p)
      (m.orderedInsert (fun a b => keyLe a.1 b.1) q) := by
  induction h with
  | nil => exact List.Forall₂.cons hp List.Forall₂.nil
  | @cons a b l m hab hlm ih =>
    simp only [List.orderedInsert, hR _ _ hp, hR _ _ hab]
    split
    · exact List.Forall₂.cons hp (List.Forall₂.cons hab hlm)
    · exact List.Forall₂.cons hab ih

/-- Two lists with the same keys are sorted in the same way. -/
theorem forall₂_sortByKey {R : PyStr × α → PyStr × β → Prop} (hR : ∀ p q, R p q → p.1 = q.1)
    {l : List (PyStr × α)} {m : List (PyStr × β)} (h : List.Forall₂ R l m) :
    List.Forall₂ R (sortByKey l) (sortByKey m) := by
  induction h with
  | nil => exact List.Forall₂.nil
  | cons hab _ ih => exact forall₂_orderedInsert hR hab ih

theorem sortByKey_perm (l : List (PyStr × α)) : (sortByKey l).Perm l := List.perm_insertionSort _ l

end Sorting

/-! ## The round trip -/

mutual

/-- No doubles, strings of scalar values, distinct keys. -/
def Plain : Json → Prop
  | .null | .bool _ | .int _ => True
  | .float _ => False
  | .str s => ∀ c ∈ s, IsScalar c
  | .arr l => PlainItems l
  | .obj l => PlainFields l ∧ (l.map Prod.fst).Nodup

def PlainItems : List Json → Prop
  | [] => True
  | j :: r => Plain j ∧ PlainItems r

def PlainFields : List (PyStr × Json) → Prop
  | [] => True
  | (k, j) :: r => (∀ c ∈ k, IsScalar c) ∧ Plain j ∧ PlainFields r

end

mutual

/-- The value with the keys of every object sorted. -/
def sortKeys : Json → Json
  | .arr l => .arr (sortKeysItems l)
  | .obj l => .obj (sortByKey (sortKeysFields l))
  | j => j

def sortKeysItems : List Json → List Json
  | [] => []
  | j :: r => sortKeys j :: sortKeysItems r

def sortKeysFields : List (PyStr × Json) → List (PyStr × Json)
  | [] => []
  | (k, j) :: r => (k, sortKeys j) :: sortKeysFields r

end

theorem map_fst_sortKeysFields (l : List (PyStr × Json)) :
    (sortKeysFields l).map Prod.fst = l.map Prod.fst := by
  induction l with
  | nil => rfl
  | cons p r ih => rw [sortKeysFields, List.map_cons, List.map_cons, ih]

theorem nodup_sortByKey {l : List (PyStr × Json)} (h : (l.map Prod.fst).Nodup) :
    ((sortByKey (sortKeysFields l)).map Prod.fst).Nodup := by
  rw [((sortByKey_perm _).map Prod.fst).nodup_iff, map_fst_sortKeysFields]
  exact h

theorem length_le_joinComma (l : List PyStr) : l.length ≤ (joinComma l).length + 1 := by
  induction l with
  | nil => simp
  | cons x l ih =>
    rw [joinComma_cons]
    split
    · subst l; simp
    · simp only [List.length_cons, List.length_append]; omega

theorem scanArray_of_starts {scan : Scanner} {s : PyStr} (h : Starts s) (rest : PyStr) :
    scanArray scan (s ++ rest)
      = (scanItems scan ((s ++ rest).length + 1) (s ++ rest)).map fun p => (.arr p.1, p.2) := by
  rw [scanArray, h.skipWs]
  obtain ⟨c, r, rfl, _, hc, _⟩ := h
  rw [List.cons_append]
  split
  · rename_i heq; exact absurd (List.cons.inj heq).1 hc
  · rfl

theorem scanObject_of_starts {scan : Scanner} {s : PyStr} (h : Starts s) (rest : PyStr) :
    scanObject scan (s ++ rest)
      = (scanFields scan ((s ++ rest).length + 1) (s ++ rest)).map
          fun p => (.obj (dictOf p.1), p.2) := by
  rw [scanObject, h.skipWs]
  obtain ⟨c, r, rfl, _, _, hc⟩ := h
  rw [List.cons_append]
  split
  · rename_i heq; exact absurd (List.cons.inj heq).1 hc
  · rfl

theorem scanArray_joinComma {d : Nat} {ts : List PyStr} {vs : List Json}
    (h : List.Forall₂ (Scans d) ts vs) (rest : PyStr) :
    scanArray (scanOnce d) (joinComma ts ++ 93 :: rest) = .ok (.arr vs, rest) := by
  rcases ts with _ | ⟨t, ts⟩
  · cases h; rfl
  · obtain ⟨v, vs, ht, hts, rfl⟩ := List.forall₂_cons_left_iff.mp h
    have hlen := length_le_joinComma (t :: ts)
    rw [scanArray_of_starts (starts_joinComma ht.starts),
      scanItems_joinComma h (by simp) _ (by rw [List.length_append]; omega)]
    rfl

theorem scanObject_joinComma {d : Nat} {ps : List (PyStr × PyStr)} {qs : List (PyStr × Json)}
    (h : List.Forall₂ (FieldScans d) ps qs) (hnd : (qs.map Prod.fst).Nodup) (rest : PyStr) :
    scanObject (scanOnce d) (joinComma (ps.map writeField) ++ 125 :: rest)
      = .ok (.obj qs, rest) := by
  rcases ps with _ | ⟨p, ps⟩
  · cases h; rfl
  · have hlen := length_le_joinComma ((p :: ps).map writeField)
    rw [List.length_map] at hlen
    have hstart : Starts (joinComma ((p :: ps).map writeField)) :=
      starts_joinComma (starts_writeField p)
    rw [scanObject_of_starts hstart,
      scanFields_joinComma h (by simp) _ (by rw [List.length_append]; omega)]
    simp only [Except.map, dictOf_of_nodup hnd]

theorem exists_of_forall₂ {α β : Type} {R : α → β → Prop} {l : List α} {m : List β}
    (h : List.Forall₂ R l m) {x : α} (hx : x ∈ l) : ∃ y, R x y := by
  induction h with
  | nil => simp at hx
  | cons hab _ ih =>
    rcases List.mem_cons.mp hx with rfl | hx
    · exact ⟨_, hab⟩
    · exact ih hx

/-- An array of texts that scan. -/
theorem scans_arr {d : Nat} {ts : List PyStr} {vs : List Json}
    (h : List.Forall₂ (Scans d) ts vs) :
    Scans (d + 1) (91 :: (joinComma ts ++ [93])) (.arr vs) where
  starts := ⟨91, _, rfl, rfl, by decide, by decide⟩
  ascii := by
    refine Ascii.cons (by decide) ((ascii_joinComma fun x hx => ?_).append (by decide))
    obtain ⟨v, hv⟩ := exists_of_forall₂ h hx
    exact hv.ascii
  scan rest _ := by
    rw [List.cons_append, List.append_assoc, List.singleton_append, scanOnce, scanValue_cons,
      if_neg (by decide), if_neg (by decide), if_pos rfl]
    exact scanArray_joinComma h rest

/-- An object of fields that scan. -/
theorem scans_obj {d : Nat} {ps : List (PyStr × PyStr)} {qs : List (PyStr × Json)}
    (h : List.Forall₂ (FieldScans d) ps qs) (hnd : (qs.map Prod.fst).Nodup) :
    Scans (d + 1) (123 :: (joinComma (ps.map writeField) ++ [125])) (.obj qs) where
  starts := ⟨123, _, rfl, rfl, by decide, by decide⟩
  ascii := by
    refine Ascii.cons (by decide) ((ascii_joinComma fun x hx => ?_).append (by decide))
    obtain ⟨p, hp, rfl⟩ := List.mem_map.mp hx
    obtain ⟨q, hq⟩ := exists_of_forall₂ h hp
    exact ascii_writeField hq
  scan rest _ := by
    rw [List.cons_append, List.append_assoc, List.singleton_append, scanOnce, scanValue_cons,
      if_neg (by decide), if_pos rfl]
    exact scanObject_joinComma h hnd rest

theorem dumpsItems_cons_ok {d : Nat} {j : Json} {l : List Json} {ts : List PyStr} :
    dumpsItems rt d (j :: l) = .ok ts ↔
      ∃ t ts', dumps rt d j = .ok t ∧ dumpsItems rt d l = .ok ts' ∧ ts = t :: ts' := by
  rw [dumpsItems]
  constructor
  · intro h
    obtain ⟨t, ht, h⟩ := exceptBind_ok h
    obtain ⟨ts', hts, h⟩ := exceptBind_ok h
    exact ⟨t, ts', ht, hts, (Except.ok.inj h).symm⟩
  · rintro ⟨t, ts', ht, hts, rfl⟩
    rw [ht, hts]
    rfl

theorem dumpsFields_cons_ok {d : Nat} {p : PyStr × Json} {l : JsonDict} {ts : List (PyStr × PyStr)} :
    dumpsFields rt d (p :: l) = .ok ts ↔
      ∃ t ts', dumps rt d p.2 = .ok t ∧ dumpsFields rt d l = .ok ts' ∧ ts = (p.1, t) :: ts' := by
  obtain ⟨k, j⟩ := p
  rw [dumpsFields]
  constructor
  · intro h
    obtain ⟨t, ht, h⟩ := exceptBind_ok h
    obtain ⟨ts', hts, h⟩ := exceptBind_ok h
    exact ⟨t, ts', ht, hts, (Except.ok.inj h).symm⟩
  · rintro ⟨t, ts', ht, hts, rfl⟩
    rw [ht, hts]
    rfl

mutual

/-- What `dumps` writes scans as the value with its keys sorted. -/
theorem scans_dumps : ∀ (j : Json) (d : Nat) (t : PyStr), Plain j → dumps rt d j = .ok t →
    Scans d t (sortKeys j)
  | .null, d, t, _, h => by
    rw [dumps] at h; obtain rfl := Except.ok.inj h; exact scans_null d
  | .bool b, d, t, _, h => by
    rw [dumps] at h; obtain rfl := Except.ok.inj h
    cases b
    · exact scans_false d
    · exact scans_true d
  | .int n, d, t, _, h => by rw [dumps] at h; exact scans_int d h
  | .float x, d, t, hp, _ => by rw [Plain] at hp; exact hp.elim
  | .str s, d, t, hp, h => by
    rw [dumps] at h; obtain rfl := Except.ok.inj h; exact scans_str d (by rwa [Plain] at hp)
  | .arr l, 0, t, _, h => by rw [dumps] at h; cases h
  | .arr l, d + 1, t, hp, h => by
    rw [dumps] at h
    obtain ⟨ts, hts, rfl⟩ := exceptMap_ok_iff.mp h
    exact scans_arr (scans_dumpsItems l d ts (by rwa [Plain] at hp) hts)
  | .obj l, 0, t, _, h => by rw [dumps] at h; cases h
  | .obj l, d + 1, t, hp, h => by
    rw [dumps] at h
    obtain ⟨ts, hts, rfl⟩ := exceptMap_ok_iff.mp h
    rw [Plain] at hp
    exact scans_obj (forall₂_sortByKey (fun _ _ hf => hf.1)
      (scans_dumpsFields l d ts hp.1 hts)) (nodup_sortByKey hp.2)

theorem scans_dumpsItems : ∀ (l : List Json) (d : Nat) (ts : List PyStr), PlainItems l →
    dumpsItems rt d l = .ok ts → List.Forall₂ (Scans d) ts (sortKeysItems l)
  | [], d, ts, _, h => by
    rw [dumpsItems] at h; obtain rfl := Except.ok.inj h; exact List.Forall₂.nil
  | j :: r, d, ts, hp, h => by
    rw [PlainItems] at hp
    obtain ⟨t, ts', hj, hr, rfl⟩ := (dumpsItems_cons_ok rt).mp h
    exact List.Forall₂.cons (scans_dumps j d t hp.1 hj) (scans_dumpsItems r d ts' hp.2 hr)

theorem scans_dumpsFields : ∀ (l : List (PyStr × Json)) (d : Nat) (ts : List (PyStr × PyStr)),
    PlainFields l → dumpsFields rt d l = .ok ts →
      List.Forall₂ (FieldScans d) ts (sortKeysFields l)
  | [], d, ts, _, h => by
    rw [dumpsFields] at h; obtain rfl := Except.ok.inj h; exact List.Forall₂.nil
  | (k, j) :: r, d, ts, hp, h => by
    rw [PlainFields] at hp
    obtain ⟨t, ts', hj, hr, rfl⟩ := (dumpsFields_cons_ok rt).mp h
    exact List.Forall₂.cons ⟨rfl, hp.1, scans_dumps j d t hp.2.1 hj⟩
      (scans_dumpsFields r d ts' hp.2.2 hr)

end

/-- An object's text opens with a brace and another character. -/
theorem dumps_obj_head {d : Nat} {l : List (PyStr × Json)} {t : PyStr}
    (h : dumps rt d (.obj l) = .ok t) : ∃ c r, t = 123 :: c :: r ∧ c ≠ 0 := by
  cases d with
  | zero => simp [dumps] at h
  | succ d =>
    rw [dumps] at h
    obtain ⟨ts, -, rfl⟩ := exceptMap_ok_iff.mp h
    rcases (sortByKey ts) with _ | ⟨p, ps⟩
    · exact ⟨125, [], rfl, by decide⟩
    · exact ⟨34, _, by rw [List.map_cons, joinComma_cons]; rfl, by decide⟩

/-- **Round trip**: the bytes `dumps` writes for an object are loaded as
that object with its keys sorted. -/
theorem loads_dumps {l : List (PyStr × Json)} {t : PyStr} (hp : Plain (.obj l))
    (h : dumps rt rt.recursionLimit (.obj l) = .ok t) :
    loads rt (encodeAscii t) = .ok (sortKeys (.obj l)) := by
  have hs := scans_dumps rt (.obj l) _ t hp h
  have hdecode : decodeText (encodeAscii t) = some t := by
    obtain ⟨c, r, rfl, hc⟩ := dumps_obj_head rt h
    exact decodeText_ascii (by decide) hc hs.ascii
  have hws : skipWs t = t := by simpa using hs.starts.skipWs []
  have hscan : scanOnce rt.recursionLimit t = .ok (sortKeys (.obj l), []) := by
    simpa using hs.scan [] trivial
  simp only [loads, hdecode, hws, hscan]
  rfl

end StayKey.Codec
