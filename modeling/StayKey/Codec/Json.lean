/-
StayKey.Codec.Json — Python's `json` module: the values `json.loads`
returns, the writer `json.dumps(…, sort_keys=True, separators=(",", ":"))`
and the reader.

Reader and writer follow CPython's C scanner and encoder: strings are
written in ASCII with `\u` escapes and surrogate pairs, integers beyond
4300 digits are refused in both directions, `NaN` and `Infinity` are
read, a repeated key keeps its first position and its last value.

Every container the scanner enters uses up one level of the
interpreter's recursion limit, and a text nested deeper raises
`RecursionError`, which is no `ValueError`. The level is the recursion
argument of `scanOnce`, so the reader is total by construction; inside a
container the loop over its members runs on the length of the text.

What the interpreter supplies beyond that (the remaining recursion
limit, `str` of a value that is no string, `int` of a text, the `repr`
of a double) is the structure `PyRuntime`, a parameter of everything
below.
-/
import StayKey.Codec.PyStr
import StayKey.Codec.Dict
import Mathlib.Data.Nat.Digits.Lemmas
import Mathlib.Data.List.Sort

namespace StayKey.Codec

/-! ## Values -/

/-- A Python `float`, by its exact value: `finite neg m e` is `±m·2^e`. -/
inductive PyFloat where
  | nan
  | inf (neg : Bool)
  | finite (neg : Bool) (m : Nat) (e : Int)
  deriving DecidableEq, Repr

/-- What `json.loads` returns. An object is a `dict` in insertion order. -/
inductive Json where
  | null
  | bool (b : Bool)
  | int (n : Int)
  | float (x : PyFloat)
  | str (s : PyStr)
  | arr (items : List Json)
  | obj (fields : List (PyStr × Json))

/-- A `dict` with string keys, in insertion order. -/
abbrev JsonDict := List (PyStr × Json)

/-- The part of the interpreter the modelled code depends on. -/
structure PyRuntime where
  /-- How many nested containers `json` may still enter. -/
  recursionLimit : Nat
  /-- `str(x)` where `x` is no string. -/
  strOf : Json → PyStr
  /-- `int(text)`; none where it raises `ValueError`. -/
  intOfStr : PyStr → Option Int
  /-- `float.__repr__`. -/
  floatRepr : PyFloat → PyStr

variable (rt : PyRuntime)

/-- `str(x)`. -/
def pyStr : Json → PyStr
  | .str s => s
  | j => rt.strOf j

/-- `int(x)`. -/
def pyInt : Json → Except PyError Int
  | .int n => .ok n
  | .bool b => .ok (if b then 1 else 0)
  | .float .nan => .error .valueError
  | .float (.inf _) => .error .overflowError
  | .float (.finite neg m e) =>
    let n : Int := if 0 ≤ e then m * 2 ^ e.toNat else (m / 2 ^ (-e).toNat : Nat)
    .ok (if neg then -n else n)
  | .str s => match rt.intOfStr s with
    | some n => .ok n
    | none => .error .valueError
  | .null | .arr _ | .obj _ => .error .typeError

/-- `x == s` for a string `s`. -/
def eqStr (j : Json) (s : PyStr) : Bool :=
  match j with
  | .str t => t == s
  | _ => false

/-- `x == n` for an integer `n`: booleans and doubles compare by value. -/
def eqInt (j : Json) (n : Int) : Bool :=
  match j with
  | .int m => m == n
  | .bool b => (if b then 1 else 0) == n
  | .float (.finite neg m e) =>
    let s : Int := if neg then -m else m
    if 0 ≤ e then s * 2 ^ e.toNat == n else s == n * 2 ^ (-e).toNat
  | _ => false

/-! ## Numbers -/

/-- `sys.get_int_max_str_digits()`, the interpreter's default. -/
def intMaxStrDigits : Nat := 4300

/-- The decimal digits of a natural number. -/
def natText (n : Nat) : PyStr :=
  if n = 0 then [48] else ((Nat.digits 10 n).map (48 + ·)).reverse

/-- `int.__repr__`. -/
def intRepr (n : Int) : Except PyError PyStr :=
  if intMaxStrDigits < (natText n.natAbs).length then .error .valueError
  else .ok (if n < 0 then 45 :: natText n.natAbs else natText n.natAbs)

def isDigit (c : Nat) : Bool := 48 ≤ c && c ≤ 57

/-- The value of a run of decimal digits. -/
def digitsVal (ds : PyStr) : Nat := ds.foldl (fun a c => a * 10 + (c - 48)) 0

/-- `num / den` to the nearest integer, ties to even. -/
def divHalfEven (num den : Nat) : Nat :=
  let q := num / den
  let r := num % den
  if 2 * r < den then q
  else if den < 2 * r then q + 1
  else if q % 2 = 0 then q else q + 1

/-- The double nearest to `±num/den`: the exponent is chosen so that the
significand has 53 bits, or fewer at the bottom of the range. -/
def roundBinary64 (neg : Bool) (num den : Nat) : PyFloat :=
  if num = 0 then .finite neg 0 0
  else
    let scale (e : Int) : Nat × Nat :=
      if 0 ≤ e then (num, den * 2 ^ e.toNat) else (num * 2 ^ (-e).toNat, den)
    let e1 : Int := (num.log2 : Int) - den.log2 - 52
    let e2 := if (scale e1).1 / (scale e1).2 < 2 ^ 52 then e1 - 1 else e1
    let e := max e2 (-1074)
    let m := divHalfEven (scale e).1 (scale e).2
    if 0 ≤ e ∧ 2 ^ 1024 ≤ m * 2 ^ e.toNat then .inf neg else .finite neg m e

/-- `float(text)` of a JSON number: digits, fraction digits, exponent. -/
def floatOf (neg : Bool) (ip frac : PyStr) (exp : Int) : PyFloat :=
  let d := digitsVal (ip ++ frac)
  let k : Int := exp - frac.length
  if 0 ≤ k then roundBinary64 neg (d * 10 ^ k.toNat) 1
  else roundBinary64 neg d (10 ^ (-k).toNat)

/-- The integer part: a single `0`, or a run of digits not opening with `0`. -/
def scanIntPart : PyStr → Option (PyStr × PyStr)
  | [] => none
  | c :: r =>
    if c = 48 then some ([48], r)
    else if isDigit c then some (c :: r.takeWhile isDigit, r.dropWhile isDigit)
    else none

/-- `.` and at least one digit, or nothing. -/
def scanFrac : PyStr → Option PyStr × PyStr
  | 46 :: c :: r =>
    if isDigit c then (some (c :: r.takeWhile isDigit), r.dropWhile isDigit)
    else (none, 46 :: c :: r)
  | s => (none, s)

/-- `e` or `E`, a sign perhaps, and at least one digit, or nothing. -/
def scanExp (s : PyStr) : Option Int × PyStr :=
  match s with
  | e :: r =>
    if e = 101 ∨ e = 69 then
      let (neg, r') := match r with
        | 45 :: t => (true, t)
        | 43 :: t => (false, t)
        | t => (false, t)
      match r'.takeWhile isDigit with
      | [] => (none, s)
      | ds =>
        (some (if neg then -(digitsVal ds : Int) else digitsVal ds), r'.dropWhile isDigit)
    else (none, s)
  | [] => (none, s)

def scanSign : PyStr → Bool × PyStr
  | 45 :: r => (true, r)
  | s => (false, s)

/-- A number after its sign. A fraction or an exponent makes it a double. -/
def scanUnsigned (neg : Bool) (s : PyStr) : Except PyError (Json × PyStr) :=
  match scanIntPart s with
  | none => .error .valueError
  | some (ip, s2) =>
    match scanFrac s2 with
    | (frac, s3) =>
      match frac, scanExp s3 with
      | none, (none, _) =>
        if intMaxStrDigits < ip.length then .error .valueError
        else .ok (.int (if neg then -(digitsVal ip : Int) else digitsVal ip), s2)
      | _, (exp, s4) => .ok (.float (floatOf neg ip (frac.getD []) (exp.getD 0)), s4)

/-- A number, as CPython's `_match_number_unicode` reads it. -/
def scanNumber (s : PyStr) : Except PyError (Json × PyStr) :=
  scanUnsigned (scanSign s).1 (scanSign s).2

/-! ## Strings -/

def hexDigit (d : Nat) : Nat := if d < 10 then 48 + d else 87 + d

/-- `'\\u{0:04x}'.format(u)`. -/
def unicodeEscape (u : Nat) : PyStr :=
  [92, 117, hexDigit (u / 4096 % 16), hexDigit (u / 256 % 16), hexDigit (u / 16 % 16),
    hexDigit (u % 16)]

/-- One character of `json.encoder.encode_basestring_ascii`. -/
def escapeChar (c : Nat) : PyStr :=
  if c = 34 then [92, 34]
  else if c = 92 then [92, 92]
  else if c = 10 then [92, 110]
  else if c = 13 then [92, 114]
  else if c = 9 then [92, 116]
  else if c = 12 then [92, 102]
  else if c = 8 then [92, 98]
  else if 32 ≤ c ∧ c ≤ 126 then [c]
  else if c < 0x10000 then unicodeEscape c
  else unicodeEscape (0xD800 + (c - 0x10000) / 1024) ++ unicodeEscape (0xDC00 + (c - 0x10000) % 1024)

def escapeString (s : PyStr) : PyStr := 34 :: (s.flatMap escapeChar ++ [34])

def hexVal? (c : Nat) : Option Nat :=
  if 48 ≤ c ∧ c ≤ 57 then some (c - 48)
  else if 97 ≤ c ∧ c ≤ 102 then some (c - 87)
  else if 65 ≤ c ∧ c ≤ 70 then some (c - 55)
  else none

def hex4? (a b c d : Nat) : Option Nat := do
  let a' ← hexVal? a
  let b' ← hexVal? b
  let c' ← hexVal? c
  let d' ← hexVal? d
  return ((a' * 16 + b') * 16 + c') * 16 + d'

/-- The one-letter escapes. -/
def simpleEscape? (c : Nat) : Option Nat :=
  if c = 34 then some 34
  else if c = 92 then some 92
  else if c = 47 then some 47
  else if c = 98 then some 8
  else if c = 102 then some 12
  else if c = 110 then some 10
  else if c = 114 then some 13
  else if c = 116 then some 9
  else none

/-- A code point of a string literal: written out, or as a `\u` escape.
Only two escapes in a row can be a surrogate pair. -/
inductive StrUnit where
  | lit (c : Nat)
  | esc (u : Nat)
  deriving DecidableEq, Repr

def StrUnit.code : StrUnit → Nat
  | .lit c => c
  | .esc u => u

/-- The rest of a string literal after its opening quote (strict mode:
no control characters), up to and with the closing quote. -/
def scanUnits : PyStr → Except PyError (List StrUnit × PyStr)
  | [] => .error .valueError
  | c :: r =>
    if c = 34 then .ok ([], r)
    else if c = 92 then
      match r with
      | [] => .error .valueError
      | e :: r1 =>
        if e = 117 then
          match r1 with
          | a :: b :: c' :: d :: r2 =>
            match hex4? a b c' d with
            | some u => (scanUnits r2).map fun p => (.esc u :: p.1, p.2)
            | none => .error .valueError
          | _ => .error .valueError
        else match simpleEscape? e with
          | some v => (scanUnits r1).map fun p => (.lit v :: p.1, p.2)
          | none => .error .valueError
    else if c < 32 then .error .valueError
    else (scanUnits r).map fun p => (.lit c :: p.1, p.2)

/-- Join an escaped pair in front, if there is one. -/
def pairEscape (u : StrUnit) (acc : List StrUnit) : List StrUnit :=
  match u, acc with
  | .esc hi, .esc lo :: r =>
    if isHighSurrogate hi && isLowSurrogate lo then .lit (joinSurrogates hi lo) :: r
    else u :: acc
  | _, _ => u :: acc

/-- `json.decoder.scanstring`. -/
def scanString (s : PyStr) : Except PyError (PyStr × PyStr) :=
  (scanUnits s).map fun p => ((p.1.foldr pairEscape []).map StrUnit.code, p.2)

/-! ## The writer -/

def keyLe : PyStr → PyStr → Bool
  | [], _ => true
  | _ :: _, [] => false
  | a :: r, b :: t => if a = b then keyLe r t else decide (a < b)

/-- `sorted(d.items())`: keys are distinct, so only they are compared. -/
def sortByKey {α : Type} (l : List (PyStr × α)) : List (PyStr × α) :=
  l.insertionSort fun p q => keyLe p.1 q.1

def joinComma : List PyStr → PyStr
  | [] => []
  | [x] => x
  | x :: y :: r => x ++ 44 :: joinComma (y :: r)

def writeField (p : PyStr × PyStr) : PyStr := escapeString p.1 ++ 58 :: p.2

mutual

/-- `json.dumps(x, sort_keys=True, separators=(",", ":"))`. -/
def dumps : Nat → Json → Except PyError PyStr
  | _, .null => .ok (py "null")
  | _, .bool b => .ok (if b then py "true" else py "false")
  | _, .int n => intRepr n
  | _, .float x => .ok (rt.floatRepr x)
  | _, .str s => .ok (escapeString s)
  | 0, .arr _ => .error .recursionError
  | 0, .obj _ => .error .recursionError
  | d + 1, .arr l => (dumpsItems d l).map fun ts => 91 :: (joinComma ts ++ [93])
  | d + 1, .obj l => (dumpsFields d l).map fun ts =>
      123 :: (joinComma ((sortByKey ts).map writeField) ++ [125])

def dumpsItems : Nat → List Json → Except PyError (List PyStr)
  | _, [] => .ok []
  | d, j :: r => do
      let t ← dumps d j
      let ts ← dumpsItems d r
      return t :: ts

def dumpsFields : Nat → List (PyStr × Json) → Except PyError (List (PyStr × PyStr))
  | _, [] => .ok []
  | d, (k, j) :: r => do
      let t ← dumps d j
      let ts ← dumpsFields d r
      return (k, t) :: ts

end

/-! ## The reader -/

def isWs (c : Nat) : Bool := c == 32 || c == 9 || c == 10 || c == 13

def skipWs (s : PyStr) : PyStr := s.dropWhile isWs

/-- A scanner of one value: the value and the text after it. -/
abbrev Scanner := PyStr → Except PyError (Json × PyStr)

/-- The members of an array after `[` and white space, at least one. -/
def scanItems (scan : Scanner) : Nat → PyStr → Except PyError (List Json × PyStr)
  | 0, _ => .error .valueError
  | n + 1, s =>
    match scan s with
    | .error e => .error e
    | .ok (v, s1) =>
      match skipWs s1 with
      | [] => .error .valueError
      | c :: s2 =>
        if c = 93 then .ok ([v], s2)
        else if c = 44 then (scanItems scan n (skipWs s2)).map fun p => (v :: p.1, p.2)
        else .error .valueError

/-- The members of an object after `{` and white space, at least one. -/
def scanFields (scan : Scanner) : Nat → PyStr → Except PyError (List (PyStr × Json) × PyStr)
  | 0, _ => .error .valueError
  | n + 1, s =>
    match s with
    | [] => .error .valueError
    | q :: s0 =>
      if q ≠ 34 then .error .valueError
      else match scanString s0 with
        | .error e => .error e
        | .ok (k, s1) =>
          match skipWs s1 with
          | [] => .error .valueError
          | c :: s2 =>
            if c ≠ 58 then .error .valueError
            else match scan (skipWs s2) with
              | .error e => .error e
              | .ok (v, s3) =>
                match skipWs s3 with
                | [] => .error .valueError
                | c' :: s4 =>
                  if c' = 125 then .ok ([(k, v)], s4)
                  else if c' = 44 then
                    (scanFields scan n (skipWs s4)).map fun p => ((k, v) :: p.1, p.2)
                  else .error .valueError

def scanArray (scan : Scanner) (s : PyStr) : Except PyError (Json × PyStr) :=
  match skipWs s with
  | 93 :: r => .ok (.arr [], r)
  | s' => (scanItems scan (s'.length + 1) s').map fun p => (.arr p.1, p.2)

def scanObject (scan : Scanner) (s : PyStr) : Except PyError (Json × PyStr) :=
  match skipWs s with
  | 125 :: r => .ok (.obj [], r)
  | s' => (scanFields scan (s'.length + 1) s').map fun p => (.obj (dictOf p.1), p.2)

/-- A literal name or a number. -/
def scanScalar (s : PyStr) : Except PyError (Json × PyStr) :=
  match s.dropPrefix? (py "null"), s.dropPrefix? (py "true"), s.dropPrefix? (py "false") with
  | some r, _, _ => .ok (.null, r)
  | _, some r, _ => .ok (.bool true, r)
  | _, _, some r => .ok (.bool false, r)
  | none, none, none =>
    match s.dropPrefix? (py "NaN"), s.dropPrefix? (py "Infinity"),
        s.dropPrefix? (py "-Infinity") with
    | some r, _, _ => .ok (.float .nan, r)
    | _, some r, _ => .ok (.float (.inf false), r)
    | _, _, some r => .ok (.float (.inf true), r)
    | none, none, none => scanNumber s

/-- `scan_once`, given the scanner for what is nested inside; none when
the recursion limit is used up. -/
def scanValue (inner : Option Scanner) (s : PyStr) : Except PyError (Json × PyStr) :=
  match s with
  | [] => .error .valueError
  | c :: r =>
    if c = 34 then (scanString r).map fun p => (.str p.1, p.2)
    else if c = 123 then
      match inner with
      | none => .error .recursionError
      | some scan => scanObject scan r
    else if c = 91 then
      match inner with
      | none => .error .recursionError
      | some scan => scanArray scan r
    else scanScalar (c :: r)

/-- `scan_once` with `d` levels of nesting left. -/
def scanOnce : Nat → Scanner
  | 0 => scanValue none
  | d + 1 => scanValue (some (scanOnce d))

/-- `json.loads` on `bytes`. -/
def loads (b : Bytes) : Except PyError Json :=
  match decodeText b with
  | none => .error .valueError
  | some s =>
    match scanOnce rt.recursionLimit (skipWs s) with
    | .error e => .error e
    | .ok (v, r) => if skipWs r = [] then .ok v else .error .valueError

end StayKey.Codec
