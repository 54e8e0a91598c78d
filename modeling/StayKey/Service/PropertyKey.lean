/-
StayKey.Service.PropertyKey — `load_or_create_property_key`: the private key
of the property comes from the environment, else from its file, and is
generated and written there if the file is missing.

The PEM format is the library's: `Pem` is a parameter, and `Pem.Correct`
says that a key that was written is read back. A key that is created takes
three steps on the file (it is opened, written, and its mode is set), and
the process can die between any two of them: what is then left in the file
is what every later start finds (`loadOrCreate_kept`).
-/
import StayKey.Program.Restart
import StayKey.Door.Credential

namespace StayKey.Service

open StayKey.Codec StayKey.Door StayKey.Program

/-- The file of the private key. -/
structure KeyFile where
  bytes : Bytes
  mode : Nat

/-- The PEM format of private keys, without a password. -/
structure Pem where
  write : PrivateKey → Bytes
  load : Bytes → Except PyError PrivateKey

/-- A key that was written is read back. -/
def Pem.Correct (pem : Pem) : Prop := ∀ sk, pem.load (pem.write sk) = .ok sk

/-- What a start can raise. -/
inductive StartError where
  | fileNotFound
  | py (e : PyError)

/-! ## Operations on the file -/

inductive FileStmt where
  | exists
  | readBytes
  | openWrite (newMode : Nat)
  | write (data : Bytes)
  | chmod (mode : Nat)

/-- What an operation returns. -/
@[reducible] def FileStmt.Res : FileStmt → Type
  | .exists => Bool
  | .readBytes => Bytes
  | .openWrite _ | .write _ | .chmod _ => Unit

/-- The meaning of an operation; the state is the file, if there is one. A
file that is opened for writing is emptied. -/
def execFile : (op : FileStmt) → Option KeyFile → Except StartError op.Res × Option KeyFile
  | .exists, file => (.ok file.isSome, file)
  | .readBytes, none => (.error .fileNotFound, none)
  | .readBytes, some f => (.ok f.bytes, some f)
  | .openWrite newMode, none => (.ok (), some ⟨[], newMode⟩)
  | .openWrite _, some f => (.ok (), some { f with bytes := [] })
  | .write _, none | .chmod _, none => (.error .fileNotFound, none)
  | .write data, some f => (.ok (), some { f with bytes := data })
  | .chmod mode, some f => (.ok (), some { f with mode := mode })

abbrev FileCall (α : Type) := Prog FileStmt FileStmt.Res StartError α

def FileStmt.call (op : FileStmt) : FileCall op.Res := .call op .ret

/-! ## The program -/

/-- `load_pem_private_key`. -/
def loadPem (pem : Pem) (data : Bytes) : FileCall PrivateKey :=
  match pem.load data with
  | .ok sk => return sk
  | .error e => .throw (.py e)

/-- `str.encode()`. -/
def encode (s : String) : Bytes := s.toUTF8.data.toList

/-- The mode of the key file, `0o600`. -/
def keyFileMode : Nat := 0o600

/-- `load_or_create_property_key`. What it draws if it needs a key is
`generated`; a file it creates has `newMode` at first. -/
def loadOrCreatePropertyKey (pem : Pem) (envPem : Option String) (generated : PrivateKey)
    (newMode : Nat) : FileCall PrivateKey :=
  if envPem.getD "" ≠ "" then loadPem pem (encode (envPem.getD ""))
  else do
    if ← FileStmt.call .exists then loadPem pem (← FileStmt.call .readBytes)
    else do
      FileStmt.call (.openWrite newMode)
      FileStmt.call (.write (pem.write generated))
      FileStmt.call (.chmod keyFileMode)
      return generated

/-! ## What it does -/

variable {pem : Pem} {envPem : Option String} {generated sk : PrivateKey} {newMode : Nat}
  {f : KeyFile} {file' : Option KeyFile}

theorem loadPem_run (data : Bytes) (file : Option KeyFile) :
    (loadPem pem data).run execFile file = ((pem.load data).mapError .py, file) := by
  rw [loadPem]
  cases pem.load data with
  | ok sk => rfl
  | error e => rfl

/-- With nothing in the environment, a file that is there is read. -/
theorem loadOrCreate_run_some (henv : envPem.getD "" = "") (f : KeyFile) :
    (loadOrCreatePropertyKey pem envPem generated newMode).run execFile (some f)
      = ((pem.load f.bytes).mapError .py, some f) := by
  rw [loadOrCreatePropertyKey, if_neg (not_not.mpr henv)]
  exact loadPem_run f.bytes (some f)

/-- A file that is missing is created. -/
theorem loadOrCreate_run_none (henv : envPem.getD "" = "") :
    (loadOrCreatePropertyKey pem envPem generated newMode).run execFile none
      = (.ok generated, some ⟨pem.write generated, keyFileMode⟩) := by
  rw [loadOrCreatePropertyKey, if_neg (not_not.mpr henv)]
  rfl

/-- **A start that has a key has it from the file**, with nothing in the
environment: what it leaves there is read back as this key. -/
theorem loadOrCreate_ok (hpem : pem.Correct) (henv : envPem.getD "" = "") {file : Option KeyFile}
    (hrun : (loadOrCreatePropertyKey pem envPem generated newMode).run execFile file
      = (.ok sk, file')) :
    ∃ f, file' = some f ∧ pem.load f.bytes = .ok sk ∧
      (file = some f ∨ file = none ∧ f = ⟨pem.write sk, keyFileMode⟩) := by
  cases file with
  | none =>
    rw [loadOrCreate_run_none henv] at hrun
    cases hrun
    exact ⟨_, rfl, hpem generated, .inr ⟨rfl, rfl⟩⟩
  | some f =>
    rw [loadOrCreate_run_some henv] at hrun
    obtain ⟨hload, rfl⟩ := Prod.mk.inj hrun
    refine ⟨f, rfl, ?_, .inl rfl⟩
    cases hl : pem.load f.bytes with
    | ok k =>
      rw [hl] at hload
      exact congrArg Except.ok (Except.ok.inj hload)
    | error e =>
      rw [hl] at hload
      cases hload

/-- A file that is there is never written, whatever the start, and whenever
it is cut off. -/
theorem loadOrCreate_kept (n : Nat) (f : KeyFile) :
    (loadOrCreatePropertyKey pem envPem generated newMode).steps execFile n (some f) = some f ∧
      ((loadOrCreatePropertyKey pem envPem generated newMode).run execFile (some f)).2 = some f := by
  have hload (data : Bytes) (n : Nat) : (loadPem pem data).steps execFile n (some f) = some f := by
    refine Prog.steps_of_ended execFile (o := (pem.load data).mapError .py) ?_ n (some f)
    rw [loadPem]
    cases pem.load data with
    | ok sk => rfl
    | error e => rfl
  by_cases henv : envPem.getD "" = ""
  · refine ⟨?_, by rw [loadOrCreate_run_some henv]⟩
    rw [loadOrCreatePropertyKey, if_neg (not_not.mpr henv)]
    match n with
    | 0 | 1 => rfl
    | n + 2 => exact hload f.bytes n
  · rw [loadOrCreatePropertyKey, if_pos henv]
    exact ⟨hload _ n, by rw [loadPem_run]⟩

end StayKey.Service
