/-
StayKey.Service.Host — the service on its host, over any number of
processes.

The key file and the database last; the registry of locks, the challenges
and the requests that are being served are lost when the process dies. A
process starts with the property key (`Service.PropertyKey`) and the
database that is there, and then serves its requests, their statements in
any order (`Service.Concurrent`). It can die at any moment: between two
statements of a request, or while it starts. One process runs at a time: a
start is one event, and replaces the process that runs, so that two starts
on one key file never overlap.

The key file is never written again once it is there, so all processes that
find nothing in their environment have one property key
(`property_key_lasts`).
-/
import StayKey.Service.PropertyKey
import StayKey.Service.StorePart

namespace StayKey.Service

open StayKey.Codec StayKey.Door StayKey.Store StayKey.Program

variable {ι : Type}

/-- What lasts. -/
structure Disk where
  keyFile : Option KeyFile
  db : Db

/-- What a process is started with: the environment, what it draws if it
needs a property key, the mode of a file it creates, and the requests it
will get. A start can be cut off after some operations on the key file. -/
structure Start (ι : Type) where
  envPem : Option String
  propertyId : String
  generated : PrivateKey
  newMode : Nat
  cutOff : Option Nat
  req : ι → Request × Draw

variable (E : Env) (pem : Pem)

/-- `AppState(...)` on a database file that is there: `init_db` creates
nothing. -/
def AppState.restart (propertyId : String) (sk : PrivateKey) (db : Db) : AppState :=
  { AppState.new E propertyId sk with db := db }

/-- A process that has started on a database. -/
def Serving.restart (b : Start ι) (sk : PrivateKey) (db : Db) : Serving ι :=
  ⟨fun i => requestProgram E b.propertyId sk (b.req i), .restart E b.propertyId sk db⟩

/-- Start a process: the key is loaded before the database is opened. -/
def hostBoot (b : Start ι) (d : Disk) : Disk × Option (Serving ι) :=
  let load := loadOrCreatePropertyKey pem b.envPem b.generated b.newMode
  match b.cutOff with
  | some n => ({ d with keyFile := load.steps execFile n d.keyFile }, none)
  | none =>
    match load.run execFile d.keyFile with
    | (.ok sk, keyFile) => ({ d with keyFile := keyFile }, some (.restart E b sk d.db))
    | (.error _, keyFile) => ({ d with keyFile := keyFile }, none)

/-- The host; each statement on the database is committed. -/
def host : Platform ι ApiStmt ApiStmt.Res Exc Answer AppState Disk (Start ι) where
  exec := execApi E
  boot := hostBoot E pem
  save d s := { d with db := s.db }

abbrev HostMachine (ι : Type) := Machine ι ApiStmt ApiStmt.Res Exc Answer AppState Disk (Start ι)

abbrev HostEntry (ι : Type) := LifeEntry ι ApiStmt ApiStmt.Res Exc Answer AppState Disk (Start ι)

/-- The runs of a new host. -/
abbrev HostRun [DecidableEq ι] : List (HostEntry ι) → HostMachine ι → Prop :=
  Lives (host E pem) ⟨none, .empty⟩

/-- No process finds a key in its environment. -/
def NoEnvKey (h : List (HostEntry ι)) : Prop :=
  ∀ e ∈ h, ∀ b, e.request = .start b → b.envPem.getD "" = ""

/-! ## Starts -/

section Starts

variable {E pem} {b : Start ι} {d : Disk} {s : Serving ι}

@[simp] theorem hostBoot_db (b : Start ι) (d : Disk) : (hostBoot E pem b d).1.db = d.db := by
  unfold hostBoot
  cases b.cutOff with
  | some n => rfl
  | none =>
    simp only
    split <;> rfl

/-- **What a start does**, if it comes to its end. -/
theorem hostBoot_started (hs : (hostBoot E pem b d).2 = some s) :
    ∃ sk, s = .restart E b sk d.db ∧
      (loadOrCreatePropertyKey pem b.envPem b.generated b.newMode).run execFile d.keyFile
        = (.ok sk, (hostBoot E pem b d).1.keyFile) := by
  unfold hostBoot at hs ⊢
  cases hcut : b.cutOff with
  | some n =>
    rw [hcut] at hs
    cases hs
  | none =>
    rw [hcut] at hs
    simp only at hs ⊢
    rcases hrun : (loadOrCreatePropertyKey pem b.envPem b.generated b.newMode).run execFile d.keyFile
      with ⟨e | sk, keyFile⟩
    · rw [hrun] at hs
      cases hs
    · rw [hrun] at hs
      cases hs
      exact ⟨sk, rfl, rfl⟩

/-- A key file that is there is left alone. -/
theorem hostBoot_keyFile {f : KeyFile} (hf : d.keyFile = some f) :
    (hostBoot E pem b d).1.keyFile = some f := by
  have hkept (n : Nat) :
      (loadOrCreatePropertyKey pem b.envPem b.generated b.newMode).steps execFile n (some f) = some f ∧
        ((loadOrCreatePropertyKey pem b.envPem b.generated b.newMode).run execFile (some f)).2
          = some f := loadOrCreate_kept n f
  unfold hostBoot
  cases b.cutOff with
  | some n =>
    simp only [hf]
    exact (hkept n).1
  | none =>
    simp only [hf]
    have hrun := (hkept 0).2
    rcases hload : (loadOrCreatePropertyKey pem b.envPem b.generated b.newMode).run execFile (some f)
      with ⟨e | sk, keyFile⟩
    · rw [hload] at hrun
      exact hrun
    · rw [hload] at hrun
      exact hrun

/-- The mode of the key file is set, unless the start that created it was
cut off. -/
theorem hostBoot_mode (hd : d.keyFile = none) {f : KeyFile}
    (hf : (hostBoot E pem b d).1.keyFile = some f) :
    f.mode = keyFileMode ∨ ∃ n, b.cutOff = some n := by
  cases hcut : b.cutOff with
  | some n => exact .inr ⟨n, rfl⟩
  | none =>
    refine .inl ?_
    unfold hostBoot at hf
    rw [hcut, hd] at hf
    simp only at hf
    by_cases henv : b.envPem.getD "" = ""
    · rw [loadOrCreate_run_none henv] at hf
      cases hf
      rfl
    · rw [loadOrCreatePropertyKey, if_pos henv, loadPem_run] at hf
      split at hf
      · rename_i hrun
        obtain ⟨-, rfl⟩ := Prod.mk.inj hrun
        cases hf
      · rename_i hrun
        obtain ⟨-, rfl⟩ := Prod.mk.inj hrun
        cases hf

end Starts

/-! ## The property key -/

section Runs

variable [DecidableEq ι] {E pem} {h : List (HostEntry ι)} {m t : HostMachine ι}

/-- A turn leaves the key file alone. -/
theorem keyFile_turn (i : ι) :
    (Machine.perform (host E pem) (.turn i) m).2.disk.keyFile = m.disk.keyFile := by
  obtain ⟨disk, process⟩ := m
  cases process with
  | none => rfl
  | some p => rfl

/-- A key file that is there stays as it is. -/
theorem keyFile_perform {f : KeyFile} (hf : m.disk.keyFile = some f) (e : Event ι (Start ι)) :
    (Machine.perform (host E pem) e m).2.disk.keyFile = some f := by
  cases e with
  | start b => exact hostBoot_keyFile hf
  | crash => exact hf
  | turn i => exact (keyFile_turn i).trans hf

/-- The key of a process is the one in the file. -/
def KeyOnDisk (pem : Pem) (m : HostMachine ι) : Prop :=
  ∀ p, m.process = some p → ∃ f, m.disk.keyFile = some f ∧
    pem.load f.bytes = .ok p.threads.shared.propertySk

theorem keyOnDisk_perform (hpem : pem.Correct) {e : Event ι (Start ι)}
    (he : ∀ b, e = .start b → b.envPem.getD "" = "") (hm : KeyOnDisk pem m) :
    KeyOnDisk pem (Machine.perform (host E pem) e m).2 := by
  cases e with
  | crash => exact nofun
  | start b =>
    intro p hp
    obtain ⟨s, hs, rfl⟩ := Option.map_eq_some_iff.mp hp
    obtain ⟨sk, rfl, hrun⟩ := hostBoot_started hs
    obtain ⟨f, hf, hload, -⟩ := loadOrCreate_ok hpem (he b rfl) hrun
    exact ⟨f, hf, hload⟩
  | turn i =>
    obtain ⟨disk, process⟩ := m
    cases process with
    | none => exact hm
    | some p =>
      intro q hq
      cases hq
      obtain ⟨f, hf, hload⟩ := hm p rfl
      refine ⟨f, hf, ?_⟩
      rw [hload]
      exact congrArg Except.ok (sameInstall_turn p.threads i).propertySk.symm

theorem keyOnDisk_run (hpem : pem.Correct) (hm : HostRun E pem h m) (henv : NoEnvKey h) :
    KeyOnDisk pem m := by
  have hinit : KeyOnDisk pem (⟨⟨none, .empty⟩, none⟩ : HostMachine ι) := fun p hp => by cases hp
  have hstep (m : HostMachine ι) (e : Event ι (Start ι)) (hI : KeyOnDisk pem m)
      (he : ∀ b, e = .start b → b.envPem.getD "" = "") : KeyOnDisk pem (Machine.perform (host E pem) e m).2 :=
    keyOnDisk_perform hpem he hI
  exact hm.invariant hinit hstep henv

/-- The mode of the key file is set, unless some start was cut off. -/
theorem mode_run (hm : HostRun E pem h m) {f : KeyFile} (hf : m.disk.keyFile = some f) :
    f.mode = keyFileMode ∨ ∃ e ∈ h, ∃ b n, e.request = .start b ∧ b.cutOff = some n := by
  induction hm generalizing f with
  | nil => cases hf
  | @cons h m e hm ih =>
    have hearlier {f : KeyFile} (hf : m.disk.keyFile = some f) : f.mode = keyFileMode ∨
        ∃ e' ∈ Entry.of (Machine.perform (host E pem)) e m :: h, ∃ b n,
          e'.request = .start b ∧ b.cutOff = some n := by
      obtain hmode | ⟨e', he', hcut⟩ := ih hf
      · exact .inl hmode
      · exact .inr ⟨e', List.mem_cons_of_mem _ he', hcut⟩
    cases hkey : m.disk.keyFile with
    | some f₀ =>
      obtain rfl : f₀ = f := Option.some.inj ((keyFile_perform hkey e).symm.trans hf)
      exact hearlier hkey
    | none =>
      cases e with
      | start b =>
        obtain hmode | ⟨n, hcut⟩ := hostBoot_mode hkey hf
        · exact .inl hmode
        · exact .inr ⟨_, List.mem_cons_self, b, n, rfl, hcut⟩
      | crash => exact hearlier hf
      | turn i => exact hearlier ((keyFile_turn i).symm.trans hf)

/-- **One property key.** In a run in which no process finds a key in its
environment, any two processes have the same private key, however many
crashes lie between them: the key file is never written again once it is
there, even if the start that opened it was cut off; and its mode is set,
unless a start was cut off. -/
theorem property_key_lasts (hpem : pem.Correct) (hm : HostRun E pem h m) (henv : NoEnvKey h)
    (hv : History.Visits h m t) :
    (∀ p q, t.process = some p → m.process = some q →
      q.threads.shared.propertySk = p.threads.shared.propertySk) ∧
    (∀ f, t.disk.keyFile = some f → m.disk.keyFile = some f) ∧
    ∀ f, m.disk.keyFile = some f → f.mode = keyFileMode ∨
      ∃ e ∈ h, ∃ b n, e.request = .start b ∧ b.cutOff = some n := by
  have hkept (f : KeyFile) (hf : t.disk.keyFile = some f) : m.disk.keyFile = some f :=
    hm.since_visits (P := fun m => m.disk.keyFile = some f) hv hf fun m e hf => keyFile_perform hf e
  refine ⟨fun p q hp hq => ?_, hkept, fun f hf => mode_run hm hf⟩
  have hkeys : KeyOnDisk pem t := by
    rcases hv with rfl | ⟨e, he, rfl⟩
    · exact keyOnDisk_run hpem hm henv
    · obtain ⟨l, h', rfl⟩ := List.append_of_mem he
      exact keyOnDisk_run hpem hm.of_append.1 fun e' he' =>
        henv e' (List.mem_append_right l (List.mem_cons_of_mem _ he'))
  obtain ⟨f, hf, hload⟩ := hkeys p hp
  obtain ⟨g, hg, hload'⟩ := keyOnDisk_run hpem hm henv q hq
  obtain rfl : f = g := Option.some.inj ((hkept f hf).symm.trans hg)
  exact Except.ok.inj (hload'.symm.trans hload)

end Runs

/-! ## A sample host -/

/-- A key is its own PEM text. -/
def Pem.sample : Pem where
  write sk := sk.val
  load data := if hlen : data.length = 32 then .ok ⟨data, hlen⟩ else .error .valueError

theorem Pem.sample_correct : Pem.sample.Correct := fun sk => dif_pos sk.property

/-- A start that draws the given key. -/
def sampleStart (generated : PrivateKey) (req : Fin 7 → Request × Draw) : Start (Fin 7) where
  envPem := none
  propertyId := "HILTON-DEMO-001"
  generated := generated
  newMode := 0o644
  cutOff := none
  req := req

/-- What happens to a new host. -/
abbrev runHost (events : List (Event (Fin 7) (Start (Fin 7)))) :
    List (HostEntry (Fin 7)) × HostMachine (Fin 7) :=
  runAll (Machine.perform (host Env.sample Pem.sample)) ⟨⟨none, .empty⟩, none⟩ events

theorem noEnvKey_runHost {events : List (Event (Fin 7) (Start (Fin 7)))}
    (hevents : ∀ b, .start b ∈ events → b.envPem.getD "" = "") : NoEnvKey (runHost events).1 := by
  intro e he b hb
  exact hevents b (hb ▸ History.request_mem he)

/-- The second process draws another key, and has the one of the first. -/
theorem property_key_lasts_crash :
    ∃ p q, (runHost [.start (sampleStart sampleKey guestRequests)]).2.process = some p ∧
      (runHost ([.start (sampleStart sampleKey guestRequests)] ++
        [.crash, .start (sampleStart sampleFresh.deviceSk guestRequests)])).2.process = some q ∧
      q.threads.shared.propertySk = p.threads.shared.propertySk := by
  have hrun : HostRun Env.sample Pem.sample _ (runHost ([.start (sampleStart sampleKey guestRequests)] ++
      [.crash, .start (sampleStart sampleFresh.deviceSk guestRequests)])).2 := History.of_runAll _ _ _
  have henv : NoEnvKey (runHost ([.start (sampleStart sampleKey guestRequests)] ++
      [.crash, .start (sampleStart sampleFresh.deviceSk guestRequests)])).1 :=
    noEnvKey_runHost fun b hb => by
      simp only [List.cons_append, List.nil_append, List.mem_cons, Event.start.injEq, reduceCtorEq,
        List.not_mem_nil, or_false, false_or] at hb
      obtain rfl | rfl := hb <;> rfl
  have hv : History.Visits (runHost ([.start (sampleStart sampleKey guestRequests)] ++
      [.crash, .start (sampleStart sampleFresh.deviceSk guestRequests)])).1 _
        (runHost [.start (sampleStart sampleKey guestRequests)]).2 := History.visits_runAll _ _
  exact ⟨_, _, rfl, rfl, (property_key_lasts Pem.sample_correct hrun henv hv).1 _ _ rfl rfl⟩

end StayKey.Service
