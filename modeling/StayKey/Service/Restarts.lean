/-
StayKey.Service.Restarts — what a guest's key is worth after a crash.

The rows of the keys were written by processes that are gone, and are still
genuine under the property key of the process that runs, since all have the
same one (`Service.Host`). So a key that was handed out before a crash
passes the static checks after it exactly where its row says so
(`restart_keeps_keys`).

Each statement is committed on its own, so a request that is cut off leaves
the tables as its last statement did. `Store.Integrity` is what they have
between any two statements of a request (`Service.StorePart`), and so
wherever a process dies (`crash_keeps_integrity`).

What is presented after a crash is the subject of `Service.AfterCrash`.
-/
import StayKey.Service.Host

namespace StayKey.Service

open StayKey.Codec StayKey.Door StayKey.Store StayKey.Program

variable {ι : Type} {E : Env} {pem : Pem}

/-- The key that an answer hands out has its row. -/
abbrev Recorded (E : Env) (sk : PrivateKey) (a : Answer) (s : AppState) : Prop :=
  HandedOut (HasRow E sk) a s.db

/-- What the tables have between two processes. -/
structure TablesKept (E : Env) (pem : Pem) (d : Disk) : Prop where
  genuine : ∀ f sk, d.keyFile = some f → pem.load f.bytes = .ok sk → KeysGenuine E sk d.db
  unused : d.keyFile = none → ∀ k, k ∉ d.db.keys
  booking : NoDoubleBooking d.db

/-- What a process has while it runs. -/
structure TablesServed (E : Env) (pem : Pem) (d : Disk) (s : AppState) : Prop where
  saved : d.db = s.db
  key : ∃ f, d.keyFile = some f ∧ pem.load f.bytes = .ok s.propertySk
  genuine : KeysGenuine E s.propertySk s.db
  booking : NoDoubleBooking s.db

theorem tablesKept_boot (b : Start ι) {d : Disk} (hd : TablesKept E pem d) :
    TablesKept E pem (hostBoot E pem b d).1 where
  genuine f sk hf hload := by
    rw [hostBoot_db]
    cases hkey : d.keyFile with
    | some g =>
      obtain rfl : g = f := Option.some.inj ((hostBoot_keyFile hkey).symm.trans hf)
      exact hd.genuine g sk hkey hload
    | none => exact fun k hk => absurd hk (hd.unused hkey k)
  unused hf := by
    rw [hostBoot_db]
    cases hkey : d.keyFile with
    | some g =>
      rw [hostBoot_keyFile hkey] at hf
      cases hf
    | none => exact hd.unused hkey
  booking := by
    rw [hostBoot_db]
    exact hd.booking

theorem TablesServed.kept {d : Disk} {s : AppState} (h : TablesServed E pem d s) : TablesKept E pem d where
  genuine f sk hf hload := by
    obtain ⟨g, hg, hkey⟩ := h.key
    obtain rfl : g = f := Option.some.inj (hg.symm.trans hf)
    obtain rfl : s.propertySk = sk := Except.ok.inj (hkey.symm.trans hload)
    rw [h.saved]
    exact h.genuine
  unused hf := by
    obtain ⟨g, hg, -⟩ := h.key
    rw [hf] at hg
    cases hg
  booking := by
    rw [h.saved]
    exact h.booking

theorem TablesServed.exec {d : Disk} {s : AppState} (h : TablesServed E pem d s) {op : ApiStmt}
    (hop : AllowedOnStore (KeyOk E s.propertySk) op s) :
    TablesServed E pem { d with db := (execApi E op s).2.db } (execApi E op s).2 where
  saved := rfl
  key := by
    rw [(sameInstall_execApi op s).propertySk]
    exact h.key
  genuine := by
    rw [(sameInstall_execApi op s).propertySk]
    exact keysGenuine_execApi op s hop h.genuine
  booking := noDoubleBooking_execApi op h.booking

/-- The tables of a host, over all its processes. -/
theorem sound_tables [DecidableEq ι] (hpem : pem.Correct) :
    Sound (host (ι := ι) E pem) (fun b => b.envPem.getD "" = "") (TablesKept E pem)
      (fun _ => TablesServed E pem)
      (fun _ s t => Extends s.db t.db ∧ t.propertySk = s.propertySk)
      (fun _ op s => AllowedOnStore (KeyOk E s.propertySk) op s)
      (fun _ _ a s => Recorded E s.propertySk a s) where
  refl _ s := ⟨Extends.refl s.db, rfl⟩
  trans _ _ _ _ h h' := ⟨h.1.trans h'.1, h'.2.trans h.2⟩
  effect _ op _ s _ _ := ⟨extends_execApi op s, (sameInstall_execApi op s).propertySk⟩
  disk b _ _ hd := tablesKept_boot b hd
  start b d s henv hd hs := by
    obtain ⟨sk, rfl, hrun⟩ := hostBoot_started hs
    obtain ⟨f, hf, hload, -⟩ := loadOrCreate_ok hpem henv hrun
    have hkept := tablesKept_boot b hd
    refine ⟨⟨hostBoot_db b d, ⟨f, hf, hload⟩, ?_, hd.booking⟩, fun i => ?_⟩
    · have hgenuine := hkept.genuine f sk hf hload
      rwa [hostBoot_db] at hgenuine
    · refine ((storeRules_genuine.request (b.req i) trivial).given (J := fun s => s.propertySk = sk)
        (fun _ _ h => h.1) (fun _ _ h hsk => h.2.trans hsk)
        (fun op s hsk => (sameInstall_execApi op s).propertySk.trans hsk) ?_ rfl).imp fun a t ht => ?_
      · rintro op s rfl hok
        exact hok
      · obtain ⟨⟨-, hrow⟩, hsk⟩ := ht
        rw [hsk]
        exact hrow
  step _ _ _ _ hop hI := hI.exec hop
  idle _ _ _ hI := ⟨rfl, hI.key, hI.genuine, hI.booking⟩
  rest _ _ _ hI := hI.kept

section Runs

variable [DecidableEq ι] {h : List (HostEntry ι)} {m t : HostMachine ι}

/-- The tables extend over all processes. -/
theorem extends_perform (e : Event ι (Start ι)) (m : HostMachine ι)
    (hsaved : ∀ p, m.process = some p → m.disk.db = p.threads.shared.db) :
    Extends m.disk.db (Machine.perform (host E pem) e m).2.disk.db := by
  cases e with
  | start b =>
    have hdb : (Machine.perform (host E pem) (.start b) m).2.disk.db = m.disk.db := hostBoot_db b m.disk
    rw [hdb]
    exact Extends.refl m.disk.db
  | crash => exact Extends.refl m.disk.db
  | turn i =>
    obtain ⟨disk, process⟩ := m
    cases process with
    | none => exact Extends.refl disk.db
    | some p =>
      have hturn : Extends p.threads.shared.db (p.threads.turn (execApi E) i).shared.db :=
        Prog.next_preserves (execApi E) (P := fun _ => True) (I := fun t => Extends p.threads.shared.db t.db)
          (fun op t _ ht => ht.trans (extends_execApi op t)) (Prog.only_true _) (Extends.refl _)
      rw [hsaved p rfl]
      exact hturn

/-- **The tables of every moment**, whatever processes there were. -/
theorem tables_visited (hpem : pem.Correct) (hm : HostRun E pem h m) (henv : NoEnvKey h)
    (hv : History.Visits h m t) :
    t.Good (host E pem) (TablesKept E pem) (fun _ => TablesServed E pem)
      (fun _ s t => Extends s.db t.db ∧ t.propertySk = s.propertySk)
      (fun _ op s => AllowedOnStore (KeyOk E s.propertySk) op s)
      (fun _ _ a s => Recorded E s.propertySk a s) := by
  have hempty : TablesKept E pem ⟨none, .empty⟩ :=
    ⟨nofun, fun _ _ => Table.notMem_empty _, noDoubleBooking_empty⟩
  rcases hv with rfl | ⟨e, he, rfl⟩
  · exact Lives.sound (sound_tables hpem) hempty hm henv
  · obtain ⟨l, h', rfl⟩ := List.append_of_mem he
    exact Lives.sound (sound_tables hpem) hempty hm.of_append.1 fun e' he' =>
      henv e' (List.mem_append_right l (List.mem_cons_of_mem _ he'))

/-- The tables only extend. -/
theorem extends_visited (hpem : pem.Correct) (hm : HostRun E pem h m) (henv : NoEnvKey h)
    (hv : History.Visits h m t) : Extends t.disk.db m.disk.db := by
  refine hm.since_visits_entries (P := fun m => Extends t.disk.db m.disk.db) hv (Extends.refl _)
    fun e he hext => hext.trans (extends_perform e.request e.before fun p hp => ?_)
  exact ((tables_visited hpem hm henv (.inr ⟨e, he, rfl⟩)).memory p hp).saved

/-- A key that was handed out has its row in every later process. -/
theorem hasRow_visited (hpem : pem.Correct) (hm : HostRun E pem h m) (henv : NoEnvKey h)
    (hv : History.Visits h m t) {p q : Process ι ApiStmt ApiStmt.Res Exc Answer AppState (Start ι)}
    (hp : t.process = some p) (hq : m.process = some q) {i : ι} {a : Answer} {key : IssuedKey}
    (ha : (p.threads.prog i).outcome? = some (.ok a)) (hkey : a.handedOut? = some key) :
    HasRow E q.threads.shared.propertySk key q.threads.shared.db := by
  have ht := tables_visited hpem hm henv hv
  have hserved := (tables_visited hpem hm henv (.inl rfl)).memory q hq
  have hrow : HasRow E p.threads.shared.propertySk key p.threads.shared.db := by
    have hprog := ht.progs p hp i
    rw [Prog.outcome?_ok ha] at hprog
    exact hprog p.threads.shared ⟨Extends.refl _, rfl⟩ key hkey
  rw [← (ht.memory p hp).saved] at hrow
  rw [(property_key_lasts hpem hm henv hv).1 p q hp hq, ← hserved.saved]
  exact hrow.extends (extends_visited hpem hm henv hv)

/-- **A crash takes nothing from a key.** Say that a process has answered a
request with a key. Then in every later process, after any number of
crashes in the middle of anything, the table has a row of this key, and its
token passes the static checks exactly in the property and at the door of
that row, in its window, and if it is not revoked. No room is ever booked
twice. -/
theorem restart_keeps_keys (hE : E.ed.Correct) (hpem : pem.Correct) (hm : HostRun E pem h m)
    (henv : NoEnvKey h) (hv : History.Visits h m t)
    {p q : Process ι ApiStmt ApiStmt.Res Exc Answer AppState (Start ι)} (hp : t.process = some p)
    (hq : m.process = some q) {i : ι} {a : Answer} {key : IssuedKey}
    (ha : (p.threads.prog i).outcome? = some (.ok a)) (hkey : a.handedOut? = some key) :
    NoDoubleBooking q.threads.shared.db ∧
    ∃ k ∈ q.threads.shared.db.keys, k.keyId = key.keyId ∧
      ∃ stay, q.threads.shared.db.getStay k.stayId = some stay ∧
        ∀ (property : String) (room now : Int) (revoked : Finset PyStr),
          PassesStatic E key.token (E.ed.publicKey q.threads.shared.propertySk) property room now revoked ↔
            property = stay.propertyId ∧ room = k.roomId ∧ k.validFrom ≤ now ∧ now ≤ k.validUntil ∧
              py k.keyId ∉ revoked := by
  have hserved := (tables_visited hpem hm henv (.inl rfl)).memory q hq
  obtain ⟨k, hk, read, stay, fresh, hholds⟩ := hasRow_visited hpem hm henv hv hp hq ha hkey
  refine ⟨hserved.booking, k, hk, hholds.keyId, stay, hholds.getStay, fun property room now revoked => ?_⟩
  rw [← hholds.token]
  exact (hserved.genuine k hk).passesStatic_iff hE hholds.getStay property room now revoked

end Runs

/-- A guest reserves and checks in. -/
abbrev checkedInEvents : List (Event (Fin 7) (Start (Fin 7))) :=
  .start (sampleStart sampleKey guestRequests) :: [0, 1, 1, 1, 1, 2, 2, 2, 2].map .turn

/-- The process dies, and another one is asked to open the door. -/
abbrev restartEvents : List (Event (Fin 7) (Start (Fin 7))) :=
  [.crash, .start (sampleStart sampleFresh.deviceSk guestRequests)]
    ++ [3, 3, 4, 4, 4, 4, 4, 4, 4].map .turn

theorem noEnvKey_restart : NoEnvKey (runHost (checkedInEvents ++ restartEvents)).1 := by
  refine noEnvKey_runHost fun b hb => ?_
  simp only [List.mem_append, List.mem_cons, Event.start.injEq, List.mem_map, reduceCtorEq,
    and_false, exists_false, or_false, false_or, List.not_mem_nil] at hb
  obtain rfl | rfl := hb <;> rfl

/-- The key of the check-in is there after the crash. -/
theorem restart_keeps_keys_sample :
    ∃ p q a key, (runHost checkedInEvents).2.process = some p ∧
      (runHost (checkedInEvents ++ restartEvents)).2.process = some q ∧
      (p.threads.prog 2).outcome? = some (.ok a) ∧ a.handedOut? = some key ∧
      NoDoubleBooking q.threads.shared.db ∧
      ∃ k ∈ q.threads.shared.db.keys, k.keyId = key.keyId := by
  have hm : HostRun Env.sample Pem.sample _ (runHost (checkedInEvents ++ restartEvents)).2 :=
    History.of_runAll _ _ _
  have hv : History.Visits (runHost (checkedInEvents ++ restartEvents)).1 _ (runHost checkedInEvents).2 :=
    History.visits_runAll _ _
  have hanswered : ((runHost checkedInEvents).2.process.any fun p => (p.threads.prog 2).outcome?.any
      fun o => o.toOption.any fun a => a.handedOut?.isSome) = true := by decide +kernel
  obtain ⟨p, hp, hanswered⟩ := (Option.any_eq_true _ _).mp hanswered
  obtain ⟨o, ha, hanswered⟩ := (Option.any_eq_true _ _).mp hanswered
  have hruns : (runHost (checkedInEvents ++ restartEvents)).2.process.isSome = true := by decide +kernel
  obtain ⟨q, hq⟩ := Option.isSome_iff_exists.mp hruns
  cases o with
  | error e => cases hanswered
  | ok a =>
    obtain ⟨key, hkey⟩ := Option.isSome_iff_exists.mp hanswered
    obtain ⟨hbooking, k, hk, hid, -⟩ := restart_keeps_keys Env.sample_correct Pem.sample_correct hm
      noEnvKey_restart hv hp hq ha hkey
    exact ⟨p, q, a, key, hp, hq, ha, hkey, hbooking, k, hk, hid⟩

/-! ## The tables wherever a process dies -/

section Integrity

variable {P : String}

theorem sound_integrity [DecidableEq ι] :
    Sound (host (ι := ι) E pem) (fun b => b.propertyId = P) (fun d => Integrity P d.db)
      (fun _ d s => d.db = s.db ∧ Integrity P s.db) (fun _ s t => Others Extends (Integrity P) s.db t.db)
      (fun _ => AllowedOnStore (StmtSound P)) (fun _ _ _ t => Integrity P t.db) where
  refl _ s := Others.refl Extends.refl s.db
  trans _ s t u := Others.trans (K := Extends) (fun _ _ _ => Extends.trans) s.db t.db u.db
  effect _ op _ s hop _ := ⟨extends_execApi op s, integrity_execApi op s hop⟩
  disk b d _ hd := by
    show Integrity P (hostBoot E pem b d).1.db
    rw [hostBoot_db]
    exact hd
  start b d s hb hd hs := by
    obtain rfl := hb
    obtain ⟨sk, rfl, -⟩ := hostBoot_started hs
    refine ⟨⟨hostBoot_db b d, hd⟩, fun i => ?_⟩
    exact (storeRules_integrity.request (b.req i) hd).imp fun _ _ h => h.1
  step _ op _ s hop hI := ⟨rfl, integrity_execApi op s hop hI.2⟩
  idle _ _ _ hI := ⟨rfl, hI.2⟩
  rest _ d s hI := by rw [hI.1]; exact hI.2

/-- **The tables are never caught half-written.** In every run of the host,
whatever the requests are and however their statements interleave, and
wherever processes die, in the middle of requests or of starts, the tables
on the disk have their integrity, and the process that runs has the tables
of the disk. -/
theorem crash_keeps_integrity [DecidableEq ι] {h : List (HostEntry ι)} {m : HostMachine ι}
    (hm : HostRun E pem h m) (hP : ∀ e ∈ h, ∀ b, e.request = .start b → b.propertyId = P) :
    Integrity P m.disk.db ∧ ∀ p, m.process = some p → p.threads.shared.db = m.disk.db := by
  have hgood := Lives.sound sound_integrity integrity_empty hm hP
  exact ⟨hgood.disk, fun p hp => (hgood.memory p hp).1.symm⟩

/-- The process dies in a checkout, which has dropped the key and not yet
revoked it. -/
theorem crash_keeps_integrity_checkout :
    Integrity "HILTON-DEMO-001" (runHost (checkedInEvents ++ ([5, 5, 5, 5].map .turn ++ [.crash]))).2.disk.db ∧
    (runHost (checkedInEvents ++ ([5, 5, 5, 5].map .turn ++ [.crash]))).2.disk.db.activeKeys "s_1" = [] ∧
    (runHost (checkedInEvents ++ ([5, 5, 5, 5].map .turn ++ [.crash]))).2.disk.db.revocationList = [] := by
  have hm : HostRun Env.sample Pem.sample _
      (runHost (checkedInEvents ++ ([5, 5, 5, 5].map .turn ++ [.crash]))).2 := History.of_runAll _ _ _
  refine ⟨(crash_keeps_integrity hm fun e he b hb => ?_).1, by decide +kernel, by decide +kernel⟩
  have hstart := hb ▸ History.request_mem he
  simp only [List.cons_append, List.mem_cons, List.mem_append, Event.start.injEq, List.mem_map, reduceCtorEq,
    and_false, exists_false, or_false, List.not_mem_nil] at hstart
  rw [hstart]
  rfl

end Integrity

end StayKey.Service
