/-
StayKey.Service.LetInAgain — a guest is let in after a crash.

The challenges and the lock objects are lost when a process dies, the keys
are not: their rows, the property key and what the tables say of the rooms
last (`Service.Restarts`). This holds as well of the host whose processes
take `lock_for` apart (`memHost`). So a guest who was handed a key by a
process that is gone asks the next one for a challenge, and is let in as
before (`Presents.let_in`).
-/
import StayKey.Service.LetIn
import StayKey.Service.Restarts

namespace StayKey.Service

open StayKey.Codec StayKey.Door StayKey.Store StayKey.Program

variable {ι : Type}

/-! ## The host -/

section Model

variable (E : Env) (pem : Pem)

/-- Start a process: it has no lock yet. -/
def memBoot (b : Start ι) (d : Disk) : Disk × Option (MemServing ι) :=
  let r := hostBoot E pem b d
  (r.1, r.2.map Serving.objects)

/-- The host of `Service.Host`, with lock objects. -/
def memHost : Platform ι MemStmt MemStmt.Res Exc Answer Memory Disk (Start ι) where
  exec := execMem E
  boot := memBoot E pem
  save d m := { d with db := m.app.db }

abbrev MemMachine (ι : Type) := Machine ι MemStmt MemStmt.Res Exc Answer Memory Disk (Start ι)

abbrev MemHostEntry (ι : Type) := LifeEntry ι MemStmt MemStmt.Res Exc Answer Memory Disk (Start ι)

abbrev MemProcess (ι : Type) := Process ι MemStmt MemStmt.Res Exc Answer Memory (Start ι)

/-- The runs of a new host. -/
abbrev MemHostRun [DecidableEq ι] : List (MemHostEntry ι) → MemMachine ι → Prop :=
  Lives (memHost E pem) ⟨none, .empty⟩

/-- All processes are started for the property, and none finds a key in its
environment. -/
def StartsFor (P : String) (h : List (MemHostEntry ι)) : Prop :=
  ∀ e ∈ h, ∀ b, e.request = .start b → b.envPem.getD "" = "" ∧ b.propertyId = P

end Model

variable {E : Env} {pem : Pem} {P : String}

theorem memBoot_started {b : Start ι} {d : Disk} {s : MemServing ι} (hs : (memBoot E pem b d).2 = some s) :
    ∃ sk, s = Serving.objects (.restart E b sk d.db) ∧
      (loadOrCreatePropertyKey pem b.envPem b.generated b.newMode).run execFile d.keyFile
        = (.ok sk, (memBoot E pem b d).1.keyFile) := by
  obtain ⟨s', hs', rfl⟩ := Option.map_eq_some_iff.mp hs
  obtain ⟨sk, rfl, hrun⟩ := hostBoot_started hs'
  exact ⟨sk, rfl, hrun⟩

/-! ## What lasts -/

theorem TablesServed.execMem {d : Disk} {m : Memory} (h : TablesServed E pem d m.app) {op : MemStmt}
    (hop : OnApi (AllowedOnStore (KeyOk E m.app.propertySk)) op m) :
    TablesServed E pem { d with db := (execMem E op m).2.app.db } (execMem E op m).2.app := by
  cases op with
  | api op => exact h.exec hop
  | registered | register => exact ⟨rfl, h.key, h.genuine, h.booking⟩

/-- The keys of a host, over all its processes. -/
theorem sound_memTables [DecidableEq ι] (hpem : pem.Correct) :
    Sound (memHost (ι := ι) E pem) (fun b => b.envPem.getD "" = "" ∧ b.propertyId = P) (TablesKept E pem)
      (fun _ d m => TablesServed E pem d m.app)
      (fun _ m n => Extends m.app.db n.app.db ∧ n.app.propertySk = m.app.propertySk)
      (fun _ op m => OnApi (AllowedOnStore (KeyOk E m.app.propertySk)) op m)
      (fun _ _ a m => Recorded E m.app.propertySk a m.app) where
  refl _ m := ⟨Extends.refl m.app.db, rfl⟩
  trans _ _ _ _ h h' := ⟨h.1.trans h'.1, h'.2.trans h.2⟩
  effect _ op _ m _ _ := ⟨(since_execMem op m).tables, (sameInstall_execMem op m).propertySk⟩
  disk b _ _ hd := tablesKept_boot b hd
  start b d s hb hd hs := by
    obtain ⟨sk, rfl, hrun⟩ := memBoot_started hs
    obtain ⟨f, hf, hload, -⟩ := loadOrCreate_ok hpem hb.1 hrun
    have hkept := tablesKept_boot (E := E) b hd
    refine ⟨⟨hostBoot_db b d, ⟨f, hf, hload⟩, ?_, hd.booking⟩, fun i => ?_⟩
    · have hgenuine := hkept.genuine f sk hf hload
      rwa [hostBoot_db] at hgenuine
    · have hrules : StoreRules E sk b.propertyId Extends (KeyOk E sk) (fun _ => True) (HasRow E sk) :=
        storeRules_genuine
      have hfree (roomId : Int) (db : Db) : KeyOk E sk (.getRoom roomId) db := fun _ hk => by cases hk
      have hrequest := hrules.request_withLocks (fun _ _ _ => Extends.trans) hfree (b.req i)
        (m := (Serving.objects (.restart E b sk d.db)).shared) trivial fun _ => 0
      refine (hrequest.given (J := fun m => m.app.propertySk = sk) (fun _ _ h => h.1)
        (fun _ _ h hsk => h.2.trans hsk) (fun op m hsk => (sameInstall_execMem op m).propertySk.trans hsk)
        ?_ rfl).imp fun a n hn => ?_
      · rintro op m rfl hok
        exact hok
      · obtain ⟨⟨-, hrow⟩, hsk⟩ := hn
        rw [hsk]
        exact hrow
  step _ _ _ _ hop hI := hI.execMem hop
  idle _ _ _ hI := ⟨rfl, hI.key, hI.genuine, hI.booking⟩
  rest _ _ _ hI := hI.kept

/-- The tables of a host, over all its processes. -/
theorem sound_memIntegrity [DecidableEq ι] :
    Sound (memHost (ι := ι) E pem) (fun b => b.envPem.getD "" = "" ∧ b.propertyId = P)
      (fun d => Integrity P d.db) (fun _ d m => d.db = m.app.db ∧ Integrity P m.app.db)
      (fun _ m n => Others Extends (Integrity P) m.app.db n.app.db)
      (fun _ => OnApi (AllowedOnStore (StmtSound P))) (fun _ _ _ _ => True) where
  refl _ m := Others.refl Extends.refl m.app.db
  trans _ m n u := Others.trans (K := Extends) (fun _ _ _ => Extends.trans) m.app.db n.app.db u.app.db
  effect _ op _ m hop _ := ⟨(since_execMem op m).tables, integrity_execMem op m hop⟩
  disk b d _ hd := by
    show Integrity P (hostBoot E pem b d).1.db
    rw [hostBoot_db]
    exact hd
  start b d s hb hd hs := by
    obtain ⟨-, rfl⟩ := hb
    obtain ⟨sk, rfl, -⟩ := memBoot_started hs
    refine ⟨⟨hostBoot_db b d, hd⟩, fun i => ?_⟩
    exact (storeRules_integrity.request_withLocks (Others.trans (fun _ _ _ => Extends.trans))
      (fun _ _ => trivial) (b.req i) hd _).imp fun _ _ _ => trivial
  step _ op _ m hop hI := ⟨rfl, integrity_execMem op m hop hI.2⟩
  idle _ _ _ hI := ⟨rfl, hI.2⟩
  rest _ d m hI := by rw [hI.1]; exact hI.2

section Runs

variable [DecidableEq ι] {h₀ : List (MemHostEntry ι)} {m t : MemMachine ι}

/-- **The keys of every moment**, whatever processes there were. -/
theorem memTables_visited (hpem : pem.Correct) (hm : MemHostRun E pem h₀ m) (hstarts : StartsFor P h₀)
    (hv : History.Visits h₀ m t) :
    t.Good (memHost E pem) (TablesKept E pem) (fun _ d m => TablesServed E pem d m.app)
      (fun _ m n => Extends m.app.db n.app.db ∧ n.app.propertySk = m.app.propertySk)
      (fun _ op m => OnApi (AllowedOnStore (KeyOk E m.app.propertySk)) op m)
      (fun _ _ a m => Recorded E m.app.propertySk a m.app) := by
  have hempty : TablesKept E pem ⟨none, .empty⟩ :=
    ⟨fun _ _ hf => (by cases hf), fun _ _ => Table.notMem_empty _, noDoubleBooking_empty⟩
  rcases hv with rfl | ⟨e, he, rfl⟩
  · exact Lives.sound (sound_memTables (P := P) hpem) hempty hm hstarts
  · obtain ⟨l, h', rfl⟩ := List.append_of_mem he
    exact Lives.sound (sound_memTables (P := P) hpem) hempty hm.of_append.1 fun e' he' =>
      hstarts e' (List.mem_append_right l (List.mem_cons_of_mem _ he'))

/-- A key file that is there stays as it is. -/
theorem keyFile_memPerform {f : KeyFile} (hf : m.disk.keyFile = some f) (e : Event ι (Start ι)) :
    (Machine.perform (memHost E pem) e m).2.disk.keyFile = some f := by
  cases e with
  | start b => exact hostBoot_keyFile hf
  | crash => exact hf
  | turn i =>
    obtain ⟨disk, process⟩ := m
    cases process with
    | none => exact hf
    | some p => exact hf

/-- The tables only extend. -/
theorem extends_memPerform (e : Event ι (Start ι)) (m : MemMachine ι)
    (hsaved : ∀ p, m.process = some p → m.disk.db = p.threads.shared.app.db) :
    Extends m.disk.db (Machine.perform (memHost E pem) e m).2.disk.db := by
  cases e with
  | start b =>
    have hdb : (Machine.perform (memHost E pem) (.start b) m).2.disk.db = m.disk.db := hostBoot_db b m.disk
    rw [hdb]
    exact Extends.refl m.disk.db
  | crash => exact Extends.refl m.disk.db
  | turn i =>
    obtain ⟨disk, process⟩ := m
    cases process with
    | none => exact Extends.refl disk.db
    | some p =>
      rw [hsaved p rfl]
      exact (since_turn p.threads i).tables

/-- A key that was handed out has its row in every later process. -/
theorem hasRow_memVisited (hpem : pem.Correct) (hm : MemHostRun E pem h₀ m) (hstarts : StartsFor P h₀)
    (hv : History.Visits h₀ m t) {p q : MemProcess ι} (hp : t.process = some p) (hq : m.process = some q)
    {i : ι} {a : Answer} {key : IssuedKey} (ha : (p.threads.prog i).outcome? = some (.ok a))
    (hkey : a.handedOut? = some key) : HasRow E q.threads.shared.app.propertySk key q.threads.shared.app.db := by
  have ht := memTables_visited hpem hm hstarts hv
  have hthen := ht.memory p hp
  have hnow := (memTables_visited hpem hm hstarts (.inl rfl)).memory q hq
  -- both processes loaded their key from the same file
  have hsk : q.threads.shared.app.propertySk = p.threads.shared.app.propertySk := by
    obtain ⟨f, hf, hload⟩ := hthen.key
    obtain ⟨g, hg, hload'⟩ := hnow.key
    have hkept : m.disk.keyFile = some f :=
      hm.since_visits (P := fun m => m.disk.keyFile = some f) hv hf fun m e hf => keyFile_memPerform hf e
    obtain rfl : f = g := Option.some.inj (hkept.symm.trans hg)
    exact Except.ok.inj (hload'.symm.trans hload)
  have hextends : Extends t.disk.db m.disk.db := by
    refine hm.since_visits_entries (P := fun m => Extends t.disk.db m.disk.db) hv (Extends.refl _)
      fun e he hext => hext.trans (extends_memPerform e.request e.before fun p hp => ?_)
    exact ((memTables_visited hpem hm hstarts (.inr ⟨e, he, rfl⟩)).memory p hp).saved
  have hrow : HasRow E p.threads.shared.app.propertySk key p.threads.shared.app.db := by
    have hprog := ht.progs p hp i
    rw [Prog.outcome?_ok ha] at hprog
    exact hprog p.threads.shared ⟨Extends.refl _, rfl⟩ key hkey
  rw [← hthen.saved] at hrow
  rw [hsk, ← hnow.saved]
  exact hrow.extends hextends

/-! ## A guest at the door -/

variable {h h₁ : List (MemTurn ι)} {s t' : MemServing ι} {i q u : ι} {roomId ref now : Int} {key : IssuedKey}

/-- What a running process has, and that it has not issued a challenge that
is still to be asked for. -/
theorem served_process (hm : MemHostRun E pem h₀ m) {p : MemProcess ι} (hp : m.process = some p) :
    Served E p.threads.shared.app.propertySk p.boot.propertyId p.boot.req p.threads ∧
    (NoncesDistinct p.boot.req → ∀ q ref, drawnNonce? (p.boot.req q) = some (p.boot.req q).2.nonce →
      NotIssued E p.boot.req p.threads q ref) := by
  obtain ⟨e, -, -, s, l, hs, hrun⟩ := hm.process hp
  obtain ⟨sk, rfl, -⟩ := memBoot_started hs
  have hstart : Served E sk p.boot.propertyId p.boot.req (Serving.objects (.restart E p.boot sk e.before.disk.db)) :=
    served_start rfl rfl rfl
  have hserved := hstart.run hrun
  refine ⟨hserved.key.symm ▸ hserved, fun hnonces q ref hq => ?_⟩
  exact notIssued_run hnonces hq hstart (.unseen ⟨rfl, rfl⟩) hrun

/-- **A guest is let in after a crash.** Say that a process handed out a
key, and that after any number of crashes and starts another process runs.
A guest who asks this process for a challenge, and presents the key, is let
in by it under the same conditions, whatever else it serves. -/
theorem guest_is_let_in_after_crash (hE : E.ed.Correct) (hpem : pem.Correct) (hm : MemHostRun E pem h₀ m)
    (hstarts : StartsFor P h₀) (hv : History.Visits h₀ m t) {p p' : MemProcess ι}
    (hp' : t.process = some p') (hp : m.process = some p) {a : Answer}
    (ha : (p'.threads.prog i).outcome? = some (.ok a)) (hkey : a.handedOut? = some key)
    (hnonces : NoncesDistinct p.boot.req)
    (hasks : AsksForChallenge E p.threads.shared.app.propertySk P p.boot.req p.threads q roomId ref)
    (ht : Schedule (execMem E) p.threads h₁ t') (hroom : ForRoomAt key roomId now)
    (hpresents : Presents E p.threads.shared.app.propertySk P p.boot.req t' q u roomId key now)
    (hs : Schedule (execMem E) t' h s) (hquiet : Undisturbed p.boot.req s q u roomId key) :
    (∀ o, (s.prog u).outcome? = some o → o = .ok (.decision (.unlock (py key.keyId)))) ∧
      (7 ≤ (h.map Entry.request).count u →
        (s.prog u).outcome? = some (.ok (.decision (.unlock (py key.keyId))))) := by
  have hrow := hasRow_memVisited hpem hm hstarts hv hp' hp ha hkey
  have hintegrity : Integrity P p.threads.shared.app.db :=
    ((Lives.sound sound_memIntegrity integrity_empty hm hstarts).memory p hp).2
  obtain ⟨c, fresh, hissue, hproperty, hin⟩ := issued_of_hasRow hrow hintegrity hroom
  have hboot : p.boot.propertyId = P := by
    obtain ⟨e, he, hstart, -⟩ := hm.process hp
    exact (hstarts e he p.boot hstart).2
  obtain ⟨hserved, hunseen⟩ := served_process hm hp
  rw [hboot] at hserved
  have hdrawn : drawnNonce? (p.boot.req q) = some (p.boot.req q).2.nonce := by rw [drawnNonce?, hasks.asks]
  exact hpresents.let_in hE hnonces hserved (hunseen hnonces q ref hdrawn) hasks ht hissue hproperty
    (hin.extends (since_run ht ht.visits_start).tables) hroom hs hquiet

end Runs

/-- What happens to a new host. -/
abbrev runMemHost (events : List (Event (Fin 7) (Start (Fin 7)))) :
    List (MemHostEntry (Fin 7)) × MemMachine (Fin 7) :=
  runAll (Machine.perform (memHost Env.sample Pem.sample)) ⟨⟨none, .empty⟩, none⟩ events

/-- The host until another process has made a lock for the guest. -/
abbrev lockedEvents : List (Event (Fin 7) (Start (Fin 7))) :=
  checkedInEvents ++ ([.crash, .start (sampleStart sampleFresh.deviceSk guestRequests)]
    ++ [3, 3, 3, 3].map .turn)

/-- The turns at the door, after these events. -/
abbrev servedAtDoor (p : MemProcess (Fin 7)) : List (MemTurn (Fin 7)) × MemServing (Fin 7) :=
  runAll (fun i s => ((), s.turn (execMem Env.sample) i)) (p.threads.turn (execMem Env.sample) 3) turnsAtDoor

/-- The process after the crash, and what it makes of the turns at the door. -/
theorem lockedProcess : ∃ p, (runMemHost lockedEvents).2.process = some p ∧ p.boot.req = guestRequests ∧
    p.threads.prog 3 = challengeAt 0 (guestRequests 3).2 ∧
    p.threads.shared.registry.get? 101 = some 0 ∧
    (∀ j : Fin 7, j ≠ 3 → p.threads.prog j = withLocks (fun _ => 0)
      (requestProgram Env.sample "HILTON-DEMO-001" p.threads.shared.app.propertySk (guestRequests j))) ∧
    (servedAtDoor p).2.shared.app.db.revocationList = [] ∧
    ∀ j : Fin 7, j ≠ 4 → ((servedAtDoor p).2.prog j).outcome?.any positive = false := by
  refine ⟨_, rfl, rfl, rfl, by decide +kernel, fun j hj => ?_, by decide +kernel, by decide +kernel⟩
  match j with
  | 0 | 1 | 2 | 4 | 5 | 6 => rfl
  | 3 => exact absurd rfl hj

/-- The key of the check-in opens the door after the crash. -/
theorem guest_is_let_in_after_crash_sample :
    ∃ p, (runMemHost lockedEvents).2.process = some p ∧
      ((servedAtDoor p).2.prog 4).outcome? = some (.ok (.decision (.unlock (py "k1")))) := by
  have hm : MemHostRun Env.sample Pem.sample _ (runMemHost lockedEvents).2 := History.of_runAll _ _ _
  have hv : History.Visits (runMemHost lockedEvents).1 _ (runMemHost checkedInEvents).2 :=
    History.visits_runAll _ _
  have hstarts : StartsFor "HILTON-DEMO-001" (runMemHost lockedEvents).1 := by
    intro e he b hb
    have hin := hb ▸ History.request_mem he
    simp only [List.cons_append, List.nil_append, List.mem_cons, List.mem_append, Event.start.injEq,
      List.mem_map, reduceCtorEq, and_false, exists_false, or_false, false_or, List.not_mem_nil] at hin
    obtain rfl | rfl := hin <;> exact ⟨rfl, rfl⟩
  obtain ⟨key, hanswer, htoken, hroom, hid, hsign⟩ := sampleKey_forRoom
  obtain ⟨p', hp', hout⟩ : ∃ p', (runMemHost checkedInEvents).2.process = some p' ∧
      (p'.threads.prog 2).outcome? = some sampleCheckin.answer := ⟨_, rfl, rfl⟩
  obtain ⟨p, hp, hreq, hhas, hregistered, hunserved, hnot, halone⟩ := lockedProcess
  rw [hanswer] at hout
  have ht : Schedule (execMem Env.sample) p.threads _ (p.threads.turn (execMem Env.sample) 3) :=
    History.nil.cons 3
  have hs : Schedule (execMem Env.sample) (p.threads.turn (execMem Env.sample) 3) (servedAtDoor p).1
      (servedAtDoor p).2 := History.of_runAll _ _ _
  have hasks : AsksForChallenge Env.sample p.threads.shared.app.propertySk "HILTON-DEMO-001" p.boot.req p.threads
      3 101 0 := by
    rw [hreq]
    refine ⟨rfl, ⟨hregistered, fun j => ?_⟩, .inr hhas⟩
    by_cases hj : j = 3
    · rw [hj, hhas]
      exact ⟨trivial, fun _ _ => trivial⟩
    · rw [hunserved j hj]
      exact withLocks_leavesRoom ..
  have hpresents : Presents Env.sample p.threads.shared.app.propertySk "HILTON-DEMO-001" p.boot.req
      (p.threads.turn (execMem Env.sample) 3) 3 4 101 key 1500 := by
    rw [hreq]
    refine ⟨?_, (Threads.prog_turn_of_ne (by decide) _).trans (hunserved 4 (by decide)),
      ⟨sampleUnlock, _, rfl, htoken, rfl, hsign, rfl, rfl⟩, by decide⟩
    rw [Threads.prog_turn_self, hhas]
    exact Option.some_ne_none _
  have hquiet : Undisturbed p.boot.req (servedAtDoor p).2 3 4 101 key := by
    rw [hreq]
    refine ⟨by rw [hnot]; exact List.not_mem_nil, fun j hj _ hadmitted => ?_, fun j _ => guestRequests_clocks j⟩
    have hany := (Option.any_eq_true _ _).mpr hadmitted
    rw [halone j hj] at hany
    cases hany
  have hletin := guest_is_let_in_after_crash Env.sample_correct Pem.sample_correct hm hstarts hv hp' hp hout rfl
    (hreq ▸ guestRequests_noncesDistinct) hasks ht hroom hpresents hs hquiet
  refine ⟨p, hp, ?_⟩
  rw [← hid]
  refine hletin.2 ?_
  rw [map_request_runAll]
  decide

end StayKey.Service
