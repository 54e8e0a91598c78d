/-
StayKey.Service.ServedLocks — the lock objects of a process that serves.

A request deals with lock objects of its own door only: it issues the
challenge it draws at one, and consumes the challenge it presents at one,
and this is the last thing it does (`Own`, `own_withLocks`). It makes a lock
of what it has read, and delivers a list that it has read. So in every run
the lock objects are set up right, and their snapshots are lists that were
read (`Served`).
-/
import StayKey.Program.Restart
import StayKey.Service.LockObjectsTheorems
import StayKey.Service.Registry

namespace StayKey.Service

open StayKey.Codec StayKey.Door StayKey.Store StayKey.Program

variable {ι : Type} {E : Env} {sk : PrivateKey} {propertyId : String}

/-! ## What requests do at the challenge stores -/

/-- The challenge a request issues: where, when and which. -/
def drawnAt? (r : Request × Draw) : Option (Verifier Int × Int × Bytes) :=
  match r.1 with
  | .lockChallenge roomId => some (.lock roomId, nowOr none r.2.clock, r.2.nonce)
  | .roomChallenge _ => some (.connected, nowOr none r.2.clock, r.2.nonce)
  | _ => none

theorem drawnNonce?_of_drawnAt? {r : Request × Draw} {v : Verifier Int} {now : Int} {c : Bytes}
    (h : drawnAt? r = some (v, now, c)) : drawnNonce? r = some c := by
  obtain ⟨req, draw⟩ := r
  cases req <;> cases h <;> rfl

/-- A request issues the challenge it draws, and consumes the one it
presents, and this is the last thing it does. -/
def Own (r : Request × Draw) : (op : ApiStmt) → (op.Res → ApiCall Answer) → Prop
  | .issue v now c, k => drawnAt? r = some (v, now, c) ∧ ∀ challenge, ∃ a, k challenge = .ret a
  | .consume v c _, k => presentedAt? r.1 = some (v, c) ∧ ∃ a, k () = .ret a ∧ positive (.ok a) = true
  | _, _ => True

variable {r : Request × Draw}

theorem own_of_keeps (op : ApiStmt) (k : op.Res → ApiCall Answer) (h : op.KeepsChallenges) : Own r op k := by
  cases op with
  | issue | consume => exact h.elim
  | _ => trivial

/-- The challenge and possession steps, and the answer made of them. -/
theorem own_presentCall {v : Verifier Int} {c : Bytes} (hr : presentedAt? r.1 = some (v, c))
    {f : Decision → Answer} (hf : ∀ d, positive (.ok (f d)) = d.unlocked) (keyId : PyStr)
    (devicePub : Json) (response : Bytes) (now : Int) :
    (presentCall E v keyId devicePub c response now >>= fun d => .ret (f d)).Nodes (Own r) := by
  refine ⟨trivial, fun status => ?_⟩
  cases status with
  | replayed | unknown => trivial
  | ok =>
    simp only [Prog.bind]
    rcases verifyDeviceResponse E devicePub c response with e | _ | _
    · trivial
    · trivial
    · exact ⟨⟨hr, _, rfl, hf _⟩, fun _ => trivial⟩

/-- **What a request does at the challenge stores.** -/
theorem requestProgram_own (r : Request × Draw) : (requestProgram E propertyId sk r).Nodes (Own r) := by
  have hstore {r : Request × Draw} {α : Type} (p : Call α) {f : α → ApiCall Answer}
      (hf : ∀ a, (f a).Nodes (Own r)) : (onStore p >>= f).Nodes (Own r) :=
    (onStore_only (P := ApiStmt.KeepsChallenges) (fun _ => trivial) p).nodes_bind own_of_keeps hf
  obtain ⟨req, draw⟩ := r
  cases req with
  | createGuest | createRoom | reserve | checkin | refresh => exact hstore _ fun _ => trivial
  | checkout stayId =>
    exact hstore _ fun r => (syncRoomCall_keeps r.2).nodes_bind own_of_keeps fun _ => trivial
  | roomChange stayId body =>
    exact hstore _ fun r => (syncRoomCall_keeps r.1).nodes_bind own_of_keeps fun _ =>
      (syncLockCall_keeps r.2.1).nodes_bind own_of_keeps fun _ => trivial
  | revocations => exact ⟨trivial, fun _ => trivial⟩
  | lockChallenge roomId =>
    exact ⟨trivial, fun _ => ⟨⟨rfl, fun challenge => ⟨_, rfl⟩⟩, fun _ => trivial⟩⟩
  | roomChallenge => exact ⟨⟨rfl, fun challenge => ⟨_, rfl⟩⟩, fun _ => trivial⟩
  | lockUnlock roomId body =>
    refine (syncLockCall_keeps roomId).nodes_bind own_of_keeps fun _ => ⟨trivial, fun _ => ?_⟩
    cases hp : presented body.challengeB64 body.responseB64 with
    | error e => trivial
    | ok p =>
      have hr : presentedAt? (.lockUnlock roomId body) = some (.lock roomId, p.1) := by
        rw [presentedAt?, hp]
      refine ⟨trivial, fun result => ?_⟩
      cases result with
      | deny d => trivial
      | pass payload =>
        exact own_presentCall (r := (.lockUnlock roomId body, draw)) hr (fun _ => rfl) _ _ p.2 _
  | roomControl roomId body =>
    simp only [requestProgram, roomControlCall]
    cases hp : presented body.challengeB64 body.responseB64 with
    | error e => trivial
    | ok p =>
      have hr : presentedAt? (.roomControl roomId body) = some (.connected, p.1) := by
        rw [presentedAt?, hp]
      simp only [authorizeCall]
      split
      · trivial
      · refine ⟨trivial, fun revoked => ⟨trivial, fun result => ?_⟩⟩
        cases result with
        | deny d => trivial
        | pass payload =>
          have hactive (active : Bool) : ((if active then
                presentCall E .connected (payloadKeyId E payload) (payloadDevicePub payload) p.1 p.2
                  (nowOr body.now draw.clock)
              else return .deny .notActiveStay (payloadKeyId E payload)) >>= fun d =>
              .ret (.control d body.command)).Nodes (Own (.roomControl roomId body, draw)) := by
            cases active with
            | false => trivial
            | true => exact own_presentCall hr (fun _ => rfl) _ _ p.2 _
          have hrest := (isActiveStayCall_only (E := E) (P := ApiStmt.KeepsChallenges) (fun _ => trivial)
            (fun _ => trivial) payload roomId).nodes_bind own_of_keeps hactive
          rw [← Prog.bind_assoc] at hrest
          exact hrest

/-! ## At the lock objects -/

/-- What follows when a challenge is issued or consumed. -/
def EndsOwn : (op : MemStmt) → (op.Res → MemCall Answer) → Prop
  | .api (.issue ..), k => ∀ challenge, ∃ a, k challenge = .ret a
  | .api (.consume ..), k => ∃ a, k () = .ret a ∧ positive (.ok a) = true
  | _, _ => True

theorem nodes_withLocks {p : ApiCall Answer} (hp : p.Nodes (Own r)) (held : Int → Int) :
    (withLocks held p).Nodes EndsOwn := by
  induction p generalizing held with
  | ret | throw => trivial
  | call op k ih =>
    by_cases hop : op.AsksNoLock
    · rw [withLocks_call hop]
      refine ⟨?_, fun res => ih _ (hp.2 _) held⟩
      cases op with
      | issue v now c =>
        intro challenge
        obtain ⟨a, ha⟩ := hp.1.2 challenge
        exact ⟨a, congrArg (withLocks held) ha⟩
      | consume v c now =>
        obtain ⟨-, a, ha, hpositive⟩ := hp.1
        exact ⟨a, congrArg (withLocks held) ha, hpositive⟩
      | _ => trivial
    · cases op with
      | lockFor roomId =>
        rw [withLocks_lockFor]
        have hasks : (lockForCall roomId).Only fun op => ∀ k, EndsOwn op k := by
          refine ⟨fun _ => trivial, fun found => ?_⟩
          cases found with
          | some ref => trivial
          | none => exact ⟨fun _ => trivial, fun _ => ⟨fun _ => trivial, fun _ => ⟨fun _ => trivial, fun _ => trivial⟩⟩⟩
        exact hasks.nodes_bind (fun op k hop => hop k) fun ref => ih () (hp.2 ()) _
      | _ => exact absurd trivial hop

/-- The door at which a request issues or consumes a challenge. -/
def doorOf? : Request → Option Int
  | .lockChallenge roomId | .lockUnlock roomId _ => some roomId
  | _ => none

theorem doorOf?_of_drawnAt? {roomId now : Int} {c : Bytes} (h : drawnAt? r = some (.lock roomId, now, c)) :
    doorOf? r.1 = some roomId := by
  obtain ⟨req, draw⟩ := r
  cases req with
  | lockChallenge => cases h; rfl
  | _ => cases h

theorem doorOf?_of_presentedAt? {req : Request} {roomId : Int} {c : Bytes}
    (h : presentedAt? req = some (.lock roomId, c)) : doorOf? req = some roomId := by
  cases req with
  | lockUnlock room body =>
    cases hp : presented body.challengeB64 body.responseB64 with
    | error e =>
      rw [presentedAt?, hp] at h
      cases h
    | ok p =>
      rw [presentedAt?, hp] at h
      cases h
      rfl
  | roomControl room body =>
    cases hp : presented body.challengeB64 body.responseB64 with
    | error e | ok p =>
      rw [presentedAt?, hp] at h
      cases h
  | _ => cases h

/-- A request issues and consumes challenges at locks of its door, and makes
a lock of what it has read. -/
def OwnAt (r : Request × Draw) : MemStmt → Memory → Prop
  | .api (.issue (.lock ref) now c), m =>
    ∃ roomId, LockAt m.app ref roomId ∧ drawnAt? r = some (.lock roomId, now, c)
  | .api (.consume (.lock ref) c _), m =>
    ∃ roomId, LockAt m.app ref roomId ∧ presentedAt? r.1 = some (.lock roomId, c)
  | .register roomId room revoked, m => revoked <+: m.app.db.revocationList ∧
    ∀ row, room = some row → row ∈ m.app.db.rooms ∧ row.roomId = roomId
  | _, _ => True

/-- `lock_for` makes a lock of what it has read, and gives one of the room. -/
theorem lockForCall_own (roomId : Int) {m : Memory} (hm : Filed m) :
    (lockForCall roomId).Under (execMem E) Since (OwnAt r) (fun ref n => LockAt n.app ref roomId ∧ Since m n)
      m := by
  refine Prog.under_call (fun _ _ => trivial) fun n found u hn he => ?_
  cases he
  cases hfound : n.registry.get? roomId with
  | some ref =>
    exact fun u hu => ⟨hu.locks ref roomId (hn.filed hm roomId ref hfound), hn.trans _ _ _ hu⟩
  | none =>
    refine Prog.under_call (fun _ _ => trivial) fun u room u' hu he => ?_
    cases he
    refine Prog.under_call (fun _ _ => trivial) fun v revoked v' hv he => ?_
    cases he
    refine Prog.under_call (fun w hw => ⟨hw.reads, fun row hrow => ?_⟩) fun w ref w' hw he x hx => ?_
    · obtain ⟨hin, hid⟩ := Table.find?_eq_some_iff.mp hrow
      exact ⟨hw.tables.rooms row (hv.tables.rooms row hin), hid⟩
    · have hw' := since_execMem (E := E) (.register roomId (u.app.db.getRoom roomId) v.app.db.revocationList) w
      cases he
      refine ⟨hx.locks _ _ ⟨_, Dict.get?_set_self .., rfl⟩, ?_⟩
      exact hn.trans _ _ _ (hu.trans _ _ _ (hv.trans _ _ _ (hw.trans _ _ _ (hw'.trans _ _ _ hx))))

/-- **What a request does at the lock objects**, whatever others do. -/
theorem own_withLocks {p : ApiCall Answer} (hp : p.Nodes (Own r)) {held : Int → Int} {m : Memory}
    (hm : Filed m) (hheld : ∀ roomId, doorOf? r.1 = some roomId →
      LockAt m.app (held roomId) roomId ∨ ∃ k, p = .call (.lockFor roomId) k) :
    (withLocks held p).Under (execMem E) Since (OwnAt r) (fun _ _ => True) m := by
  induction p generalizing held m with
  | ret a => exact fun _ _ => trivial
  | throw e => trivial
  | call op k ih =>
    by_cases hop : op.AsksNoLock
    · rw [withLocks_call hop]
      intro n hn
      have hlock (roomId : Int) (hdoor : doorOf? r.1 = some roomId) : LockAt n.app (held roomId) roomId := by
        obtain hlock | ⟨k', hk⟩ := hheld roomId hdoor
        · exact hn.locks _ _ hlock
        · cases hk
          exact hop.elim
      refine ⟨?_, fun res u he => ?_⟩
      · cases op with
        | issue v now c =>
          cases v with
          | lock roomId => exact ⟨roomId, hlock roomId (doorOf?_of_drawnAt? hp.1.1), hp.1.1⟩
          | connected => trivial
        | consume v c now =>
          cases v with
          | lock roomId => exact ⟨roomId, hlock roomId (doorOf?_of_presentedAt? hp.1.1), hp.1.1⟩
          | connected => trivial
        | _ => trivial
      · have hu := since_execMem (E := E) (.api (op.atObjects held)) n
        rw [he] at hu
        exact ih _ (hp.2 _) (hu.filed (hn.filed hm)) fun roomId hdoor =>
          .inl (hu.locks _ _ (hlock roomId hdoor))
    · cases op with
      | lockFor roomId =>
        rw [withLocks_lockFor]
        refine (lockForCall_own roomId hm).bind Since.refl fun ref n hn => ?_
        refine ih () (hp.2 ()) (hn.2.filed hm) fun room hdoor => .inl ?_
        by_cases hroom : room = roomId
        · subst hroom
          rw [Function.update_self]
          exact hn.1
        · rw [Function.update_of_ne hroom]
          obtain hlock | ⟨k', hk⟩ := hheld room hdoor
          · exact hn.2.locks _ _ hlock
          · cases hk
            exact absurd rfl hroom
      | _ => exact absurd trivial hop

/-- The requests at a door ask for its lock first. -/
theorem requestProgram_asks {roomId : Int} (h : doorOf? r.1 = some roomId) :
    ∃ k, requestProgram E propertyId sk r = .call (.lockFor roomId) k := by
  obtain ⟨req, draw⟩ := r
  cases req <;> cases h <;> exact ⟨_, rfl⟩

/-! ## A process that serves -/

section Turns

variable [DecidableEq ι] {req : ι → Request × Draw} {s t : MemServing ι} {i q u : ι} {roomId ref : Int}
  {h : List (MemTurn ι)}

variable (E propertyId sk req s) in
/-- What a process has while it serves its requests. -/
structure Served : Prop where
  property : s.shared.app.propertyId = propertyId
  key : s.shared.app.propertySk = sk
  objects : Objects E s.shared.app
  filed : Filed s.shared
  snapshots : SnapshotsRead s.shared.app
  reads : ∀ i, (s.prog i).Under (execMem E) Since (OnApi WasRead) (fun _ _ => True) s.shared
  owns : ∀ i, (s.prog i).Under (execMem E) Since (OwnAt (req i)) (fun _ _ => True) s.shared
  ends : ∀ i, (s.prog i).Nodes EndsOwn

theorem wasRead_atObjects (op : ApiStmt) (held : Int → Int) (s t : AppState) (hdb : t.db = s.db)
    (h : WasRead op t) : WasRead (op.atObjects held) s := by
  cases op with
  | syncRevocations =>
    rw [WasRead, hdb] at h
    exact h
  | _ => trivial

/-- A request delivers what it has read. -/
theorem reads_withLocks (r : Request × Draw) (held : Int → Int) (m : Memory) :
    (withLocks held (requestProgram E propertyId sk r)).Under (execMem E) Since (OnApi WasRead)
      (fun _ _ => True) m := by
  have hread : (requestProgram E propertyId sk r).Under (execApi E) DbGrows WasRead Answered m.app :=
    requestProgram_under r m.app
  have hdb := under_withLocks (Q := fun _ _ => True) Grows.refl Grows.trans wasRead_atObjects
    (fun _ _ => trivial) (fun _ => trivial) rfl held (hread.imp fun _ _ _ => trivial)
  exact (hdb.given (J := fun _ => True) (fun _ _ h => h.reads) (fun _ _ _ _ => trivial)
    (fun _ _ _ => trivial) (fun _ _ _ h => h) trivial).imp fun _ _ _ => trivial

omit [DecidableEq ι] in
/-- A process starts with no lock. -/
theorem served_start {s₀ : AppState} (hproperty : s₀.propertyId = propertyId) (hsk : s₀.propertySk = sk)
    (hlocks : s₀.locks = .empty) : Served E sk propertyId req
      (Serving.objects ⟨fun i => requestProgram E propertyId sk (req i), s₀⟩) where
  property := hproperty
  key := hsk
  objects ref lock hget := by
    rw [show (Serving.objects _).shared.app.locks = s₀.locks from rfl, hlocks] at hget
    cases hget
  filed roomId ref hget := by cases hget
  snapshots ref lock hget := by
    rw [show (Serving.objects _).shared.app.locks = s₀.locks from rfl, hlocks] at hget
    cases hget
  reads i := reads_withLocks (req i) _ _
  owns i := own_withLocks (requestProgram_own (req i)) (fun _ _ hget => by cases hget) fun _ hdoor =>
    .inr (requestProgram_asks hdoor)
  ends i := nodes_withLocks (requestProgram_own (req i)) _

theorem objects_execMem {r : Request × Draw} (op : MemStmt) (m : Memory) (hop : OwnAt r op m)
    (h : Objects E m.app) : Objects E (execMem E op m).2.app := by
  cases op with
  | api op => exact objects_execApi op m.app h
  | registered => exact h
  | register roomId room revoked =>
    refine h.setLock ⟨rfl, rfl, ?_⟩
    cases room with
    | none => exact .inl rfl
    | some row =>
      obtain ⟨hin, hid⟩ := hop.2 row rfl
      exact .inr ⟨row, hin, hid, rfl⟩

theorem snapshotsRead_execMem {r : Request × Draw} (op : MemStmt) (m : Memory) (hread : OnApi WasRead op m)
    (hown : OwnAt r op m) (h : SnapshotsRead m.app) : SnapshotsRead (execMem E op m).2.app := by
  cases op with
  | api op => exact snapshotsRead_execApi op m.app hread h
  | registered => exact h
  | register roomId room revoked => exact h.setLock ⟨revoked, hown.1, rfl⟩

theorem since_turn (s : MemServing ι) (i : ι) : Since s.shared (s.turn (execMem E) i).shared :=
  Prog.next_preserves (execMem E) (P := fun _ => True) (I := fun m => Since s.shared m)
    (fun op m _ hm => hm.trans _ _ _ (since_execMem op m)) (Prog.only_true _) (.refl _)

theorem since_run {s₀ : MemServing ι} (hs : Schedule (execMem E) s₀ h s) (hv : History.Visits h s t) :
    Since t.shared s.shared :=
  hs.since_visits (P := fun s => Since t.shared s.shared) hv (.refl _)
    fun s i ht => ht.trans _ _ _ (since_turn s i)

/-- **A turn** keeps what a process has. -/
theorem Served.turn (hs : Served E sk propertyId req s) (i : ι) :
    Served E sk propertyId req (s.turn (execMem E) i) := by
  have hsince := since_turn (E := E) s i
  have hshared : SameInstall s.shared.app (s.turn (execMem E) i).shared.app ∧
      Objects E (s.turn (execMem E) i).shared.app ∧ SnapshotsRead (s.turn (execMem E) i).shared.app := by
    have hreads := hs.reads i
    have howns := hs.owns i
    cases hp : s.prog i with
    | ret a =>
      rw [Threads.turn_of_ended (o := .ok a) (by rw [hp]; rfl)]
      exact ⟨.refl _, hs.objects, hs.snapshots⟩
    | throw e =>
      rw [Threads.turn_of_ended (o := .error e) (by rw [hp]; rfl)]
      exact ⟨.refl _, hs.objects, hs.snapshots⟩
    | call op k =>
      rw [hp] at hreads howns
      have hread := (hreads s.shared (.refl _)).1
      have hown := (howns s.shared (.refl _)).1
      rw [Threads.shared_turn hp]
      exact ⟨sameInstall_execMem op s.shared, objects_execMem op s.shared hown hs.objects,
        snapshotsRead_execMem op s.shared hread hown hs.snapshots⟩
  refine ⟨hshared.1.propertyId.trans hs.property, hshared.1.propertySk.trans hs.key, hshared.2.1,
    hsince.filed hs.filed, hshared.2.2, fun j => ?_, fun j => ?_, fun j => ?_⟩
  · exact Schedule.under_turn (Q := fun _ _ _ => True) Since.refl Since.trans hsince (hs.reads j)
  · exact Schedule.under_turn (Q := fun _ _ _ => True) Since.refl Since.trans hsince (hs.owns j)
  · rcases Threads.prog_turn (execMem E) i j s with hj | ⟨-, hj⟩
    · rw [hj]
      exact hs.ends j
    · rw [hj]
      exact (hs.ends j).next s.shared

theorem Served.run (ht : Served E sk propertyId req t) (hs : Schedule (execMem E) t h s) :
    Served E sk propertyId req s :=
  hs.invariant (I := Served E sk propertyId req) ht (fun _ i hs (_ : True) => hs.turn i) fun _ _ => trivial

end Turns

end StayKey.Service
