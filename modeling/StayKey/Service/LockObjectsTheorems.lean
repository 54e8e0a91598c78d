/-
StayKey.Service.LockObjectsTheorems — what is known of the requests, taken
over to their finer programs.

At each statement a request sees the objects it holds: `AppState.viewAt` is
the state of `Service.Concurrent` in which the object is the lock of the
room. So what a program of that module does at such states, whatever others
do in between, its finer program does (`under_withLocks`, `ends_withLocks`).
-/
import StayKey.Program.Ends
import StayKey.Service.LockObjects
import StayKey.Service.StorePart

namespace StayKey.Service

open StayKey.Codec StayKey.Door StayKey.Store StayKey.Program

variable {E : Env} {α : Type}

/-! ## What a request sees -/

variable (E) in
/-- The state in which the object is the lock of the room. -/
def AppState.viewAt (s : AppState) (roomId ref : Int) : AppState := s.setLock roomId (s.lockFor E ref).1

/-- The statement deals with no lock, or with that of the room. -/
def ApiStmt.OfRoom (roomId : Int) : ApiStmt → Prop
  | .lockFor r | .syncRevocations r _ | .lockStatic r _ _ => r = roomId
  | .issue v _ _ | .check v _ _ | .consume v _ _ => v = .lock roomId ∨ v = .connected
  | .store _ | .connectedStatic .. | .activeAssignment _ | .stayByText _ => True

theorem ApiStmt.ofRoom_some (op : ApiStmt) : ∃ roomId, op.OfRoom roomId := by
  cases op with
  | lockFor roomId | syncRevocations roomId | lockStatic roomId => exact ⟨roomId, rfl⟩
  | issue v | check v | consume v =>
    cases v with
    | lock roomId => exact ⟨roomId, .inl rfl⟩
    | connected => exact ⟨0, .inr rfl⟩
  | store | connectedStatic | activeAssignment | stayByText => exact ⟨0, trivial⟩

/-- An unlock request deals with one room. -/
theorem lockUnlockCall_ofRoom {roomId : Int} (body : UnlockIn) (clock : Int) :
    (lockUnlockCall E roomId body clock).Only (ApiStmt.OfRoom roomId) := by
  refine ⟨rfl, fun _ => ⟨trivial, fun revoked => ⟨rfl, fun _ => ⟨rfl, fun _ => ?_⟩⟩⟩⟩
  simp only
  rcases presented body.challengeB64 body.responseB64 with e | ⟨challenge, response⟩
  · trivial
  · refine ⟨rfl, fun result => ?_⟩
    cases result with
    | deny => trivial
    | pass payload =>
      refine ⟨.inl rfl, fun status => ?_⟩
      cases status with
      | replayed | unknown => trivial
      | ok =>
        simp only [Prog.bind]
        rcases verifyDeviceResponse E (payloadDevicePub payload) challenge response with e | _ | _
        · trivial
        · trivial
        · exact ⟨.inl rfl, fun _ => trivial⟩

section View

variable {s : AppState} {roomId ref : Int}

theorem lockFor_viewAt : (s.viewAt E roomId ref).lockFor E roomId
    = ((s.lockFor E ref).1, s.viewAt E roomId ref) :=
  lockFor_of_locks (Dict.get?_set_self ..)

theorem challenges_viewAt :
    (s.viewAt E roomId ref).challenges E (.lock roomId) = s.challenges E (.lock ref) := by
  rw [AppState.challenges, lockFor_viewAt, AppState.challenges]

theorem ApiStmt.OffStore.atObjects {op : ApiStmt} (hop : op.OffStore) (held : Int → Int) :
    (op.atObjects held).OffStore := by
  cases op with
  | store => exact hop.elim
  | _ => trivial

/-- It does the same to the database. -/
theorem execApi_atObjects_db (op : ApiStmt) (held : Int → Int) {s t : AppState} (hdb : t.db = s.db) :
    (execApi E op t).2.db = (execApi E (op.atObjects held) s).2.db := by
  by_cases hoff : op.OffStore
  · rw [execApi_db hoff, execApi_db (hoff.atObjects held), hdb]
  · cases op with
    | store op =>
      show (exec op t.db).2 = (exec op s.db).2
      rw [hdb]
    | _ => exact absurd trivial hoff

/-- **A statement at an object** is the statement at the lock of the room, in
the state that the request sees. -/
theorem execApi_atObjects {op : ApiStmt} (hop : op.AsksNoLock) (hroom : op.OfRoom roomId)
    (held : Int → Int) (s : AppState) : (execApi E op (s.viewAt E roomId (held roomId))).1
      = (execApi E (op.atObjects held) s).1.map (cast (op.res_atObjects held)) := by
  have hmap {β : Type} (r : Except Exc β) : r = r.map id := by rw [Except.map_id]; rfl
  cases op with
  | lockFor => exact hop.elim
  | store | connectedStatic | stayByText => exact hmap _
  | syncRevocations | activeAssignment | consume => rfl
  | lockStatic r token now =>
    obtain rfl := hroom
    have hlock : ((s.viewAt E r (held r)).lockFor E r).1 = (s.lockFor E (held r)).1 := by
      rw [lockFor_viewAt]
    refine Eq.trans ?_ (hmap _)
    rw [execApi, hlock]
    rfl
  | issue v now nonce =>
    obtain rfl | rfl := hroom <;> rfl
  | check v c now =>
    obtain rfl | rfl := hroom
    · rw [execApi, challenges_viewAt]
      rfl
    · rfl

end View

/-! ## Programs -/

/-- A statement that deals with the tables. -/
def OnApi (Ok : ApiStmt → AppState → Prop) : MemStmt → Memory → Prop
  | .api op, m => Ok op m.app
  | _, _ => True

section Under

variable {rely : Db → Db → Prop} {Ok : ApiStmt → AppState → Prop} {Q : α → Db → Prop}

/-- `lock_for` leaves the tables alone. -/
theorem lockForCall_under (htrans : ∀ a b c, rely a b → rely b c → rely a c)
    (hroom : ∀ roomId s, Ok (.store (.getRoom roomId)) s) (hlist : ∀ s, Ok (.store .revocationList) s)
    (roomId : Int) (m : Memory) :
    (lockForCall roomId).Under (execMem E) (fun m n => rely m.app.db n.app.db) (OnApi Ok)
      (fun _ n => rely m.app.db n.app.db) m := by
  refine Prog.under_call (fun _ _ => trivial) fun n found u hn he => ?_
  cases he
  cases hfound : n.registry.get? roomId with
  | some ref => exact fun u hu => htrans _ _ _ hn hu
  | none =>
    refine Prog.under_call (fun u _ => hroom roomId u.app) fun u room u' hu he => ?_
    cases he
    refine Prog.under_call (fun v _ => hlist v.app) fun v revoked v' hv he => ?_
    cases he
    refine Prog.under_call (fun _ _ => trivial) fun w ref w' hw he x hx => ?_
    cases he
    exact htrans _ _ _ hn (htrans _ _ _ hu (htrans _ _ _ hv (htrans _ _ _ hw hx)))

/-- **What a program does to the tables**, its finer program does. -/
theorem under_withLocks (hrefl : ∀ db, rely db db) (htrans : ∀ a b c, rely a b → rely b c → rely a c)
    (hOk : ∀ op held s t, t.db = s.db → Ok op t → Ok (op.atObjects held) s)
    (hroom : ∀ roomId s, Ok (.store (.getRoom roomId)) s) (hlist : ∀ s, Ok (.store .revocationList) s)
    {p : ApiCall α} {s : AppState} {m : Memory} (hdb : m.app.db = s.db) (held : Int → Int)
    (h : p.Under (execApi E) (fun s t => rely s.db t.db) Ok (fun a t => Q a t.db) s) :
    (withLocks held p).Under (execMem E) (fun m n => rely m.app.db n.app.db) (OnApi Ok)
      (fun a n => Q a n.app.db) m := by
  induction p generalizing s m held with
  | ret a =>
    intro n hn
    rw [hdb] at hn
    exact h n.app hn
  | throw e => trivial
  | call op k ih =>
    by_cases hop : op.AsksNoLock
    · rw [withLocks_call hop]
      obtain ⟨roomId, hofRoom⟩ := op.ofRoom_some
      intro n hn
      rw [hdb] at hn
      obtain ⟨hok, hk⟩ := h (n.app.viewAt E roomId (held roomId)) hn
      refine ⟨hOk op held n.app (n.app.viewAt E roomId (held roomId)) rfl hok, fun r u he => ?_⟩
      have hstate := execApi_atObjects_db (E := E) op held (s := n.app) (t := n.app.viewAt E roomId (held roomId)) rfl
      have hres := execApi_atObjects hop hofRoom held n.app (E := E)
      obtain ⟨hr, rfl⟩ := Prod.mk.inj he
      rw [hr] at hres
      exact ih _ hstate.symm held (hk _ _ (Prod.ext hres rfl))
    · cases op with
      | lockFor roomId =>
        rw [withLocks_lockFor]
        refine (lockForCall_under htrans hroom hlist roomId m).bind (fun m => hrefl m.app.db)
          fun ref n hn => ?_
        rw [hdb] at hn
        obtain ⟨-, hk⟩ := h n.app hn
        exact ih () (lockFor_db roomId).symm _ (hk () _ rfl)
      | _ => exact absurd trivial hop

end Under

section Requests

variable {sk : PrivateKey} {propertyId : String} {rely : Db → Db → Prop} {Ok : Stmt → Db → Prop} {J : Db → Prop}
  {Row : IssuedKey → Db → Prop}

/-- **What is shown of the calls** holds of the finer programs of the
requests. -/
theorem StoreRules.request_withLocks (h : StoreRules E sk propertyId rely Ok J Row)
    (htrans : ∀ a b c, rely a b → rely b c → rely a c) (hroom : ∀ roomId db, Ok (.getRoom roomId) db)
    (r : Request × Draw) {m : Memory} (hm : J m.app.db) (held : Int → Int) :
    (withLocks held (requestProgram E propertyId sk r)).Under (execMem E)
      (fun m n => rely m.app.db n.app.db) (OnApi (AllowedOnStore Ok))
      (fun a n => J n.app.db ∧ HandedOut Row a n.app.db) m := by
  have hOk (op : ApiStmt) (held : Int → Int) (s t : AppState) (hdb : t.db = s.db)
      (hop : AllowedOnStore Ok op t) : AllowedOnStore Ok (op.atObjects held) s := by
    cases op with
    | store op =>
      show Ok op s.db
      rw [← hdb]
      exact hop
    | _ => trivial
  exact under_withLocks (Q := fun a db => J db ∧ HandedOut Row a db) h.refl htrans hOk
    (fun roomId s => hroom roomId s.db) (fun s => h.list s.db) rfl held (h.request r hm)

end Requests

/-- **How a program ends** that deals with one room: so does its finer
program, if the registry has the object that it holds. -/
theorem ends_withLocks {F : AppState → Prop} {G : Memory → Prop} {a : α} {n : Nat} {roomId ref : Int}
    (hG : ∀ m, G m → m.registry.get? roomId = some ref ∧ F (m.app.viewAt E roomId ref)) {p : ApiCall α}
    (hp : p.Only (ApiStmt.OfRoom roomId)) {held : Int → Int}
    (hheld : held roomId = ref ∨ ∃ k, p = .call (.lockFor roomId) k) (h : p.Ends (execApi E) F a n) :
    (withLocks held p).Ends (execMem E) G a n := by
  induction p generalizing held n with
  | ret b => exact Prog.ends_ret_iff.mpr (Prog.ends_ret_iff.mp h)
  | throw e => exact (Prog.not_ends_throw h).elim
  | call op k ih =>
    cases n with
    | zero => exact h.elim
    | succ n =>
      by_cases hop : op.AsksNoLock
      · rw [withLocks_call hop]
        have hheld : held roomId = ref := by
          obtain hheld | ⟨k', hk⟩ := hheld
          · exact hheld
          · cases hk
            exact hop.elim
        intro m hm
        obtain ⟨r, t, he, hr⟩ := h _ (hG m hm).2
        have hres := execApi_atObjects hop hp.1 held m.app (E := E)
        rw [hheld, he] at hres
        cases hfine : (execApi E (op.atObjects held) m.app).1 with
        | error e =>
          rw [hfine] at hres
          cases hres
        | ok x =>
          rw [hfine] at hres
          obtain rfl := Except.ok.inj hres
          exact ⟨x, _, Prod.ext hfine rfl, ih _ (hp.2 _) (.inl hheld) hr⟩
      · cases op with
        | lockFor r =>
          obtain rfl : r = roomId := hp.1
          intro m hm
          obtain ⟨hregistered, hF⟩ := hG m hm
          obtain ⟨_, t, -, hr⟩ := h _ hF
          refine ⟨some ref, m, by rw [execMem, hregistered], ?_⟩
          exact ih () (hp.2 ()) (.inl (Function.update_self ..)) hr
        | _ => exact absurd trivial hop

end StayKey.Service
