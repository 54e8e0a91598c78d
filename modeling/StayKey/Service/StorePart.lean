/-
StayKey.Service.StorePart — what a request does to the tables.

A request writes the tables with one of the calls of `Store.Calls`, and
does the rest at the locks and the authorizer. So what is shown of the
calls (`StoreRules`: what others may do in between, which statements are
allowed, what holds of the tables, and what is known of a key when its call
has ended) holds of the requests: `StoreRules.request`. It is used for the
keys that are handed out (`storeRules_genuine`), and for the integrity of
the tables (`storeRules_integrity`).
-/
import StayKey.Service.Snapshots
import StayKey.Store.Integrity
import StayKey.Store.StoredKeys

namespace StayKey.Service

open StayKey.Codec StayKey.Door StayKey.Store StayKey.Program

variable {E : Env} {sk : PrivateKey} {propertyId : String} {rely : Db → Db → Prop}
  {Ok : Stmt → Db → Prop} {J : Db → Prop} {Row : IssuedKey → Db → Prop} {s : AppState}

/-- The key of an answer that hands one out. -/
def Answer.handedOut? : Answer → Option IssuedKey
  | .key issued | .roomChanged _ _ issued => some issued
  | _ => none

/-- What is known of the key that an answer hands out. -/
def HandedOut (Row : IssuedKey → Db → Prop) (a : Answer) (db : Db) : Prop :=
  ∀ key, a.handedOut? = some key → Row key db

/-- A statement on the tables is allowed. -/
def AllowedOnStore (Ok : Stmt → Db → Prop) : ApiStmt → AppState → Prop
  | .store op, s => Ok op s.db
  | _, _ => True

/-- What is shown of the calls. -/
structure StoreRules (E : Env) (sk : PrivateKey) (propertyId : String) (rely : Db → Db → Prop)
    (Ok : Stmt → Db → Prop) (J : Db → Prop) (Row : IssuedKey → Db → Prop) : Prop where
  refl : ∀ db, rely db db
  keep : ∀ {db db'}, rely db db' → J db → J db'
  row : ∀ {db db' key}, rely db db' → Row key db → Row key db'
  getStay : ∀ stayId db, Ok (.getStay stayId) db
  list : ∀ db, Ok .revocationList db
  addGuest : ∀ {db guestId name email}, J db →
    (Stmt.call (.addGuest guestId name email)).Under exec rely Ok (fun _ => J) db
  addRoom : ∀ {db roomId property number roomType}, J db →
    (Stmt.call (.addRoom roomId property number roomType)).Under exec rely Ok (fun _ => J) db
  reserve : ∀ {db body draw}, J db → (reserve propertyId body draw).Under exec rely Ok (fun _ => J) db
  checkin : ∀ {db S now fresh}, J db →
    (Store.checkin E sk S now fresh).Under exec rely Ok (fun key db => Row key db ∧ J db) db
  refreshKey : ∀ {db S now fresh}, J db →
    (Store.refreshKey E sk S now fresh).Under exec rely Ok (fun key db => Row key db ∧ J db) db
  checkout : ∀ {db S now}, J db → (Store.checkout S now).Under exec rely Ok (fun _ => J) db
  changeRoom : ∀ {db S now newRoomId fresh}, J db →
    (Store.changeRoom E sk S now newRoomId fresh).Under exec rely Ok (fun r db => Row r.2.2 db ∧ J db) db

/-! ## What is done elsewhere -/

/-- The statement writes no table. -/
def ApiStmt.LeavesTables : ApiStmt → Prop
  | .store .revocationList | .lockFor _ | .syncRevocations .. | .lockStatic .. | .connectedStatic ..
  | .activeAssignment _ | .stayByText _ | .issue .. | .check .. | .consume .. => True
  | .store _ => False

theorem ApiStmt.LeavesTables.db {op : ApiStmt} (hop : op.LeavesTables) (s : AppState) :
    (execApi E op s).2.db = s.db := by
  by_cases hoff : op.OffStore
  · exact execApi_db hoff s
  · cases op with
    | store op =>
      cases op with
      | revocationList => rfl
      | _ => exact hop.elim
    | _ => exact absurd trivial hoff

/-- The statement is one of a verifier, or syncs one. -/
def ApiStmt.AtDoors : ApiStmt → Prop
  | .issue .. => False
  | op => op.LeavesTables

theorem ApiStmt.LeavesTables.of_atDoors {op : ApiStmt} (hop : op.AtDoors) : op.LeavesTables := by
  cases op with
  | issue => exact hop.elim
  | _ => exact hop

theorem syncLockCall_atDoors (roomId : Int) : (syncLockCall roomId).Only ApiStmt.AtDoors :=
  ⟨trivial, fun _ => ⟨trivial, fun _ => ⟨trivial, fun _ => trivial⟩⟩⟩

theorem syncRoomCall_atDoors (roomId : Option Int) : (syncRoomCall roomId).Only ApiStmt.AtDoors := by
  cases roomId with
  | none => trivial
  | some roomId => exact syncLockCall_atDoors roomId

theorem presentCall_atDoors (v : Verifier Int) (keyId : PyStr) (devicePub : Json)
    (challenge response : Bytes) (now : Int) :
    (presentCall E v keyId devicePub challenge response now).Only ApiStmt.AtDoors := by
  refine ⟨trivial, fun status => ?_⟩
  cases status with
  | replayed | unknown => trivial
  | ok =>
    simp only
    rcases verifyDeviceResponse E devicePub challenge response with e | _ | _
    · trivial
    · trivial
    · exact ⟨trivial, fun _ => trivial⟩

theorem finishUnlockCall_atDoors (roomId : Int) (token : PyStr) (challenge response : Bytes)
    (now : Int) : (finishUnlockCall E roomId token challenge response now).Only ApiStmt.AtDoors := by
  refine ⟨trivial, fun result => ?_⟩
  cases result with
  | deny => trivial
  | pass payload => exact presentCall_atDoors ..

theorem authorizeCall_atDoors (roomId : Int) (command : String) (token : PyStr)
    (challenge response : Bytes) (now : Int) :
    (authorizeCall E roomId command token challenge response now).Only ApiStmt.AtDoors := by
  unfold authorizeCall
  split
  · trivial
  · refine ⟨trivial, fun revoked => ⟨trivial, fun result => ?_⟩⟩
    cases result with
    | deny => trivial
    | pass payload =>
      refine (isActiveStayCall_only (fun _ => trivial) (fun _ => trivial) payload roomId).bind
        fun active => ?_
      split
      · exact presentCall_atDoors ..
      · trivial

/-! ## Requests -/

theorem extends_execApi (op : ApiStmt) (s : AppState) : Extends s.db (execApi E op s).2.db := by
  by_cases hop : op.OffStore
  · rw [execApi_db hop]
    exact Extends.refl s.db
  · cases op with
    | store op => exact extends_exec op s.db
    | _ => exact absurd trivial hop

/-- No statement changes what the process was set up with. -/
theorem sameInstall_execApi (op : ApiStmt) (s : AppState) : SameInstall s (execApi E op s).2 := by
  cases op with
  | lockFor roomId => exact sameInstall_lockFor roomId
  | syncRevocations roomId revoked =>
    have hlock := sameInstall_lockFor (E := E) (s := s) roomId
    exact ⟨hlock.propertyId, hlock.propertySk, hlock.connectedId, hlock.connectedPub⟩
  | issue v | consume v =>
    cases v with
    | lock roomId =>
      have hlock := sameInstall_lockFor (E := E) (s := s) roomId
      exact ⟨hlock.propertyId, hlock.propertySk, hlock.connectedId, hlock.connectedPub⟩
    | connected => exact ⟨rfl, rfl, rfl, rfl⟩
  | store | lockStatic | connectedStatic | activeAssignment | stayByText | check =>
    exact ⟨rfl, rfl, rfl, rfl⟩

/-- A program on the database, within a request. -/
theorem onStore_under {α : Type} {Q : α → Db → Prop} {p : Call α}
    (h : p.Under exec rely Ok Q s.db) :
    (onStore p).Under (execApi E) (fun s t => rely s.db t.db) (AllowedOnStore Ok) (fun a t => Q a t.db) s := by
  induction p generalizing s with
  | ret a => exact fun t ht => h t.db ht
  | throw e => trivial
  | call op k ih =>
    intro t ht
    obtain ⟨hok, hk⟩ := h t.db ht
    refine ⟨hok, fun r u he => ih r ?_⟩
    simp only [execApi, Prod.mk.injEq] at he
    obtain ⟨he, rfl⟩ := he
    exact hk r _ (Prod.ext he rfl)

theorem handedOut_none {a : Answer} (ha : a.handedOut? = none) (db : Db) : HandedOut Row a db := by
  intro key hkey
  rw [ha] at hkey
  cases hkey

namespace StoreRules

variable (h : StoreRules E sk propertyId rely Ok J Row)

include h

/-- The rest of a request, at the locks and the authorizer. -/
theorem under_leaves {α : Type} {F : Db → Prop} (hF : ∀ {db db'}, rely db db' → F db → F db')
    {p : ApiCall α} (hp : p.Only ApiStmt.LeavesTables) (hs : F s.db) :
    p.Under (execApi E) (fun s t => rely s.db t.db) (AllowedOnStore Ok) (fun _ t => F t.db) s := by
  induction p generalizing s with
  | ret a => exact fun t ht => hF ht hs
  | throw e => trivial
  | call op k ih =>
    intro t ht
    refine ⟨?_, fun r u he => ih r (hp.2 r) ?_⟩
    · cases op with
      | store op =>
        cases op with
        | revocationList => exact h.list t.db
        | _ => exact hp.1.elim
      | _ => trivial
    · have hdb := hp.1.db (E := E) t
      rw [he] at hdb
      rw [hdb]
      exact hF ht hs

/-- What a request is to end with. -/
abbrev Fine (E : Env) (rely : Db → Db → Prop) (Ok : Stmt → Db → Prop) (J : Db → Prop)
    (Row : IssuedKey → Db → Prop) (p : ApiCall Answer) (s : AppState) : Prop :=
  p.Under (execApi E) (fun s t => rely s.db t.db) (AllowedOnStore Ok)
    (fun a t => J t.db ∧ HandedOut Row a t.db) s

/-- The end of a request that hands out nothing. -/
theorem fine_ret {a : Answer} (ha : a.handedOut? = none) (hs : J s.db) :
    Fine E rely Ok J Row (.ret a) s :=
  fun t ht => ⟨h.keep ht hs, handedOut_none ha t.db⟩

/-- A request that is one call, and hands out nothing. -/
theorem fine_call {α : Type} {p : Call α} {f : α → Answer} (hf : ∀ a, (f a).handedOut? = none)
    (hp : p.Under exec rely Ok (fun _ => J) s.db) :
    Fine E rely Ok J Row (onStore p >>= fun a => .ret (f a)) s :=
  (onStore_under hp).bind (fun s => h.refl s.db) fun a _ ht => h.fine_ret (hf a) ht

/-- A request that is one call, and hands out its key. -/
theorem fine_key {p : Call IssuedKey} (hp : p.Under exec rely Ok (fun key db => Row key db ∧ J db) s.db) :
    Fine E rely Ok J Row (onStore p >>= fun key => .ret (.key key)) s := by
  refine (onStore_under hp).bind (fun s => h.refl s.db) fun key t ht u hu => ?_
  refine ⟨h.keep hu ht.2, fun k hk => ?_⟩
  cases hk
  exact h.row hu ht.1

/-- A request that is done at the locks and the authorizer. -/
theorem fine_leaves {α : Type} {p : ApiCall α} {f : α → ApiCall Answer} (hp : p.Only ApiStmt.LeavesTables)
    (hs : J s.db) (hf : ∀ a t, J t.db → Fine E rely Ok J Row (f a) t) :
    Fine E rely Ok J Row (p >>= f) s :=
  (h.under_leaves h.keep hp hs).bind (fun s => h.refl s.db) hf

theorem fine_atDoors {α : Type} {p : ApiCall α} {f : α → ApiCall Answer} (hp : p.Only ApiStmt.AtDoors)
    (hs : J s.db) (hf : ∀ a t, J t.db → Fine E rely Ok J Row (f a) t) :
    Fine E rely Ok J Row (p >>= f) s :=
  h.fine_leaves (hp.mono fun _ => .of_atDoors) hs hf

/-- A read of a stay that is there changes nothing. -/
theorem under_getStay {β : Type} {f : Option StayRow → Call β} {Q : β → Db → Prop} {db : Db} {S : String}
    {e : Exc} (hnone : f none = raise e) (hJ : J db)
    (hsome : ∀ stay db, J db → (f (some stay)).Under exec rely Ok Q db) :
    (Stmt.call (.getStay S) >>= f).Under exec rely Ok Q db := by
  refine Prog.under_call (fun t _ => h.getStay S t) fun t found u ht he => ?_
  obtain rfl : t = u := congrArg Prod.snd he
  cases found with
  | none =>
    show (f none).Under exec rely Ok Q t
    rw [hnone]
    trivial
  | some stay => exact hsome stay t (h.keep ht hJ)

/-- **What is shown of the calls holds of the requests.** -/
theorem request (r : Request × Draw) (hs : J s.db) :
    Fine E rely Ok J Row (requestProgram E propertyId sk r) s := by
  obtain ⟨req, draw⟩ := r
  cases req with
  | createGuest => exact h.fine_call (fun _ => rfl) (h.addGuest hs)
  | createRoom => exact h.fine_call (fun _ => rfl) (h.addRoom hs)
  | reserve body => exact h.fine_call (fun _ => rfl) (h.reserve hs)
  | checkin stayId => exact h.fine_key (h.checkin hs)
  | refresh stayId => exact h.fine_key (h.refreshKey hs)
  | revocations =>
    exact h.fine_leaves (p := ApiStmt.call (.store .revocationList)) ⟨trivial, fun _ => trivial⟩ hs
      fun _ _ ht => h.fine_ret rfl ht
  | checkout stayId =>
    have hcheckout : (checkoutRequest stayId (nowOr none draw.clock)).Under exec rely Ok (fun _ => J)
        s.db := h.under_getStay rfl hs fun stay db hdb =>
      (h.checkout hdb).bind h.refl fun _ _ hdb _ ht => h.keep ht hdb
    refine (onStore_under hcheckout).bind (fun s => h.refl s.db) fun r t ht => ?_
    exact h.fine_atDoors (syncRoomCall_atDoors r.2) ht fun _ _ ht => h.fine_ret rfl ht
  | roomChange stayId body =>
    have hchange : (roomChangeRequest E sk stayId (nowOr body.now draw.clock) body.newRoomId
        draw.fresh).Under exec rely Ok (fun r db => Row r.2.2.2 db ∧ J db) s.db :=
      h.under_getStay rfl hs fun stay db hdb =>
        (h.changeRoom hdb).bind h.refl fun r _ hdb _ ht => ⟨h.row ht hdb.1, h.keep ht hdb.2⟩
    have hkeep (key : IssuedKey) {db db' : Db} (hr : rely db db') (hdb : Row key db ∧ J db) :
        Row key db' ∧ J db' := ⟨h.row hr hdb.1, h.keep hr hdb.2⟩
    refine (onStore_under hchange).bind (fun s => h.refl s.db) fun r t ht => ?_
    have hold := (syncRoomCall_atDoors r.1).mono fun _ => ApiStmt.LeavesTables.of_atDoors
    have hnew := (syncLockCall_atDoors r.2.1).mono fun _ => ApiStmt.LeavesTables.of_atDoors
    refine (h.under_leaves (hkeep r.2.2.2) hold ht).bind (fun s => h.refl s.db) fun _ t ht => ?_
    refine (h.under_leaves (hkeep r.2.2.2) hnew ht).bind (fun s => h.refl s.db)
      fun _ t ht u hu => ⟨h.keep hu ht.2, fun key hkey => ?_⟩
    cases hkey
    exact h.row hu ht.1
  | lockChallenge roomId =>
    refine h.fine_leaves (p := ApiStmt.call (.lockFor roomId)) ⟨trivial, fun _ => trivial⟩ hs
      fun _ t ht => ?_
    exact h.fine_leaves (p := ApiStmt.call (.issue (.lock roomId) (nowOr none draw.clock) draw.nonce))
      ⟨trivial, fun _ => trivial⟩ ht fun _ _ ht => h.fine_ret rfl ht
  | roomChallenge roomId =>
    exact h.fine_leaves (p := ApiStmt.call (.issue .connected (nowOr none draw.clock) draw.nonce))
      ⟨trivial, fun _ => trivial⟩ hs fun _ _ ht => h.fine_ret rfl ht
  | lockUnlock roomId body =>
    refine h.fine_atDoors (syncLockCall_atDoors roomId) hs fun _ t ht => ?_
    refine h.fine_leaves (p := ApiStmt.call (.lockFor roomId)) ⟨trivial, fun _ => trivial⟩ ht
      fun _ t ht => ?_
    simp only
    rcases presented body.challengeB64 body.responseB64 with e | ⟨challenge, response⟩
    · trivial
    · exact h.fine_atDoors (finishUnlockCall_atDoors ..) ht fun _ _ ht => h.fine_ret rfl ht
  | roomControl roomId body =>
    simp only [requestProgram, roomControlCall]
    rcases presented body.challengeB64 body.responseB64 with e | ⟨challenge, response⟩
    · trivial
    · exact h.fine_atDoors (authorizeCall_atDoors ..) hs fun _ _ ht => h.fine_ret rfl ht

end StoreRules

/-! ## What is shown of the calls -/

/-- The calls store only genuine keys, and return what they stored. -/
theorem storeRules_genuine :
    StoreRules E sk propertyId Extends (KeyOk E sk) (fun _ => True) (HasRow E sk) where
  refl := Extends.refl
  keep _ h := h
  row hext h := h.extends hext
  getStay _ _ _ hk := by cases hk
  list _ _ hk := by cases hk
  addGuest _ := issuesGenuine_of_only (call_only (.addGuest ..) trivial) _
  addRoom _ := issuesGenuine_of_only (call_only (.addRoom ..) trivial) _
  reserve _ := issuesGenuine_of_only (reserve_only propertyId _ _ (fun _ => trivial)
    (fun _ _ _ => trivial) (fun _ => trivial) trivial fun _ _ => trivial) _
  checkin _ := (checkin_stores _).imp fun _ _ h => ⟨h, trivial⟩
  refreshKey _ := (refreshKey_stores _).imp fun _ _ h => ⟨h, trivial⟩
  checkout _ := issuesGenuine_of_only
    (checkout_only trivial trivial trivial (fun _ _ _ => trivial) trivial trivial) _
  changeRoom _ := (changeRoom_stores _ _).imp fun _ _ h => ⟨h, trivial⟩

theorem keysGenuine_execApi (op : ApiStmt) (s : AppState) (hop : AllowedOnStore (KeyOk E sk) op s)
    (h : KeysGenuine E sk s.db) : KeysGenuine E sk (execApi E op s).2.db := by
  by_cases hoff : op.OffStore
  · rw [execApi_db hoff]
    exact h
  · cases op with
    | store op => exact keysGenuine_exec op s.db hop h
    | _ => exact absurd trivial hoff

theorem noDoubleBooking_execApi (op : ApiStmt) (h : NoDoubleBooking s.db) :
    NoDoubleBooking (execApi E op s).2.db := by
  by_cases hoff : op.OffStore
  · rw [execApi_db hoff]
    exact h
  · cases op with
    | store op => exact noDoubleBooking_exec op h
    | _ => exact absurd trivial hoff

section Integrity

variable {P : String} {db : Db}

theorem reservationGuest_keepsTables (h : Integrity P db) (body : ReservationIn) (draw : Draw) :
    KeepsTables P (fun _ _ => True) (reservationGuest body draw) db :=
  Prog.keeps_of_only integrity_exec (fun _ _ hop _ => hop _) (P := fun op => ∀ db, StmtSound P op db)
    (reservationGuest_only (fun _ _ => trivial) (fun _ _ _ _ => trivial) body draw) db h

theorem reserve_keepsTables (h : Integrity P db) (body : ReservationIn) (draw : Draw) :
    KeepsTables P (fun _ _ => True) (reserve P body draw) db := by
  refine (reservationGuest_keepsTables h body draw).bind Extends.refl fun guestId db _ hdb => ?_
  refine (keepsTables_any (.addStay ("s_" ++ draw.stayHex) guestId P body.roomType body.checkIn
    body.checkOut) hdb fun _ => rfl).bind Extends.refl fun _ db _ hdb => ?_
  refine (assignRoom_keeps hdb _ body.preferredRoomId).bind Extends.refl fun _ db _ hdb => ?_
  exact Prog.keepsFrom_ret hdb fun _ _ _ => trivial

/-- The calls run only statements with the right arguments. -/
theorem storeRules_integrity :
    StoreRules E sk P (Others Extends (Integrity P)) (StmtSound P) (Integrity P) (fun _ _ => True) where
  refl := Others.refl Extends.refl
  keep hr h := hr.2 h
  row _ _ := trivial
  getStay _ _ := trivial
  list _ := trivial
  addGuest h := Prog.Under.imp (fun _ _ h => h.2) (keepsTables_any (.addGuest ..) h fun _ => trivial)
  addRoom h := Prog.Under.imp (fun _ _ h => h.2) (keepsTables_any (.addRoom ..) h fun _ => trivial)
  reserve h := Prog.Under.imp (fun _ _ h => h.2) (reserve_keepsTables h _ _)
  checkin h := checkin_keeps h _
  refreshKey h := refreshKey_keeps h _
  checkout h := Prog.Under.imp (fun _ _ h => h.2) (checkout_keeps h _)
  changeRoom h := changeRoom_keeps h _ _

theorem integrity_execApi (op : ApiStmt) (s : AppState) (hop : AllowedOnStore (StmtSound P) op s)
    (h : Integrity P s.db) : Integrity P (execApi E op s).2.db := by
  by_cases hoff : op.OffStore
  · rw [execApi_db hoff]
    exact h
  · cases op with
    | store op => exact integrity_exec op s.db hop h
    | _ => exact absurd trivial hoff

end Integrity

/-! ## Runs -/

section Runs

variable {ι : Type} [DecidableEq ι] {req : ι → Request × Draw} {h : List (ServingTurn ι)} {s t : Serving ι}

/-- The tables only extend. -/
theorem extends_turn (i : ι) (s : Serving ι) : Extends s.shared.db (s.turn (execApi E) i).shared.db :=
  Prog.next_preserves (execApi E) (P := fun _ => True) (I := fun t => Extends s.shared.db t.db)
    (fun op t _ ht => ht.trans (extends_execApi op t)) (Prog.only_true _) (Extends.refl _)

theorem sameInstall_turn (s : Serving ι) (i : ι) : SameInstall s.shared (s.turn (execApi E) i).shared :=
  Prog.next_preserves (execApi E) (P := fun _ => True) (I := fun t => SameInstall s.shared t)
    (fun op t _ ht => ht.trans (sameInstall_execApi op t)) (Prog.only_true _) (.refl _)

theorem extends_since {s₀ : Serving ι} (hs : Schedule (execApi E) s₀ h s) (hv : History.Visits h s t) :
    Extends t.shared.db s.shared.db :=
  hs.since_visits (P := fun s => Extends t.shared.db s.shared.db) hv (Extends.refl _)
    fun s i hext => hext.trans (extends_turn i s)

theorem integrity_run (hrun : ServingRun E propertyId sk req h s) : Integrity propertyId s.shared.db := by
  have hkeeps (i : ι) : (requestProgram E propertyId sk (req i)).Keeps (execApi E)
      (fun s t => Extends s.db t.db) (fun s => Integrity propertyId s.db)
      (AllowedOnStore (StmtSound propertyId)) fun _ _ => True :=
    fun s hs => Prog.Under.imp (fun _ _ h => ⟨trivial, h.1⟩) (storeRules_integrity.request (req i) hs)
  exact (Schedule.keeps (K := fun s t => Extends s.db t.db) (I := fun s => Integrity propertyId s.db)
    (fun s => Extends.refl s.db) (fun _ _ _ => Extends.trans) extends_execApi integrity_execApi
    integrity_empty hkeeps hrun).1

/-- The rows of the keys are genuine, and the requests are on their way to
what they are to end with. -/
theorem genuine_run (hrun : ServingRun E propertyId sk req h s) :
    KeysGenuine E sk s.shared.db ∧ ∀ i, (s.prog i).Under (execApi E) (fun s t => Extends s.db t.db)
      (AllowedOnStore (KeyOk E sk)) (fun a t => True ∧ HandedOut (HasRow E sk) a t.db) s.shared := by
  refine Schedule.invariant_under (I := fun s => KeysGenuine E sk s.db)
    (Q := fun _ a t => True ∧ HandedOut (HasRow E sk) a t.db) ?_ ?_ ?_ ?_ ?_
    keysGenuine_execApi hrun
  · exact fun s => Extends.refl s.db
  · exact fun _ _ _ => Extends.trans
  · exact extends_execApi
  · exact fun k hk => absurd hk (Table.notMem_empty k)
  · exact fun i => storeRules_genuine.request (req i) trivial

theorem noDoubleBooking_turn (i : ι) {s : Serving ι} (hs : NoDoubleBooking s.shared.db) :
    NoDoubleBooking (s.turn (execApi E) i).shared.db :=
  Prog.next_preserves (execApi E) (P := fun _ => True) (I := fun s => NoDoubleBooking s.db)
    (fun op _ _ hs => noDoubleBooking_execApi op hs) (Prog.only_true _) hs

theorem noDoubleBooking_run (hrun : ServingRun E propertyId sk req h s) :
    NoDoubleBooking s.shared.db := by
  induction hrun with
  | nil => exact noDoubleBooking_empty
  | cons i _ ih => exact noDoubleBooking_turn i ih

/-- **A key that is handed out** was issued for the property, and for one of
its rooms. -/
theorem handedOut_run (hrun : ServingRun E propertyId sk req h s) {i : ι} {a : Answer} {key : IssuedKey}
    (ha : (s.prog i).outcome? = some (.ok a)) (hkey : a.handedOut? = some key) :
    ∃ c fresh, issueCredential E sk c fresh = .ok key ∧ c.propertyId = propertyId ∧
      ∀ roomId ∈ c.roomIds, InProperty propertyId s.shared.db roomId := by
  have hi := (genuine_run hrun).2 i
  rw [Prog.outcome?_ok ha] at hi
  obtain ⟨k, hk, read, stay, fresh, hholds⟩ := (hi s.shared (Extends.refl _)).2 key hkey
  have hintegrity := integrity_run hrun
  refine ⟨_, fresh, hholds.credential, ?_, fun roomId hroom => ?_⟩
  · exact hholds.booking.propertyId.symm.trans (hintegrity.stay _ stay hholds.getStay).1
  · obtain rfl := List.mem_singleton.mp hroom
    exact hintegrity.keyRoom k hk

end Runs

end StayKey.Service
