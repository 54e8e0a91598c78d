/-
StayKey.Store.KeyRows — a row of the keys table and its token say the same.

The row and the token are written by one call, `issue_for_stay`, but the
stay is read by an earlier statement than the one that stores the row, and
other clients may write in between. What the token takes from the stay is
never updated (`Extends`), so every row is genuine in every state that any
number of clients can reach (`keysGenuine_pool`), and what a lock makes of
the token can be read off the row (`Genuine.passesStatic_iff`).
-/
import StayKey.Program.Rely
import StayKey.Store.Occupancy

namespace StayKey.Store

open StayKey.Codec StayKey.Door StayKey.Program

variable {E : Env} {sk : PrivateKey} {db db' : Db} {k : KeyRow}

/-! ## Where key rows come from -/

/-- The statement stores no key. -/
def Stmt.AddsNoKey : Stmt → Prop
  | .addKey _ => False
  | _ => True

/-- A row is one from before, perhaps retired, or the one just stored. -/
theorem mem_keys_exec (op : Stmt) (h : k ∈ (exec op db).2.keys) :
    (∃ k₀ ∈ db.keys, k = k₀ ∨ k = { k₀ with active := false }) ∨ op = .addKey k := by
  have hsame (he : (exec op db).2.keys = db.keys) :
      ∃ k₀ ∈ db.keys, k = k₀ ∨ k = { k₀ with active := false } := ⟨k, he ▸ h, .inl rfl⟩
  cases op with
  | addGuest guestId name email =>
    refine .inl (hsame (write_keeps Db.keys fun db' hdb => ?_))
    obtain ⟨guests, rfl⟩ := Db.addGuest_ok hdb
    rfl
  | addRoom roomId propertyId number roomType =>
    refine .inl (hsame (write_keeps Db.keys fun db' hdb => ?_))
    obtain ⟨rooms, rfl, -⟩ := Db.addRoom_ok hdb
    rfl
  | addStay stayId guestId propertyId roomType checkIn checkOut =>
    refine .inl (hsame (write_keeps Db.keys fun db' hdb => ?_))
    obtain ⟨-, stays, rfl, -⟩ := Db.addStay_ok hdb
    rfl
  | addKey row =>
    simp only [exec] at h
    cases ha : db.addKey row with
    | error e =>
      rw [ha] at h
      exact .inl ⟨k, h, .inl rfl⟩
    | ok db' =>
      rw [ha] at h
      rcases (Db.mem_addKey ha).mp h with h | rfl
      · exact .inl ⟨k, h, .inl rfl⟩
      · exact .inr rfl
  | retireKeys stayId =>
    obtain ⟨k₀, hk₀, rfl⟩ := Db.mem_retireKeys.mp h
    refine .inl ⟨k₀, hk₀, ?_⟩
    split
    · exact .inr rfl
    · exact .inl rfl
  | revokeKey keyId revokedAt reason =>
    obtain ⟨r, hr⟩ := Db.revokeKey_eq db keyId revokedAt reason
    exact .inl (hsame (congrArg Db.keys hr :))
  | assignTransaction stayId stay preferred =>
    obtain ⟨e, he, -⟩ | ⟨chosen, he, -⟩ := Db.assignTransaction_booking stayId stay preferred db
    · exact .inl (hsame (by rw [he]))
    · exact .inl (hsame (by rw [he]; rfl))
  | changeTransaction stayId stay newRoomId =>
    obtain ⟨e, he, -⟩ | ⟨chosen, he, -⟩ := Db.changeTransaction_booking stayId stay newRoomId db
    · exact .inl (hsame (by rw [he]))
    · exact .inl (hsame (by rw [he]; rfl))
  | guestExists | getRoom | getStay | activeKeys | revocationList | setStayStatus
  | retireAssignments => exact .inl (hsame rfl)

/-! ## Genuine rows -/

/-- The row holds the credential `issued`, which was issued with the columns
of the row for the stay `read`, now `stay` and with the same booking. -/
structure Holds (E : Env) (sk : PrivateKey) (db : Db) (k : KeyRow) (read stay : StayRow) (fresh : Fresh)
    (issued : IssuedKey) : Prop where
  getStay : db.getStay k.stayId = some stay
  booking : SameBooking read stay
  credential :
    issueCredential E sk (stayCredential read k.stayId k.roomId k.issuedAt fresh) fresh = .ok issued
  keyId : k.keyId = issued.keyId
  token : k.token = issued.token
  validFrom : k.validFrom = (effectiveWindow read.checkIn read.checkOut k.issuedAt).1
  validUntil : k.validUntil = (effectiveWindow read.checkIn read.checkOut k.issuedAt).2

/-- The token of the row was issued for its stay. -/
def Genuine (E : Env) (sk : PrivateKey) (db : Db) (k : KeyRow) : Prop :=
  ∃ read stay fresh issued, Holds E sk db k read stay fresh issued

theorem Genuine.mono (h : Genuine E sk db k) (hext : Extends db db') : Genuine E sk db' k := by
  obtain ⟨read, stay, fresh, issued, h⟩ := h
  obtain ⟨stay', hs', hbook⟩ := hext.stays _ stay h.getStay
  exact ⟨read, stay', fresh, issued, hs', h.booking.trans hbook, h.credential, h.keyId, h.token,
    h.validFrom, h.validUntil⟩

theorem Genuine.retired (h : Genuine E sk db k) : Genuine E sk db { k with active := false } := by
  obtain ⟨read, stay, fresh, issued, h⟩ := h
  exact ⟨read, stay, fresh, issued, h.getStay, h.booking, h.credential, h.keyId, h.token, h.validFrom,
    h.validUntil⟩

/-- Every row of the keys table is genuine. -/
def KeysGenuine (E : Env) (sk : PrivateKey) (db : Db) : Prop := ∀ k ∈ db.keys, Genuine E sk db k

/-- A key may be stored when its row is genuine. -/
def KeyOk (E : Env) (sk : PrivateKey) (op : Stmt) (db : Db) : Prop :=
  ∀ k, op = .addKey k → Genuine E sk db k

theorem keysGenuine_exec (op : Stmt) (db : Db) (hop : KeyOk E sk op db) (h : KeysGenuine E sk db) :
    KeysGenuine E sk (exec op db).2 := by
  intro k hk
  have hext := extends_exec op db
  rcases mem_keys_exec op hk with ⟨k₀, hk₀, rfl | rfl⟩ | hadd
  · exact (h k hk₀).mono hext
  · exact (h k₀ hk₀).retired.mono hext
  · exact (hop k hadd).mono hext

/-! ## The calls -/

/-- Among others that extend the database, the program stores genuine keys only. -/
def IssuesGenuine (E : Env) (sk : PrivateKey) {α : Type} (p : Call α) : Prop :=
  ∀ db, p.Under exec Extends (KeyOk E sk) (fun _ _ => True) db

theorem issuesGenuine_of_only {α : Type} {p : Call α} (h : p.Only Stmt.AddsNoKey) :
    IssuesGenuine E sk p :=
  Prog.under_of_only (fun _ _ hop k hk => by rw [hk] at hop; exact hop.elim) h

theorem IssuesGenuine.bind {α β : Type} {p : Call α} {f : α → Call β} (hp : IssuesGenuine E sk p)
    (hf : ∀ a, IssuesGenuine E sk (f a)) : IssuesGenuine E sk (p >>= f) :=
  fun db => (hp db).bind Extends.refl fun a db' _ => hf a db'

/-- Every call on a stay first reads it. -/
theorem issuesGenuine_getStay {β : Type} {stayId : String} {f : Option StayRow → Call β}
    (hf : ∀ stay, IssuesGenuine E sk (f stay)) :
    IssuesGenuine E sk (Stmt.call (.getStay stayId) >>= f) :=
  (issuesGenuine_of_only (call_only (.getStay stayId) trivial)).bind hf

section Calls

variable {S : String} {now : Int} {fresh : Fresh}

/-- The stay is read first, and its booking is the same when the key is
stored. -/
theorem issueForStay_genuine : IssuesGenuine E sk (issueForStay E sk S now fresh) := by
  refine fun db => Prog.under_call (fun _ _ _ => nofun) fun db₁ found db₂ _ hread => ?_
  cases hread
  cases hs : db₁.getStay S with
  | none => trivial
  | some stay =>
    simp only [Prog.bind]
    cases hr : stay.roomId with
    | none => trivial
    | some roomId =>
      simp only
      split
      · trivial
      · cases hc : issueCredential E sk (stayCredential stay S roomId now fresh) fresh with
        | error e => trivial
        | ok issued =>
          refine Prog.under_call (fun db₃ hext => ?_) fun _ _ _ _ _ _ _ => trivial
          rintro k hk
          cases hk
          obtain ⟨s, hs', hbook⟩ := hext.stays S stay hs
          exact ⟨stay, s, fresh, issued, hs', hbook, hc, rfl, rfl, rfl, rfl⟩

theorem refreshKey_genuine : IssuesGenuine E sk (refreshKey E sk S now fresh) := by
  refine issuesGenuine_getStay fun stay => ?_
  cases stay with
  | none => exact fun _ => trivial
  | some stay =>
    simp only
    split
    · exact fun _ => trivial
    · exact (issuesGenuine_of_only (call_only (.retireKeys S) trivial)).bind fun _ => issueForStay_genuine

theorem checkin_genuine : IssuesGenuine E sk (checkin E sk S now fresh) := by
  refine issuesGenuine_getStay fun stay => ?_
  cases stay with
  | none => exact fun _ => trivial
  | some stay =>
    exact (issuesGenuine_of_only (call_only (.setStayStatus S .checkedIn) trivial)).bind fun _ => issueForStay_genuine

theorem changeRoom_genuine (newRoomId : Option Int) :
    IssuesGenuine E sk (changeRoom E sk S now newRoomId fresh) := by
  refine issuesGenuine_getStay fun stay => ?_
  cases stay with
  | none => exact fun _ => trivial
  | some stay =>
    simp only
    split
    · exact fun _ => trivial
    · exact (issuesGenuine_of_only (deactivateKeysForStay_only trivial trivial)).bind fun revoked =>
        (issuesGenuine_of_only (revokeKeys_only (fun _ _ _ => trivial) "room_change" revoked)).bind
          fun _ => (issuesGenuine_of_only (moveRoom_only trivial (fun _ _ => trivial) newRoomId)).bind
            fun _ => issueForStay_genuine.bind fun _ _ _ _ => trivial

end Calls

/-- **No call stores a key that is not genuine**, whatever others do. -/
theorem storeCall_genuine (c : StoreCall) : IssuesGenuine E sk (c.program E sk) := by
  have hret {α : Type} {a : α} : IssuesGenuine E sk (.ret a) := fun _ _ _ => trivial
  cases c with
  | addGuest | addRoom | addStay => exact issuesGenuine_of_only ⟨trivial, fun _ => trivial⟩
  | assignRoom stayId preferred =>
    exact (issuesGenuine_of_only (assignRoom_only trivial (fun _ _ => trivial) preferred)).bind
      fun _ => hret
  | checkin => exact checkin_genuine.bind fun _ => hret
  | issueForStay => exact issueForStay_genuine.bind fun _ => hret
  | refreshKey => exact refreshKey_genuine.bind fun _ => hret
  | changeRoom stayId now newRoomId fresh => exact (changeRoom_genuine newRoomId).bind fun _ => hret
  | checkout =>
    exact (issuesGenuine_of_only (checkout_only trivial trivial trivial (fun _ _ _ => trivial) trivial
      trivial)).bind fun _ => hret

/-! ## Any number of clients -/

/-- What the clients of the store run: any call, its result dropped. -/
inductive StoreClient (E : Env) (sk : PrivateKey) : Call Unit → Prop
  | call (c : StoreCall) : StoreClient E sk (do let _ ← c.program E sk; return ())

/-- The databases that any number of clients can reach, statement by statement. -/
def ReachedByClients (E : Env) (sk : PrivateKey) (db : Db) : Prop :=
  ∃ (ι : Type) (_ : DecidableEq ι) (s : Pool ι Stmt Stmt.Res Exc Db),
    Pool.Reachable exec (StoreClient E sk) .empty s ∧ s.shared = db

/-- Calls that run one after another are among them. -/
theorem ReachedByClients.of_history {h : List StoreEntry} (hs : StoreHistory E sk h db) :
    ReachedByClients E sk db := by
  suffices hpool : ∃ s : Pool Unit Stmt Stmt.Res Exc Db,
      Pool.Reachable exec (StoreClient E sk) .empty s ∧ s.shared = db ∧ Pool.Ended (s.client ()) by
    obtain ⟨s, hreach, hshared, -⟩ := hpool
    exact ⟨Unit, inferInstance, s, hreach, hshared⟩
  induction hs with
  | nil => exact ⟨_, .init, rfl, nofun⟩
  | cons c _ ih =>
    obtain ⟨s, hreach, rfl, hended⟩ := ih
    obtain ⟨t, ht, hshared, hended'⟩ := Pool.reachable_run hreach hended (.call c)
    refine ⟨t, ht, ?_, hended'⟩
    have hrun := run_return (c.program E sk) (fun _ => ()) s.shared
    rw [hshared]
    exact congrArg Prod.snd hrun

theorem keysGenuine_pool (h : ReachedByClients E sk db) : KeysGenuine E sk db := by
  obtain ⟨ι, _, s, hs, rfl⟩ := h
  refine Pool.invariant_under Extends.refl (fun _ _ _ => Extends.trans) extends_exec
    (fun _ h => absurd h (Table.notMem_empty _)) ?_ keysGenuine_exec hs
  rintro p db ⟨c⟩
  exact (storeCall_genuine c).bind (f := fun _ => .ret ()) (fun _ _ _ _ => trivial) _

/-! ## What a lock makes of the token -/

/-- The token parses into a payload with the columns of the row, signed by
the property. -/
structure TokenAgrees (E : Env) (sk : PrivateKey) (k : KeyRow) (stay : StayRow) (p : ParsedToken) :
    Prop where
  parsed : parseToken E k.token = .ok (some p)
  signed : E.ed.verify (E.ed.publicKey sk) p.signature p.payloadBytes = true
  keyId : dictGet? p.payload (py "key_id") = some (.str (py k.keyId))
  stayId : dictGet? p.payload (py "stay_id") = some (.str (py k.stayId))
  validFrom : dictGet? p.payload (py "valid_from") = some (.int k.validFrom)
  validUntil : dictGet? p.payload (py "valid_until") = some (.int k.validUntil)
  issuedAt : dictGet? p.payload (py "issued_at") = some (.int k.issuedAt)
  roomIds : dictGet? p.payload (py "room_ids") = some (.arr [.int k.roomId])
  guestId : dictGet? p.payload (py "guest_id") = some (.str (py stay.guestId))
  propertyId : dictGet? p.payload (py "property_id") = some (.str (py stay.propertyId))

theorem Genuine.tokenAgrees (hE : E.ed.Correct) (h : Genuine E sk db k) :
    ∃ stay p, db.getStay k.stayId = some stay ∧ TokenAgrees E sk k stay p := by
  obtain ⟨read, stay, fresh, issued, h⟩ := h
  obtain ⟨-, bytes, hbytes, hissued⟩ := issueCredential_ok h.credential
  refine ⟨stay, ⟨sortByKey ((stayCredential read k.stayId k.roomId k.issuedAt fresh).payload E fresh),
    bytes, E.ed.sign sk bytes⟩, h.getStay, ?_⟩
  have hget := dictGet_sorted_payload (E := E)
    (stayCredential read k.stayId k.roomId k.issuedAt fresh) fresh
  constructor
  case parsed => rw [h.token, hissued]; exact parseToken_canonical hbytes _
  case signed => exact hE sk bytes
  case keyId => rw [hget, h.keyId, hissued]; rfl
  case stayId => rw [hget]; rfl
  case validFrom => rw [hget, h.validFrom]; rfl
  case validUntil => rw [hget, h.validUntil]; rfl
  case issuedAt => rw [hget]; rfl
  case roomIds => rw [hget]; rfl
  case guestId => rw [hget, h.booking.guestId]; rfl
  case propertyId => rw [hget, h.booking.propertyId]; rfl

/-- The static checks of the token, read off the row. -/
theorem Genuine.passesStatic_iff (hE : E.ed.Correct) (h : Genuine E sk db k) {stay : StayRow}
    (hs : db.getStay k.stayId = some stay) (property : String) (room now : Int)
    (revoked : Finset PyStr) :
    PassesStatic E k.token (E.ed.publicKey sk) property room now revoked ↔
      property = stay.propertyId ∧ room = k.roomId ∧ k.validFrom ≤ now ∧ now ≤ k.validUntil ∧
        py k.keyId ∉ revoked := by
  obtain ⟨read, stay', fresh, issued, h⟩ := h
  obtain rfl : stay = stay' := Option.some.inj (hs.symm.trans h.getStay)
  have hid : ((stayCredential read k.stayId k.roomId k.issuedAt fresh).fields E fresh).keyId
      = py k.keyId := by
    obtain ⟨-, bytes, -, hissued⟩ := issueCredential_ok h.credential
    rw [h.keyId, hissued]
    rfl
  have hrooms : ((stayCredential read k.stayId k.roomId k.issuedAt fresh).fields E fresh).roomIds
      = [k.roomId] := rfl
  have hproperty : ((stayCredential read k.stayId k.roomId k.issuedAt fresh).fields E fresh).propertyId
      = py stay.propertyId := by rw [h.booking.propertyId]; rfl
  have hchecks : PassesStatic E k.token (E.ed.publicKey sk) property room now revoked ↔
      firstFailing (staticChecks ((stayCredential read k.stayId k.roomId k.issuedAt fresh).fields E
        fresh) property room now revoked) = none := by
    rw [h.token]
    exact ⟨passesStatic_issue h.credential, passesStatic_of_checks hE h.credential⟩
  rw [hchecks, staticChecks_hold_iff, hid, hrooms, hproperty, py_inj, List.mem_singleton, h.validFrom,
    h.validUntil, eq_comm (a := property)]
  exact Iff.rfl

/-- **The store and the offline lock agree** on every key, in every state
that any number of clients can reach: the token says what the row says,
and a lock accepts it exactly where the row does. -/
theorem key_row_agrees (hE : E.ed.Correct) (h : ReachedByClients E sk db) (hk : k ∈ db.keys) :
    ∃ stay p, db.getStay k.stayId = some stay ∧ TokenAgrees E sk k stay p ∧
      ∀ (property : String) (room now : Int) (revoked : Finset PyStr),
        PassesStatic E k.token (E.ed.publicKey sk) property room now revoked ↔
          property = stay.propertyId ∧ room = k.roomId ∧ k.validFrom ≤ now ∧ now ≤ k.validUntil ∧
            py k.keyId ∉ revoked := by
  have hgenuine := keysGenuine_pool h k hk
  obtain ⟨stay, p, hs, hagrees⟩ := hgenuine.tokenAgrees hE
  exact ⟨stay, p, hs, hagrees, hgenuine.passesStatic_iff hE hs⟩

/-- The key of a check-in, at the door of its room. -/
theorem key_row_agrees_checkin :
    ∃ k ∈ (runCalls Env.sample sampleKey (sampleBooking ++ [.checkin "s_1" 1000 sampleFresh])).2.keys,
      PassesStatic Env.sample k.token (Env.sample.ed.publicKey sampleKey) "HILTON-DEMO-001" 101 1500 ∅ := by
  have hs := History.of_runAll (perform Env.sample sampleKey) Db.empty
    (sampleBooking ++ [.checkin "s_1" 1000 sampleFresh])
  have hrows : (runCalls Env.sample sampleKey
      (sampleBooking ++ [.checkin "s_1" 1000 sampleFresh])).2.keys.rows.map
        (fun k => (k.stayId, k.roomId, k.validFrom, k.validUntil)) = [("s_1", 101, 1000, 2000)] := by decide
  obtain ⟨k, hk, hcols⟩ := List.map_eq_singleton_iff.mp hrows
  simp only [Prod.mk.injEq] at hcols
  obtain ⟨hstay, hroom, hfrom, huntil⟩ := hcols
  have hmem : k ∈ (runCalls Env.sample sampleKey
      (sampleBooking ++ [.checkin "s_1" 1000 sampleFresh])).2.keys :=
    Table.mem_rows.mp (hk ▸ List.mem_cons_self)
  obtain ⟨stay, p, hget, -, hpasses⟩ := key_row_agrees Env.sample_correct (.of_history hs) hmem
  have hsample : (runCalls Env.sample sampleKey
      (sampleBooking ++ [.checkin "s_1" 1000 sampleFresh])).2.getStay "s_1" = some sampleStay := by decide
  rw [hstay, hsample] at hget
  cases hget
  refine ⟨k, hmem, (hpasses _ _ _ _).mpr ⟨rfl, hroom.symm, ?_, ?_, Finset.notMem_empty _⟩⟩
  · rw [hfrom]; decide
  · rw [huntil]; decide

end StayKey.Store
