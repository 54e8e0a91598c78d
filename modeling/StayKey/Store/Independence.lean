/-
StayKey.Store.Independence — what is done to one stay does not touch another.

`Store.Frame` has that a call keeps the rows of the stays it is not about.
Here are the revocations, which belong to no stay: a call revokes active
keys of its own stay only, and a key id is the key of one row, so the keys
of another stay are revoked after the call if and only if they were before
(`revoked_perform`). As a lock reads nothing of a token but its payload,
it decides on the tokens of that stay as before.

Two checkouts of different stays commute (`checkout_comm`): no update of
the one matches a row of the other, and only the order in which the keys
entered the revocation list tells which came first.
-/
import StayKey.Store.KeyRows

namespace StayKey.Store

open StayKey.Codec StayKey.Door StayKey.Program

variable {E : Env} {sk : PrivateKey} {db db' : Db} {S S' : String}

/-! ## Revocations -/

/-- The statement revokes nothing. -/
def Stmt.RevokesNothing : Stmt → Prop
  | .revokeKey .. => False
  | _ => True

theorem revocations_exec (op : Stmt) (hop : op.RevokesNothing) (db : Db) :
    (exec op db).2.revocations = db.revocations := by
  cases op with
  | addGuest guestId name email =>
    refine write_keeps Db.revocations fun db' hdb => ?_
    obtain ⟨guests, rfl⟩ := Db.addGuest_ok hdb
    rfl
  | addRoom roomId propertyId number roomType =>
    refine write_keeps Db.revocations fun db' hdb => ?_
    obtain ⟨rooms, rfl, -⟩ := Db.addRoom_ok hdb
    rfl
  | addStay stayId guestId propertyId roomType checkIn checkOut =>
    refine write_keeps Db.revocations fun db' hdb => ?_
    obtain ⟨-, stays, rfl, -⟩ := Db.addStay_ok hdb
    rfl
  | addKey row =>
    refine write_keeps Db.revocations fun db' hdb => ?_
    obtain ⟨-, -, keys, rfl⟩ := Db.addKey_ok hdb
    rfl
  | revokeKey => exact hop.elim
  | assignTransaction stayId stay preferred =>
    obtain ⟨e, he, -⟩ | ⟨chosen, he, -⟩ := Db.assignTransaction_booking stayId stay preferred db
    · rw [he]
    · rw [he]; rfl
  | changeTransaction stayId stay newRoomId =>
    obtain ⟨e, he, -⟩ | ⟨chosen, he, -⟩ := Db.changeTransaction_booking stayId stay newRoomId db
    · rw [he]
    · rw [he]; rfl
  | guestExists | getRoom | getStay | activeKeys | revocationList | setStayStatus | retireKeys
  | retireAssignments => rfl

theorem revocations_run {α : Type} {p : Call α} (hp : p.Only Stmt.RevokesNothing) (db : Db) :
    (p.run db).2.revocations = db.revocations :=
  Prog.run_preserves exec (I := fun db' => db'.revocations = db.revocations)
    (fun _ db' hop h => (revocations_exec _ hop db').trans h) hp rfl

/-- Dropping the keys of a stay revokes no key of another. -/
theorem revoked_dropKeys {k : KeyRow} (hk : k ∈ db.keys) (hne : k.stayId ≠ S) (now : Int)
    (reason : String) :
    k.keyId ∈ (dropKeys db S now reason).revocationList ↔ k.keyId ∈ db.revocationList := by
  rw [dropKeys, Db.mem_revocationList_revokeAll]
  refine or_iff_left fun hid => ?_
  obtain ⟨k', hk', hkid, hs, -⟩ := Db.mem_activeKeys.mp hid
  rw [Table.eq_of_key hk' hk hkid] at hs
  exact hne hs

theorem revoked_checkout {k : KeyRow} (hk : k ∈ db.keys) (hne : k.stayId ≠ S) (now : Int) :
    k.keyId ∈ ((checkout S now).run db).2.revocationList ↔ k.keyId ∈ db.revocationList := by
  cases hs : db.getStay S with
  | none =>
    obtain ⟨msg, hrun⟩ := checkout_run_none now hs
    rw [hrun]
  | some stay =>
    rw [checkout_run hs]
    exact revoked_dropKeys hk hne now "checkout"

theorem revoked_changeRoom {k : KeyRow} (hk : k ∈ db.keys) (hne : k.stayId ≠ S) {now : Int}
    (newRoomId : Option Int) {fresh : Fresh} :
    k.keyId ∈ ((changeRoom E sk S now newRoomId fresh).run db).2.revocationList ↔
      k.keyId ∈ db.revocationList := by
  obtain ⟨-, e, -, hrun⟩ | ⟨stay, -, -, hrun⟩ := changeRoom_run E sk db S now newRoomId fresh
  · rw [hrun]
  have hmove := revocations_exec (.changeTransaction S stay newRoomId) trivial
    (dropKeys db S now "room_change")
  have hkeys : k.keyId ∈ (exec (.changeTransaction S stay newRoomId)
      (dropKeys db S now "room_change")).2.revocationList ↔ k.keyId ∈ db.revocationList := by
    rw [Db.revocationList, hmove]
    exact revoked_dropKeys hk hne now "room_change"
  rw [hrun]
  rcases hx : exec (.changeTransaction S stay newRoomId) (dropKeys db S now "room_change")
    with ⟨e | newRoom, db₂⟩ <;> rw [hx] at hkeys
  · exact hkeys
  · have hissue := revocations_run (p := issueForStay E sk S now fresh)
      (issueForStay_only trivial fun _ _ => trivial) db₂
    have hsame : k.keyId ∈ ((issueForStay E sk S now fresh).run db₂).2.revocationList ↔
        k.keyId ∈ db.revocationList := by
      rw [Db.revocationList, hissue]
      exact hkeys
    simp only
    rcases hi : (issueForStay E sk S now fresh).run db₂ with ⟨e | issued, db₃⟩ <;> rw [hi] at hsame
    · exact hsame
    · exact hsame

/-- **A call revokes no key of a stay it is not about.** -/
theorem revoked_perform {c : StoreCall} (hc : c.stayId? ≠ some S) {k : KeyRow} (hk : k ∈ db.keys)
    (hs : k.stayId = S) :
    k.keyId ∈ (perform E sk c db).2.revocationList ↔ k.keyId ∈ db.revocationList := by
  have hsame (honly : (c.program E sk).Only Stmt.RevokesNothing) :
      k.keyId ∈ (perform E sk c db).2.revocationList ↔ k.keyId ∈ db.revocationList := by
    rw [perform, Db.revocationList, revocations_run honly]
    exact Iff.rfl
  have hne {stayId : String} (h : some stayId ≠ some S) : k.stayId ≠ stayId :=
    fun he => h (by rw [← he, hs])
  cases c with
  | addGuest | addRoom | addStay => exact hsame ⟨trivial, fun _ => trivial⟩
  | assignRoom stayId preferred =>
    exact hsame ((assignRoom_only trivial (fun _ _ => trivial) preferred).bind fun _ => trivial)
  | checkin => exact hsame ((checkin_only trivial trivial fun _ _ => trivial).bind fun _ => trivial)
  | issueForStay => exact hsame ((issueForStay_only trivial fun _ _ => trivial).bind fun _ => trivial)
  | refreshKey =>
    exact hsame ((refreshKey_only trivial trivial fun _ _ => trivial).bind fun _ => trivial)
  | changeRoom stayId now newRoomId fresh =>
    simp only [perform, StoreCall.program, run_return]
    exact revoked_changeRoom hk (hne hc) newRoomId
  | checkout stayId now =>
    simp only [perform, StoreCall.program, run_return]
    exact revoked_checkout hk (hne hc) now

/-! ## The decision of a lock -/

/-- Of the snapshot a lock reads whether the key of the token is in it. -/
theorem Genuine.evaluateStatic_congr {k : KeyRow} (h : Genuine E sk db k) {revoked revoked' : Finset PyStr}
    (hiff : py k.keyId ∈ revoked' ↔ py k.keyId ∈ revoked) (pub : PublicKey) (property : String)
    (room now : Int) :
    evaluateStatic E k.token pub property room now revoked'
      = evaluateStatic E k.token pub property room now revoked := by
  obtain ⟨read, stay, fresh, issued, h⟩ := h
  have hid : ((stayCredential read k.stayId k.roomId k.issuedAt fresh).fields E fresh).keyId
      = py k.keyId := by
    obtain ⟨-, bytes, -, hissued⟩ := issueCredential_ok h.credential
    rw [h.keyId, hissued]
    rfl
  obtain ⟨bytes, hbytes, heval⟩ := evaluateStatic_issue h.credential pub property room now revoked
  obtain ⟨bytes', hbytes', heval'⟩ := evaluateStatic_issue h.credential pub property room now revoked'
  rw [hbytes] at hbytes'
  cases hbytes'
  rw [h.token, heval, heval']
  simp only [staticChecks, hid, hiff]

theorem mem_revocationTexts {id : String} :
    py id ∈ (db.revocationList.map py).toFinset ↔ id ∈ db.revocationList := by
  simp [py_inj]

/-! ## Checkouts commute -/

/-- The same database, up to the order of the revocations. -/
structure SameUpToOrder (db db' : Db) : Prop where
  guests : db'.guests = db.guests
  rooms : db'.rooms = db.rooms
  stays : db'.stays = db.stays
  assignments : db'.assignments = db.assignments
  keys : db'.keys = db.keys
  revocations : db'.revocations.rows.Perm db.revocations.rows

/-- The database after the checkout of a stay that is there. -/
def checkedOut (db : Db) (S : String) (now : Int) : Db :=
  ((dropKeys db S now "checkout").retireAssignments S).setStayStatus S .checkedOut

theorem checkedOut_revocations (db : Db) (S : String) (now : Int) :
    (checkedOut db S now).revocations.rows = db.revocations.rows ++
      ((db.activeKeys S).filter fun k => k ∉ db.revocationList).map fun k => ⟨k, now, "checkout"⟩ :=
  Db.revokeAll_rows now "checkout" (Db.activeKeys_nodup db S)

theorem checkedOut_eq (db : Db) (S : String) (now : Int) : ∃ revocations,
    checkedOut db S now = { db with
      keys := (db.retireKeys S).keys
      assignments := (db.retireAssignments S).assignments
      stays := (db.setStayStatus S .checkedOut).stays
      revocations } := by
  obtain ⟨r, hr⟩ := dropKeys_eq db S now "checkout"
  exact ⟨r, by rw [checkedOut, hr]; rfl⟩

/-- Retiring the keys of a stay leaves the active keys of another. -/
theorem activeKeys_retireKeys_of_ne (hne : S ≠ S') (db : Db) :
    (db.retireKeys S).activeKeys S' = db.activeKeys S' := by
  unfold Db.activeKeys Db.retireKeys Table.updateWhere
  simp only
  induction db.keys.rows with
  | nil => rfl
  | cons k rows ih =>
    rw [List.map_cons, List.filter_cons, List.filter_cons]
    by_cases hS : k.stayId = S
    · have hS' : k.stayId ≠ S' := fun h => hne (hS.symm.trans h)
      cases k.active <;> simpa [hS, hS', hne] using ih
    · by_cases hS' : (k.stayId = S' && k.active) = true
      · simpa [hS, hS'] using ih
      · simpa [hS, hS'] using ih

theorem activeKeys_checkedOut (hne : S ≠ S') (db : Db) (now : Int) :
    (checkedOut db S now).activeKeys S' = db.activeKeys S' := by
  obtain ⟨r, hr⟩ := checkedOut_eq db S now
  rw [hr]
  exact activeKeys_retireKeys_of_ne hne db

theorem getStay_checkedOut (hne : S ≠ S') (db : Db) (now : Int) :
    (checkedOut db S now).getStay S' = db.getStay S' := by
  obtain ⟨r, hr⟩ := checkedOut_eq db S now
  rw [hr]
  exact (sameRows_setStayStatus hne .checkedOut).stay

/-- The keys one checkout revokes are those it would revoke after another. -/
theorem checkedOut_revocations_after (hne : S ≠ S') (db : Db) (now now' : Int) :
    (checkedOut (checkedOut db S now) S' now').revocations.rows = db.revocations.rows ++
      (((db.activeKeys S).filter fun k => k ∉ db.revocationList).map fun k => ⟨k, now, "checkout"⟩) ++
        ((db.activeKeys S').filter fun k => k ∉ db.revocationList).map fun k => ⟨k, now', "checkout"⟩ := by
  have hfilter : ((db.activeKeys S').filter fun k => k ∉ (checkedOut db S now).revocationList)
      = (db.activeKeys S').filter fun k => k ∉ db.revocationList := by
    refine List.filter_congr fun id hid => ?_
    obtain ⟨k, hk, rfl, hs, -⟩ := Db.mem_activeKeys.mp hid
    have hiff : k.keyId ∈ (checkedOut db S now).revocationList ↔ k.keyId ∈ db.revocationList :=
      revoked_dropKeys hk (hs.trans_ne hne.symm) now "checkout"
    simp only [hiff]
  rw [checkedOut_revocations, activeKeys_checkedOut hne, hfilter, checkedOut_revocations]

/-- The states after both checkouts. -/
theorem checkedOut_comm (hne : S ≠ S') (db : Db) (now now' : Int) :
    SameUpToOrder (checkedOut (checkedOut db S now) S' now')
      (checkedOut (checkedOut db S' now') S now) := by
  have hkeys : ((db.retireKeys S').retireKeys S).keys = ((db.retireKeys S).retireKeys S').keys := by
    refine Table.updateWhere_comm (by exact fun _ => rfl) (by exact fun _ => rfl) ?_ ?_ ?_
    · intro k hk
      simp only [Bool.and_eq_true, decide_eq_true_eq] at hk
      simp [hk.1, hne.symm]
    · intro k _
      simp
    · intro k _
      simp
  have hassignments : ((db.retireAssignments S').retireAssignments S).assignments
      = ((db.retireAssignments S).retireAssignments S').assignments := by
    refine Table.updateWhere_comm (by exact fun _ => rfl) (by exact fun _ => rfl) ?_ ?_ ?_
    · intro a ha
      simp only [Bool.and_eq_true, decide_eq_true_eq] at ha
      simp [ha.1, hne.symm]
    · intro a _
      simp
    · intro a _
      simp
  have hstays : ((db.setStayStatus S' .checkedOut).setStayStatus S .checkedOut).stays
      = ((db.setStayStatus S .checkedOut).setStayStatus S' .checkedOut).stays := by
    refine Table.updateWhere_comm (by exact fun _ => rfl) (by exact fun _ => rfl) ?_ ?_ ?_
    all_goals
      intro s hs
      simp only [decide_eq_true_eq] at hs
      simp [hs, hne, hne.symm]
  have hrows := checkedOut_revocations_after hne db now now'
  have hrows' := checkedOut_revocations_after hne.symm db now' now
  obtain ⟨r₁, h₁⟩ := checkedOut_eq db S now
  obtain ⟨r₂, h₂⟩ := checkedOut_eq (checkedOut db S now) S' now'
  obtain ⟨r₃, h₃⟩ := checkedOut_eq db S' now'
  obtain ⟨r₄, h₄⟩ := checkedOut_eq (checkedOut db S' now') S now
  refine ⟨?_, ?_, ?_, ?_, ?_, ?_⟩
  · rw [h₄, h₂, h₃, h₁]
  · rw [h₄, h₂, h₃, h₁]
  · rw [h₄, h₂, h₃, h₁]
    exact hstays
  · rw [h₄, h₂, h₃, h₁]
    exact hassignments
  · rw [h₄, h₂, h₃, h₁]
    exact hkeys
  · rw [hrows, hrows', List.append_assoc, List.append_assoc]
    exact List.perm_append_comm.append_left _

/-- What a checkout does: it reads whether the stay is there, and returns its
active keys. -/
theorem checkout_cases (S : String) (now : Int) (db : Db) :
    (checkout S now).run db = if (db.getStay S).isSome then (.ok (db.activeKeys S), checkedOut db S now)
      else (.error (.notFound s!"stay {S} not found"), db) := by
  cases hs : db.getStay S with
  | none => rw [checkout, run_getStay_bind, hs]; rfl
  | some stay => exact checkout_run hs

/-- **Checkouts of two stays commute:** each returns what it returns when it
goes first, and the databases are the same up to the order of the
revocations. -/
theorem checkout_comm (hne : S ≠ S') (db : Db) (now now' : Int) :
    ((checkout S now).run ((checkout S' now').run db).2).1 = ((checkout S now).run db).1 ∧
    ((checkout S' now').run ((checkout S now).run db).2).1 = ((checkout S' now').run db).1 ∧
    SameUpToOrder ((checkout S' now').run ((checkout S now).run db).2).2
      ((checkout S now).run ((checkout S' now').run db).2).2 := by
  have hrefl (db : Db) : SameUpToOrder db db := ⟨rfl, rfl, rfl, rfl, rfl, .refl _⟩
  simp only [checkout_cases]
  cases hs : db.getStay S with
  | none =>
    cases hs' : db.getStay S' with
    | none => simp [hs, hs', hrefl]
    | some stay' => simp [hs, hs', getStay_checkedOut hne.symm, hrefl]
  | some stay =>
    cases hs' : db.getStay S' with
    | none => simp [hs, hs', getStay_checkedOut hne, hrefl]
    | some stay' =>
      simp only [hs, hs', Option.isSome_some, if_true, getStay_checkedOut hne, getStay_checkedOut hne.symm,
        activeKeys_checkedOut hne, activeKeys_checkedOut hne.symm, true_and]
      exact checkedOut_comm hne db now now'

/-! ## The calls on one stay -/

/-- **Operations on one stay do not touch another.** In every state that any
number of clients can reach, a call on the stay `S` leaves the rows of
another stay and the revocation of its keys as they are, so that every
synced lock decides on its tokens as before; and two checkouts commute. -/
theorem stays_independent (h : ReachedByClients E sk db) (hne : S ≠ S') :
    (∀ c : StoreCall, c.stayId? = some S →
      SameRows S' db (perform E sk c db).2 ∧
      ∀ k ∈ db.keys, k.stayId = S' →
        (k.keyId ∈ (perform E sk c db).2.revocationList ↔ k.keyId ∈ db.revocationList) ∧
        ∀ (l : LockVerifier) (now : Int),
          evaluateStatic E k.token l.propertyPub l.propertyId l.roomId now
              (l.syncRevocations ((perform E sk c db).2.revocationList.map py)).revoked
            = evaluateStatic E k.token l.propertyPub l.propertyId l.roomId now
              (l.syncRevocations (db.revocationList.map py)).revoked) ∧
    ∀ now now' : Int,
      ((checkout S now).run ((checkout S' now').run db).2).1 = ((checkout S now).run db).1 ∧
      ((checkout S' now').run ((checkout S now).run db).2).1 = ((checkout S' now').run db).1 ∧
      SameUpToOrder ((checkout S' now').run ((checkout S now).run db).2).2
        ((checkout S now).run ((checkout S' now').run db).2).2 := by
  refine ⟨fun c hc => ?_, checkout_comm hne db⟩
  have hother : c.stayId? ≠ some S' := by
    rw [hc]
    exact fun he => hne (Option.some.inj he)
  refine ⟨sameRows_perform hother, fun k hk hs => ?_⟩
  have hiff : k.keyId ∈ (perform E sk c db).2.revocationList ↔ k.keyId ∈ db.revocationList :=
    revoked_perform hother hk hs
  refine ⟨hiff, fun l now => ?_⟩
  refine (keysGenuine_pool h k hk).evaluateStatic_congr ?_ l.propertyPub l.propertyId l.roomId now
  simp only [LockVerifier.syncRevocations, mem_revocationTexts, hiff]

/-- The guest of `s_1` leaves: the key of `s_2` is not touched. -/
theorem stays_independent_handover :
    ∃ k ∈ (runCalls Env.sample sampleKey handoverCalls).2.keys, k.stayId = "s_2" ∧
      (perform Env.sample sampleKey (.checkout "s_1" 1900)
        (runCalls Env.sample sampleKey handoverCalls).2).2.revocationList = ["k1"] ∧
      k.keyId ∉ (perform Env.sample sampleKey (.checkout "s_1" 1900)
        (runCalls Env.sample sampleKey handoverCalls).2).2.revocationList ∧
      SameRows "s_2" (runCalls Env.sample sampleKey handoverCalls).2
        (perform Env.sample sampleKey (.checkout "s_1" 1900)
          (runCalls Env.sample sampleKey handoverCalls).2).2 := by
  have hs := History.of_runAll (perform Env.sample sampleKey) Db.empty handoverCalls
  have hne : "s_1" ≠ "s_2" := by decide
  obtain ⟨hcalls, -⟩ := stays_independent (.of_history hs) hne
  obtain ⟨hrows, hkeys⟩ := hcalls (.checkout "s_1" 1900) rfl
  have hactive : "k2" ∈ (runCalls Env.sample sampleKey handoverCalls).2.activeKeys "s_2" := by decide
  obtain ⟨k, hk, -, hstay, -⟩ := Db.mem_activeKeys.mp hactive
  obtain ⟨hiff, -⟩ := hkeys k hk hstay
  have hnone : (runCalls Env.sample sampleKey handoverCalls).2.revocationList = [] := by decide
  refine ⟨k, hk, hstay, by decide, fun hrev => ?_, hrows⟩
  have := hiff.mp hrev
  rw [hnone] at this
  cases this

end StayKey.Store
