/-
StayKey.Service.CrashedCheckout — a process that dies in the middle of a
checkout.

The statements of the checkout handler are committed one by one: the stay is
read twice, then the active keys are read, deactivated, and revoked in turn.
Deactivated keys are not found again, so a checkout that is repeated after
the crash revokes those keys only that were still active.
`crashed_checkout_closes_iff` says for which moments of the crash it makes
up for what was missed. A crash between the deactivation and the last
revocation leaves a key behind that no later request revokes, in any run of
the process that comes next, and that passes the checks of its door until it
expires.
-/
import StayKey.Program.Restart
import StayKey.Service.DeskRefinement
import StayKey.Service.RevocationSync
import StayKey.Store.KeyRows
import StayKey.Store.RevocationList

namespace StayKey.Service

open StayKey.Codec StayKey.Door StayKey.Store StayKey.Program

variable {E : Env} {sk : PrivateKey} {propertyId : String} {db : Db} {S : String} {t t' : Int} {n : Nat}

/-- What the tables are when the process dies after `n` statements of a
checkout request. -/
def cutOff (S : String) (t : Int) (n : Nat) (db : Db) : Db := (checkoutRequest S t).steps exec n db

/-- The next process, on these tables. -/
def AppState.afterCrash (E : Env) (s : AppState) (S : String) (t : Int) (n : Nat) : AppState :=
  { AppState.new E s.propertyId s.propertySk with db := cutOff S t n s.db }

/-! ## How far the checkout came -/

theorem steps_extends {α : Type} (p : Call α) (n : Nat) (db : Db) : Extends db (p.steps exec n db) :=
  Prog.steps_preserves exec (P := fun _ => True) (I := Extends db)
    (fun op _ _ h => h.trans (extends_exec op _)) (Prog.only_true p) (.refl db) n

theorem steps_grows {α : Type} (p : Call α) (n : Nat) (db : Db) : Grows db (p.steps exec n db) :=
  Prog.steps_preserves exec (P := fun _ => True) (I := Grows db)
    (fun op db' _ h => Grows.trans db db' _ h (grows_exec op db')) (Prog.only_true p) (.refl db) n

/-- The loop was cut off after some of the keys. -/
theorem steps_revokeKeys {α : Type} (rest : Unit → Call α) (reason : String) (keyIds : List String)
    (hn : n ≤ keyIds.length) :
    (revokeKeys t reason keyIds >>= rest).steps exec n db = db.revokeAll t reason (keyIds.take n) := by
  induction keyIds generalizing db n with
  | nil =>
    obtain rfl : n = 0 := Nat.le_zero.mp hn
    rfl
  | cons keyId keyIds ih =>
    cases n with
    | zero => rfl
    | succ n => exact ih (Nat.le_of_succ_le_succ hn)

/-- The loop has come to its end. -/
theorem steps_after_revokeKeys {α : Type} (rest : Unit → Call α) (reason : String)
    (keyIds : List String) (n : Nat) :
    (revokeKeys t reason keyIds >>= rest).steps exec (keyIds.length + n) db
      = (rest ()).steps exec n (db.revokeAll t reason keyIds) := by
  induction keyIds generalizing db with
  | nil => rw [List.length_nil, Nat.zero_add]; rfl
  | cons keyId keyIds ih =>
    rw [List.length_cons, Nat.succ_add]
    exact ih

/-- What follows the loop of `checkout`. -/
def checkoutTail (S : String) (revoked : List String) : Call (List String) := do
  Stmt.call (.retireAssignments S)
  Stmt.call (.setStayStatus S .checkedOut)
  return revoked

/-- The first three statements: the stay is read, the keys are read, the
keys are deactivated. -/
theorem steps_checkout_begin {stay : StayRow} (hstay : db.getStay S = some stay) (hn : n < 3) :
    (Store.checkout S t).steps exec n db = db := by
  have hread (n : Nat) : (Store.checkout S t).steps exec (n + 1) db
      = (do
          let revoked ← deactivateKeysForStay S
          revokeKeys t "checkout" revoked
          checkoutTail S revoked : Call (List String)).steps exec n db := by
    have hcall : exec (.getStay S) db = (.ok (db.getStay S), db) := rfl
    rw [Store.checkout]
    refine (Prog.steps_call_ok exec hcall n).trans ?_
    rw [hstay]
    rfl
  cases n with
  | zero => rfl
  | succ n =>
    rw [hread]
    cases n with
    | zero => rfl
    | succ n =>
      cases n with
      | zero => rfl
      | succ n => omega

/-- The rest of them. -/
theorem steps_checkout_end {stay : StayRow} (hstay : db.getStay S = some stay) (n : Nat) :
    (Store.checkout S t).steps exec (n + 3) db
      = (revokeKeys t "checkout" (db.activeKeys S) >>= fun _ => checkoutTail S (db.activeKeys S)).steps
          exec n (db.retireKeys S) := by
  have hcall : exec (.getStay S) db = (.ok (db.getStay S), db) := rfl
  rw [Store.checkout]
  refine (Prog.steps_call_ok exec hcall (n + 2)).trans ?_
  rw [hstay]
  rfl

/-- A stay with no active keys gets none from a program that adds none. -/
theorem activeKeys_steps {α : Type} {p : Call α} (hp : p.Only Stmt.AddsNoKey)
    (hnone : db.activeKeys S = []) (n : Nat) : (p.steps exec n db).activeKeys S = [] := by
  refine Prog.steps_preserves exec (I := fun db => db.activeKeys S = []) ?_ hp hnone n
  intro op db hop hnone
  refine Db.activeKeys_eq_nil_iff.mpr fun k hk hstay => ?_
  obtain ⟨k₀, hk₀, rfl | rfl⟩ | rfl := mem_keys_exec op hk
  · exact Db.activeKeys_eq_nil_iff.mp hnone k hk₀ hstay
  · rfl
  · exact hop.elim

/-- The request reads the stay once more, before the call does. -/
theorem cutOff_eq {stay : StayRow} (hstay : db.getStay S = some stay) (n : Nat) :
    cutOff S t n db = (Store.checkout S t).steps exec (n - 1) db := by
  cases n with
  | zero => rfl
  | succ n =>
    have hcall : exec (.getStay S) db = (.ok (db.getStay S), db) := rfl
    rw [cutOff, checkoutRequest]
    refine (Prog.steps_call_ok exec hcall n).trans ?_
    rw [hstay]
    exact Prog.steps_map exec (fun revoked => (revoked, stay.roomId)) (Store.checkout S t) n db

theorem getStay_cutOff {stay : StayRow} (hstay : db.getStay S = some stay) (t : Int) (n : Nat) :
    ∃ stay', (cutOff S t n db).getStay S = some stay' := by
  obtain ⟨stay', hstay', -⟩ := (steps_extends (checkoutRequest S t) n db).stays S stay hstay
  exact ⟨stay', hstay'⟩

/-- **Before the keys are deactivated** nothing is changed. -/
theorem cutOff_begin {stay : StayRow} (hstay : db.getStay S = some stay) (hn : n < 4) :
    cutOff S t n db = db := by
  rw [cutOff_eq hstay]
  exact steps_checkout_begin hstay (by omega)

/-- **After it**, as many keys are revoked as the loop came to. -/
theorem cutOff_loop {stay : StayRow} (hstay : db.getStay S = some stay) {j : Nat}
    (hj : j ≤ (db.activeKeys S).length) :
    cutOff S t (j + 4) db = (db.retireKeys S).revokeAll t "checkout" ((db.activeKeys S).take j) := by
  rw [cutOff_eq hstay, show j + 4 - 1 = j + 3 by omega, steps_checkout_end hstay, steps_revokeKeys _ _ _ hj]

/-- **When the loop has ended** what remains are the room and the status. -/
theorem cutOff_tail {stay : StayRow} (hstay : db.getStay S = some stay) (m : Nat) :
    cutOff S t ((db.activeKeys S).length + m + 4) db
      = (checkoutTail S (db.activeKeys S)).steps exec m (dropKeys db S t "checkout") := by
  rw [cutOff_eq hstay, show (db.activeKeys S).length + m + 4 - 1 = (db.activeKeys S).length + m + 3 by omega,
    steps_checkout_end hstay, steps_after_revokeKeys]
  rfl

theorem checkoutTail_only {P : Stmt → Prop} (hassignments : P (.retireAssignments S))
    (hstatus : P (.setStayStatus S .checkedOut)) (revoked : List String) : (checkoutTail S revoked).Only P :=
  ⟨hassignments, fun _ => ⟨hstatus, fun _ => trivial⟩⟩

/-- A stay that has no active keys any more gets none. -/
theorem activeKeys_cutOff {stay : StayRow} (hstay : db.getStay S = some stay) (hn : 4 ≤ n) :
    (cutOff S t n db).activeKeys S = [] := by
  obtain ⟨j, rfl⟩ := Nat.exists_eq_add_of_le' hn
  have honly : (revokeKeys t "checkout" (db.activeKeys S) >>= fun _ => checkoutTail S (db.activeKeys S)).Only
      Stmt.AddsNoKey :=
    (revokeKeys_only (fun _ _ _ => trivial) "checkout" (db.activeKeys S)).bind fun _ =>
      checkoutTail_only trivial trivial _
  rw [cutOff_eq hstay, show j + 4 - 1 = j + 3 by omega, steps_checkout_end hstay,
    activeKeys_steps honly (activeKeys_retireKeys db S)]

/-- What the cut-off tables have revoked. -/
theorem mem_revocationList_cutOff {stay : StayRow} (hstay : db.getStay S = some stay) {j : Nat}
    (hj : j ≤ (db.activeKeys S).length) {keyId : String} :
    keyId ∈ (cutOff S t (j + 4) db).revocationList ↔
      keyId ∈ db.revocationList ∨ keyId ∈ (db.activeKeys S).take j := by
  rw [cutOff_loop hstay hj]
  exact Db.mem_revocationList_revokeAll

/-! ## Tables that are cut off are still a desk -/

theorem agree_cutOff (h : Agree db) (S : String) (t : Int) (n : Nat) : Agree (cutOff S t n db) := by
  cases hstay : db.getStay S with
  | none =>
    have hcall : exec (.getStay S) db = (.ok (db.getStay S), db) := rfl
    have hsame : cutOff S t n db = db := by
      cases n with
      | zero => rfl
      | succ n =>
        rw [cutOff, checkoutRequest]
        refine (Prog.steps_call_ok exec hcall n).trans ?_
        rw [hstay]
        exact Prog.steps_of_ended exec (o := .error _) rfl n db
    rw [hsame]
    exact h
  | some stay =>
    by_cases hbegin : n < 4
    · rw [cutOff_begin hstay hbegin]
      exact h
    obtain ⟨j, rfl⟩ := Nat.exists_eq_add_of_le' (Nat.le_of_not_lt hbegin)
    by_cases hj : j ≤ (db.activeKeys S).length
    · rw [cutOff_loop hstay hj]
      exact agree_revokeAll (agree_retireKeys h S) t "checkout" fun _ hid =>
        retired_of_activeKeys (List.mem_of_mem_take hid)
    · obtain ⟨m, rfl⟩ := Nat.exists_eq_add_of_le (Nat.le_of_not_le hj)
      rw [cutOff_tail hstay]
      exact Prog.steps_preserves exec (P := fun op => ∀ db, Agree db → Agree (exec op db).2)
        (fun op db hop h => hop db h)
        (checkoutTail_only (fun _ h => agree_retireAssignments h S) (fun _ h => agree_setStayStatus h S _) _)
        (agree_dropKeys h S t "checkout") m

theorem deskSound_cutOff (h : DeskSound db) (S : String) (t : Int) (n : Nat) : DeskSound (cutOff S t n db) := by
  have honly : (checkoutRequest S t).Only ProperStmt := by
    refine ⟨trivial, fun stay => ?_⟩
    cases stay with
    | none => trivial
    | some stay =>
      exact (checkout_only trivial trivial trivial (fun _ _ _ => trivial) trivial trivial).bind
        fun _ => trivial
  obtain ⟨hcalendar, hproper⟩ : NoDoubleBooking (cutOff S t n db) ∧ ProperStays (cutOff S t n db) :=
    Prog.steps_preserves exec (I := fun db => NoDoubleBooking db ∧ ProperStays db)
      (fun op _ hop h => ⟨noDoubleBooking_exec op h.1, properStays_exec hop h.2⟩) honly ⟨h.calendar, h.proper⟩ n
  exact ⟨agree_cutOff h.agree S t n, hcalendar, hproper⟩

theorem atDesk_afterCrash {s : AppState} (h : AtDesk E propertyId sk s) (S : String) (t : Int) (n : Nat) :
    AtDesk E propertyId sk (s.afterCrash E S t n) := by
  obtain ⟨hsound, hinstall⟩ := h
  refine ⟨deskSound_cutOff hsound S t n, ?_⟩
  rw [AppState.afterCrash, hinstall.propertyId, hinstall.propertySk]
  exact ⟨rfl, rfl, rfl, rfl⟩

/-! ## The checkout is repeated -/

/-- What a repeated checkout answers: the keys that it still found active. -/
theorem repeated_answer {s : AppState} {stay : StayRow} (hstay : s.db.getStay S = some stay) (t : Int) (n : Nat)
    (draw : Draw) : revokedIds? (handle E (.checkout S, draw) (s.afterCrash E S t n)).1
      = some (if n < 4 then s.db.activeKeys S else []) := by
  obtain ⟨stay', hstay'⟩ := getStay_cutOff hstay t n
  have hactive : (cutOff S t n s.db).activeKeys S = if n < 4 then s.db.activeKeys S else [] := by
    by_cases hn : n < 4
    · rw [if_pos hn, cutOff_begin hstay hn]
    · rw [if_neg hn, activeKeys_cutOff hstay (Nat.le_of_not_lt hn)]
  obtain ⟨db', hrun⟩ : ∃ db', (checkoutRequest S draw.clock).run (cutOff S t n s.db)
      = (.ok ((cutOff S t n s.db).activeKeys S, stay'.roomId), db') := by
    rw [checkoutRequest, run_getStay_bind, hstay']
    simp only
    rw [run_bind, checkout_run hstay']
    exact ⟨_, rfl⟩
  simp only [handle, AppState.run, AppState.afterCrash, nowOr, Option.getD_none, hrun, revokedIds?, hactive]

/-- **What a repeated checkout makes up for**: with it, all keys that were
active are revoked, unless the crash came in the loop. -/
theorem repeated_revokes {s : AppState} {stay : StayRow} (hstay : s.db.getStay S = some stay)
    (hn : n < 4 ∨ (s.db.activeKeys S).length + 4 ≤ n) (draw : Draw) {keyId : String}
    (hactive : keyId ∈ s.db.activeKeys S) :
    keyId ∈ (handle E (.checkout S, draw) (s.afterCrash E S t n)).2.db.revocationList := by
  obtain ⟨stay', hstay'⟩ := getStay_cutOff hstay t n
  have hdb : (handle E (.checkout S, draw) (s.afterCrash E S t n)).2.db
      = ((dropKeys (cutOff S t n s.db) S draw.clock "checkout").retireAssignments S).setStayStatus S
          .checkedOut := by
    rw [handle_db]
    simp only [storeProgram, dropResult_run, AppState.afterCrash]
    rw [checkout_run hstay']
  have hmem : keyId ∈ (handle E (.checkout S, draw) (s.afterCrash E S t n)).2.db.revocationList ↔
      keyId ∈ (cutOff S t n s.db).revocationList ∨ keyId ∈ (cutOff S t n s.db).activeKeys S := by
    rw [hdb]
    exact Db.mem_revocationList_revokeAll
  rw [hmem]
  obtain hbegin | hend := hn
  · rw [cutOff_begin hstay hbegin]
    exact .inr hactive
  · obtain ⟨m, rfl⟩ := Nat.exists_eq_add_of_le hend
    refine .inl ?_
    rw [show (s.db.activeKeys S).length + 4 + m = (s.db.activeKeys S).length + m + 4 by omega, cutOff_tail hstay]
    exact (steps_grows _ m _).mem (Db.mem_revocationList_revokeAll.mpr (.inr hactive))

/-- **The key whose turn it would have been** is inactive, and not revoked. -/
theorem cutOff_leaves {stay : StayRow} (hstay : db.getStay S = some stay) (hagree : Agree db)
    (hn : ¬ (n < 4 ∨ (db.activeKeys S).length + 4 ≤ n)) :
    ∃ k ∈ db.keys, k.stayId = S ∧ k.active = true ∧
      { k with active := false } ∈ (cutOff S t n db).keys ∧
      k.keyId ∉ (cutOff S t n db).revocationList := by
  obtain ⟨hbegin, hend⟩ := not_or.mp hn
  obtain ⟨j, rfl⟩ := Nat.exists_eq_add_of_le' (Nat.le_of_not_lt hbegin)
  have hj : j < (db.activeKeys S).length := by omega
  obtain ⟨k, hk, hid, hS, hact⟩ := Db.mem_activeKeys.mp (List.getElem_mem hj)
  refine ⟨k, hk, hS, hact, ?_, ?_⟩
  · obtain ⟨revocations, hdb⟩ := Db.revokeAll_eq (db.retireKeys S) t "checkout" ((db.activeKeys S).take j)
    rw [cutOff_loop hstay hj.le, hdb]
    exact Db.mem_retireKeys.mpr ⟨k, hk, by rw [if_pos hS]⟩
  · rw [mem_revocationList_cutOff hstay hj.le]
    rintro (hold | htaken)
    · exact hagree.keyUnrevoked k hk hact hold
    · obtain ⟨i, hi, hsame⟩ := List.mem_take_iff_getElem.mp htaken
      have hij := (Db.activeKeys_nodup db S).getElem_inj_iff.mp (hsame.trans hid)
      omega

/-! ## What the doors make of it -/

/-- A call that stores genuine keys keeps the table genuine. -/
theorem keysGenuine_run {α : Type} {p : Call α} (hp : IssuesGenuine E sk p) (hdb : KeysGenuine E sk db) :
    KeysGenuine E sk (p.run db).2 :=
  (hp db).run_keeps Extends.refl keysGenuine_exec hdb

/-- Every row of the key table is genuine in every run. -/
theorem keysGenuine_api {h : List ApiEntry} {s : AppState} (hs : ApiHistory E propertyId sk h s) :
    KeysGenuine E sk s.db := by
  have hinv : StoreInvariant E sk propertyId AnyCheckin (KeysGenuine E sk) :=
    { empty := fun k hk => absurd hk (Table.notMem_empty k)
      addGuest := fun {db db' guestId name email} hdb hadd => by
        have hrow := keysGenuine_exec (.addGuest guestId name email) db (fun _ hk => by cases hk) hdb
        rwa [exec, hadd] at hrow
      addRoom := fun {db db' roomId property number roomType} hdb hadd => by
        have hrow := keysGenuine_exec (.addRoom roomId property number roomType) db
          (fun _ hk => by cases hk) hdb
        rwa [exec, hadd] at hrow
      addStay := fun {db db' stayId guestId roomType checkIn checkOut} hdb _ hadd => by
        have hrow := keysGenuine_exec (.addStay stayId guestId propertyId roomType checkIn checkOut) db
          (fun _ hk => by cases hk) hdb
        rwa [exec, hadd] at hrow
      assignRoom := fun {db stayId preferred} hdb _ => keysGenuine_run
        (issuesGenuine_of_only (assignRoom_only trivial (fun _ _ => trivial) preferred)) hdb
      checkin := fun hdb _ => keysGenuine_run checkin_genuine hdb
      refreshKey := fun hdb => keysGenuine_run refreshKey_genuine hdb
      changeRoom := fun {db stayId now newRoomId fresh} hdb =>
        keysGenuine_run (changeRoom_genuine newRoomId) hdb
      checkout := fun hdb => keysGenuine_run (issuesGenuine_of_only
        (checkout_only trivial trivial trivial (fun _ _ _ => trivial) trivial trivial)) hdb }
  exact (hinv.holds hs fun e _ => requestOk_any e.request).1

/-- **A crash in a checkout can leave keys behind for good.** Say that the
process dies after `n` statements of a checkout request, and that another
one is started. A checkout that is repeated there always answers, with all
keys of the stay if none was deactivated before the crash and with none
otherwise. If the crash came before the deactivation or after the last
revocation, the doors then refuse all keys that were active; if it came in
between, one of these keys is in no revocation list of any later run,
whatever is asked there, and passes the checks of its door in its whole
window. -/
theorem crashed_checkout_closes_iff (hE : E.ed.Correct) {h : List ApiEntry} {s : AppState}
    (hs : ApiHistory E propertyId sk h s) {stay : StayRow} (hstay : s.db.getStay S = some stay)
    (t : Int) (n : Nat) (draw : Draw) :
    revokedIds? (handle E (.checkout S, draw) (s.afterCrash E S t n)).1
        = some (if n < 4 then s.db.activeKeys S else []) ∧
    ((n < 4 ∨ (s.db.activeKeys S).length + 4 ≤ n) →
      ∀ k ∈ s.db.keys, k.stayId = S → k.active = true → ∀ now,
        ¬ PassesStatic E k.token (E.ed.publicKey sk) stay.propertyId k.roomId now
          ((handle E (.checkout S, draw) (s.afterCrash E S t n)).2.revocationTexts).toFinset) ∧
    (¬ (n < 4 ∨ (s.db.activeKeys S).length + 4 ≤ n) →
      ∃ k ∈ s.db.keys, k.stayId = S ∧ k.active = true ∧
        ∀ later u, History (handle E) (s.afterCrash E S t n) later u →
          k.keyId ∉ u.db.revocationList ∧ ∀ now, k.validFrom ≤ now → now ≤ k.validUntil →
            PassesStatic E k.token (E.ed.publicKey sk) stay.propertyId k.roomId now
              u.revocationTexts.toFinset) := by
  have hagree := agree_api hs
  have hpasses (k : KeyRow) (hk : k ∈ s.db.keys) (hS : k.stayId = S) (now : Int) (u : AppState) :=
    (keysGenuine_api hs k hk).passesStatic_iff hE (hS.symm ▸ hstay) stay.propertyId k.roomId now
      u.revocationTexts.toFinset
  have hlisted (u : AppState) (keyId : String) :
      py keyId ∈ u.revocationTexts.toFinset ↔ keyId ∈ u.db.revocationList := by
    rw [List.mem_toFinset, AppState.revocationTexts, List.mem_map]
    exact ⟨fun ⟨k, hk, he⟩ => py_injective he ▸ hk, fun hk => ⟨keyId, hk, rfl⟩⟩
  refine ⟨repeated_answer hstay t n draw, fun hn k hk hS hact now hpass => ?_, fun hn => ?_⟩
  · have hactive : k.keyId ∈ s.db.activeKeys S := Db.mem_activeKeys.mpr ⟨k, hk, rfl, hS, hact⟩
    exact ((hpasses k hk hS now _).mp hpass).2.2.2.2
      ((hlisted _ _).mpr (repeated_revokes hstay hn draw hactive))
  · obtain ⟨k, hk, hS, hact, hkept, hmissing⟩ := cutOff_leaves (t := t) hstay hagree hn
    refine ⟨k, hk, hS, hact, fun later u hu => ?_⟩
    -- the card is lapsed on the tables that were cut off
    have hdesk := atDesk_afterCrash ((desk_refines E propertyId sk).run hs).1 S t n
    have hnever : k.keyId ∉ u.db.revocationList :=
      lapsed_for_good hdesk hu (k := { k with active := false }) hkept rfl hmissing
    exact ⟨hnever, fun now hfrom huntil => (hpasses k hk hS now u).mpr
      ⟨rfl, rfl, hfrom, huntil, fun hin => hnever ((hlisted u _).mp hin)⟩⟩

/-- The guest has one key, and the process dies after it was deactivated:
the key is not revoked by the checkout that is repeated, nor by a second
check-in and checkout. -/
theorem crashed_checkout_closes_iff_sample :
    ∃ k ∈ (runRequests checkedInRequests).2.db.keys, k.stayId = "s_1" ∧ k.active = true ∧
      k.keyId ∉ (runAll (handle Env.sample) ((runRequests checkedInRequests).2.afterCrash Env.sample "s_1" 1500 4)
        [(.checkout "s_1", sampleDraw 1600 "" ""), (.checkin "s_1", sampleDraw 1700 "" "k2"),
          (.checkout "s_1", sampleDraw 1800 "" "")]).2.db.revocationList := by
  have hs : ApiHistory Env.sample "HILTON-DEMO-001" sampleKey _ (runRequests checkedInRequests).2 :=
    History.of_runAll _ _ checkedInRequests
  have hfound : ((runRequests checkedInRequests).2.db.getStay "s_1").isSome = true := by decide
  obtain ⟨stay, hstay⟩ := Option.isSome_iff_exists.mp hfound
  have hactive : (runRequests checkedInRequests).2.db.activeKeys "s_1" = ["k1"] := by decide
  have hcut : ¬ (4 < 4 ∨ ((runRequests checkedInRequests).2.db.activeKeys "s_1").length + 4 ≤ 4) := by
    rw [hactive]
    decide
  obtain ⟨k, hk, hS, hact, hlater⟩ := (crashed_checkout_closes_iff Env.sample_correct hs hstay 1500 4
    (sampleDraw 1600 "" "")).2.2 hcut
  exact ⟨k, hk, hS, hact, (hlater _ _ (History.of_runAll _ _ _)).1⟩

end StayKey.Service
