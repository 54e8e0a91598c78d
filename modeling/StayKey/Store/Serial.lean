/-
StayKey.Store.Serial — two lifecycle calls on one stay at the same time.

`checkout`, `change_room` and `refresh_key` read the stay and, past their
guards, go to its keys, its room and its status, one committed statement
after the other. Nothing keeps two of them apart: a call can go to the keys
while the other one is half done, or after the other one has checked the
stay out (`refresh_after_checkout`).

`Interferes` says that a turn does so. In the runs without such a turn the
two calls end as if one had run after the other (`lifecycle_serializable`).
-/
import StayKey.Program.Commute
import StayKey.Store.Runs
import StayKey.Store.Status

namespace StayKey.Store

open StayKey.Codec StayKey.Door StayKey.Program

variable {E : Env} {sk : PrivateKey} {S : String} {db : Db}

/-! ## The calls -/

inductive LifecycleCall where
  | checkout (now : Int)
  | changeRoom (now : Int) (newRoomId : Option Int) (fresh : Fresh)
  | refreshKey (now : Int) (fresh : Fresh)

inductive LifecycleResult where
  | checkedOut (revoked : List String)
  | roomChanged (newRoom : Int) (revoked : List String) (key : IssuedKey)
  | refreshed (key : IssuedKey)

namespace LifecycleCall

variable (E sk S)

def program : LifecycleCall → Call LifecycleResult
  | .checkout now => do return .checkedOut (← Store.checkout S now)
  | .changeRoom now newRoomId fresh => do
    let r ← Store.changeRoom E sk S now newRoomId fresh
    return .roomChanged r.1 r.2.1 r.2.2
  | .refreshKey now fresh => do return .refreshed (← Store.refreshKey E sk S now fresh)

/-- What is left of a call that has read the stay and was not refused. Its
first statement goes to the keys of the stay. -/
def body : LifecycleCall → Call LifecycleResult
  | .checkout now => do
    let checkingOut : Call (List String) := do
      let revoked ← deactivateKeysForStay S
      revokeKeys now "checkout" revoked
      Stmt.call (.retireAssignments S)
      Stmt.call (.setStayStatus S .checkedOut)
      return revoked
    return .checkedOut (← checkingOut)
  | .changeRoom now newRoomId fresh => do
    let moving : Call (Int × List String × IssuedKey) := do
      let revoked ← deactivateKeysForStay S
      revokeKeys now "room_change" revoked
      let newRoom ← moveRoom S newRoomId
      let issued ← issueForStay E sk S now fresh
      return (newRoom, revoked, issued)
    let r ← moving
    return .roomChanged r.1 r.2.1 r.2.2
  | .refreshKey now fresh => do
    let refreshing : Call IssuedKey := do
      Stmt.call (.retireKeys S)
      issueForStay E sk S now fresh
    return .refreshed (← refreshing)

end LifecycleCall

def LifecycleCall.isCheckout : LifecycleCall → Bool
  | .checkout _ => true
  | .changeRoom .. | .refreshKey .. => false

theorem exists_checkout {c : LifecycleCall} (h : c.isCheckout = true) : ∃ now, c = .checkout now := by
  cases c with
  | checkout now => exact ⟨now, rfl⟩
  | changeRoom | refreshKey => cases h

/-- What the guard of the call raises. -/
def LifecycleCall.guard (S : String) (c : LifecycleCall) (db : Db) : Option Exc :=
  match db.getStay S with
  | none => some (.notFound s!"stay {S} not found")
  | some stay =>
    if c.isCheckout = false ∧ stay.status = .checkedOut then some (.stayKey "stay already checked out")
    else none

/-- The first turn is the guard. -/
theorem next_program (c : LifecycleCall) (db : Db) : (c.program E sk S).next exec db =
    match c.guard S db with
    | some e => (.throw e, db)
    | none => (c.body E sk S, db) := by
  unfold LifecycleCall.guard
  cases hs : db.getStay S with
  | none => cases c <;> simp only [LifecycleCall.program, checkout, changeRoom, refreshKey, Stmt.call,
      Prog.call_bind, Prog.ret_bind, Prog.next, exec, hs] <;> rfl
  | some stay =>
    cases c with
    | checkout now =>
      simp only [LifecycleCall.program, checkout, Stmt.call, Prog.call_bind, Prog.ret_bind, Prog.next,
        exec, hs, LifecycleCall.isCheckout, Bool.true_eq_false, false_and, if_false]
      rfl
    | changeRoom now newRoomId fresh =>
      simp only [LifecycleCall.program, changeRoom, Stmt.call, Prog.call_bind, Prog.ret_bind, Prog.next,
        exec, hs, LifecycleCall.isCheckout, true_and]
      by_cases hst : stay.status = .checkedOut
      · rw [if_pos hst, if_pos hst]; rfl
      · rw [if_neg hst, if_neg hst]; rfl
    | refreshKey now fresh =>
      simp only [LifecycleCall.program, refreshKey, Stmt.call, Prog.call_bind, Prog.ret_bind, Prog.next,
        exec, hs, LifecycleCall.isCheckout, true_and]
      by_cases hst : stay.status = .checkedOut
      · rw [if_pos hst, if_pos hst]; rfl
      · rw [if_neg hst, if_neg hst]; rfl

theorem run_program (c : LifecycleCall) (db : Db) : (c.program E sk S).run db =
    match c.guard S db with
    | some e => (.error e, db)
    | none => (c.body E sk S).run db := by
  have hrun := Prog.run_next exec (c.program E sk S) db
  rw [next_program] at hrun
  refine hrun.symm.trans ?_
  cases c.guard S db <;> rfl

/-! ## What the calls run -/

/-- The statements of the calls on the stay `S`. -/
def Stmt.OnStay (S : String) : Stmt → Prop
  | .getStay stayId | .activeKeys stayId | .retireKeys stayId | .retireAssignments stayId
  | .changeTransaction stayId .. => stayId = S
  | .setStayStatus stayId status => stayId = S ∧ status = .checkedOut
  | .addKey row => row.stayId = S
  | .revokeKey .. => True
  | .addGuest .. | .addRoom .. | .addStay .. | .guestExists _ | .getRoom _ | .revocationList
  | .assignTransaction .. => False

theorem body_only (c : LifecycleCall) : (c.body E sk S).Only (Stmt.OnStay S) := by
  have hrevoke (keyId : String) (t : Int) (reason : String) :
      (Stmt.revokeKey keyId t reason).OnStay S := trivial
  -- the body is what follows the first statement, on a row that no guard refuses
  let row : StayRow := ⟨S, "", "", "", none, 0, 0, .reserved⟩
  cases c with
  | checkout now =>
    have h : (checkout S now).Only (Stmt.OnStay S) :=
      checkout_only rfl rfl rfl hrevoke rfl ⟨rfl, rfl⟩
    exact (h.2 (some row)).bind fun _ => trivial
  | changeRoom now newRoomId fresh =>
    have h : (changeRoom E sk S now newRoomId fresh).Only (Stmt.OnStay S) :=
      changeRoom_only (P := Stmt.OnStay S) rfl rfl rfl hrevoke (fun _ _ => rfl) (fun _ hrow => hrow) newRoomId
    exact (h.2 (some row)).bind fun _ => trivial
  | refreshKey now fresh =>
    have h : (refreshKey E sk S now fresh).Only (Stmt.OnStay S) :=
      refreshKey_only (P := Stmt.OnStay S) rfl rfl fun _ hrow => hrow
    exact (h.2 (some row)).bind fun _ => trivial

theorem body_open (c : LifecycleCall) : (c.body E sk S).outcome? = none := by
  cases c <;> rfl

/-- The calls neither make a stay nor open one that is checked out. -/
theorem getStay_onStay {op : Stmt} (hop : op.OnStay S) (db : Db) :
    ∃ f : StayRow → StayRow, (exec op db).2.getStay S = (db.getStay S).map f ∧
      ∀ row, row.status = .checkedOut → (f row).status = .checkedOut := by
  have hsame (h : (exec op db).2.getStay S = db.getStay S) :
      ∃ f : StayRow → StayRow, (exec op db).2.getStay S = (db.getStay S).map f ∧
        ∀ row, row.status = .checkedOut → (f row).status = .checkedOut :=
    ⟨id, by rw [h, Option.map_id, id], fun _ h => h⟩
  cases op with
  | getStay | activeKeys | retireKeys | retireAssignments => exact hsame rfl
  | setStayStatus stayId status =>
    obtain ⟨rfl, rfl⟩ := hop
    exact ⟨_, Db.getStay_setStayStatus .checkedOut stayId, fun row _ => by rw [if_pos rfl]⟩
  | addKey row =>
    refine hsame ?_
    simp only [exec]
    cases ha : db.addKey row with
    | error e => rfl
    | ok db' =>
      obtain ⟨-, -, keys, rfl⟩ := Db.addKey_ok ha
      rfl
  | revokeKey keyId revokedAt reason =>
    obtain ⟨r, hr⟩ := Db.revokeKey_eq db keyId revokedAt reason
    refine hsame ?_
    simp only [exec]
    rw [hr]
    rfl
  | changeTransaction stayId stay newRoomId =>
    obtain ⟨e, he, -⟩ | ⟨chosen, he, -⟩ := Db.changeTransaction_booking stayId stay newRoomId db
    · exact hsame (by rw [he])
    · rw [he]
      exact ⟨_, Db.getStay_occupied S, fun row hrow => by split <;> exact hrow⟩
  | addGuest | addRoom | addStay | guestExists | getRoom | revocationList | assignTransaction =>
    exact hop.elim

/-- What a guard raises, it raises from then on. -/
theorem guard_exec {op : Stmt} (hop : op.OnStay S) {c : LifecycleCall} {e : Exc}
    (h : c.guard S db = some e) : c.guard S (exec op db).2 = some e := by
  obtain ⟨f, hget, hkeeps⟩ := getStay_onStay hop db
  unfold LifecycleCall.guard at h ⊢
  rw [hget]
  cases hs : db.getStay S with
  | none => rw [hs] at h; exact h
  | some stay =>
    rw [hs] at h
    simp only [Option.map_some] at h ⊢
    by_cases hrefuses : c.isCheckout = false ∧ stay.status = .checkedOut
    · rw [if_pos hrefuses] at h
      rw [if_pos ⟨hrefuses.1, hkeeps stay hrefuses.2⟩]
      exact h
    · rw [if_neg hrefuses] at h
      cases h

/-- The stay is there. -/
theorem found_exec {op : Stmt} (hop : op.OnStay S) (h : ∃ stay, db.getStay S = some stay) :
    ∃ stay, (exec op db).2.getStay S = some stay := by
  obtain ⟨stay, hs⟩ := h
  obtain ⟨f, hget, -⟩ := getStay_onStay hop db
  exact ⟨f stay, by rw [hget, hs, Option.map_some]⟩

/-! ## Two checkouts -/

/-- What a checkout does once it has read the keys. -/
def Stmt.EndsStay (S : String) : Stmt → Prop
  | .retireKeys stayId | .retireAssignments stayId => stayId = S
  | .setStayStatus stayId status => stayId = S ∧ status = .checkedOut
  | .revokeKey .. => True
  | _ => False

/-- What it does if there was no active key. -/
def Stmt.EndsKeyless (S : String) (op : Stmt) : Prop :=
  op.EndsStay S ∧ ∀ keyId t reason, op ≠ .revokeKey keyId t reason

theorem result_endsStay {op : Stmt} (h : op.EndsStay S) (db db' : Db) :
    (exec op db).1 = (exec op db').1 := by
  cases op with
  | retireKeys | retireAssignments | setStayStatus | revokeKey => rfl
  | _ => exact h.elim

theorem commutes_endsStay {a b : Stmt} (ha : a.EndsStay S) (hb : b.EndsKeyless S) :
    Commutes exec b a := by
  obtain ⟨hb, hkeyless⟩ := hb
  refine ⟨fun db => result_endsStay hb _ db, fun db => result_endsStay ha _ db, fun db => ?_⟩
  cases b with
  | revokeKey keyId t reason => exact absurd rfl (hkeyless keyId t reason)
  | retireKeys _ | retireAssignments _ =>
    obtain rfl := hb
    cases a with
    | retireKeys _ | retireAssignments _ => obtain rfl := ha; rfl
    | setStayStatus _ _ => obtain ⟨rfl, rfl⟩ := ha; rfl
    | revokeKey keyId t reason =>
      simp only [exec, Db.revokeKey, Db.retireKeys, Db.retireAssignments]
      split <;> rfl
    | _ => exact ha.elim
  | setStayStatus _ _ =>
    obtain ⟨rfl, rfl⟩ := hb
    cases a with
    | retireKeys _ | retireAssignments _ => obtain rfl := ha; rfl
    | setStayStatus _ _ => obtain ⟨rfl, rfl⟩ := ha; rfl
    | revokeKey keyId t reason =>
      simp only [exec, Db.revokeKey, Db.setStayStatus]
      split <;> rfl
    | _ => exact ha.elim
  | _ => exact hb.elim

/-- A checkout that has read the active keys. -/
def afterKeys (S : String) (now : Int) (keyIds : List String) : Call LifecycleResult := do
  let checkingOut : Call (List String) := do
    Stmt.call (.retireKeys S)
    revokeKeys now "checkout" keyIds
    Stmt.call (.retireAssignments S)
    Stmt.call (.setStayStatus S .checkedOut)
    return keyIds
  return .checkedOut (← checkingOut)

theorem body_checkout (now : Int) :
    (LifecycleCall.checkout now).body E sk S = .call (.activeKeys S) (afterKeys S now) := rfl

theorem afterKeys_only (now : Int) (keyIds : List String) :
    (afterKeys S now keyIds).Only (Stmt.EndsStay S) := by
  have hlast : (do
      Stmt.call (.retireAssignments S)
      Stmt.call (.setStayStatus S .checkedOut)
      return keyIds : Call (List String)).Only (Stmt.EndsStay S) :=
    ⟨rfl, fun _ => ⟨⟨rfl, rfl⟩, fun _ => trivial⟩⟩
  have hrevoke : (revokeKeys now "checkout" keyIds).Only (Stmt.EndsStay S) :=
    revokeKeys_only (fun _ _ _ => trivial) "checkout" keyIds
  have hretire : (Stmt.call (.retireKeys S)).Only (Stmt.EndsStay S) := call_only _ rfl
  exact (hretire.bind fun _ => hrevoke.bind fun _ => hlast).bind fun _ => trivial

theorem afterKeys_keyless (now : Int) : (afterKeys S now []).Only (Stmt.EndsKeyless S) :=
  ⟨⟨rfl, nofun⟩, fun _ => ⟨⟨rfl, nofun⟩, fun _ => ⟨⟨⟨rfl, rfl⟩, nofun⟩, fun _ => trivial⟩⟩⟩

theorem activeKeys_endsStay {op : Stmt} (hop : op.EndsStay S) (h : db.activeKeys S = []) :
    (exec op db).2.activeKeys S = [] := by
  cases op with
  | retireKeys stayId =>
    obtain rfl := hop
    exact activeKeys_retireKeys db stayId
  | revokeKey keyId revokedAt reason =>
    obtain ⟨r, hr⟩ := Db.revokeKey_eq db keyId revokedAt reason
    simp only [exec]
    rw [hr]
    exact h
  | retireAssignments | setStayStatus => exact h
  | _ => exact hop.elim

/-! ## Two calls -/

/-- Two calls on one stay. -/
abbrev LifecyclePair := Threads Bool Stmt Stmt.Res Exc LifecycleResult Db

variable (E sk S) in
/-- The turn of `i` takes the call to the keys of the stay although its
guard would refuse the stay by now, or while the other call has gone to the
keys and is not done. Two checkouts may go on together once no key of the
stay is active. -/
def Interferes (c : Bool → LifecycleCall) (s : LifecyclePair) (i : Bool) : Prop :=
  s.prog i = (c i).body E sk S ∧
    ((∃ e, (c i).guard S s.shared = some e) ∨
      ((s.prog !i).outcome? = none ∧ ((c !i).body E sk S).Rest (s.prog !i) ∧
        ¬ ((c i).isCheckout = true ∧ (c !i).isCheckout = true ∧ s.shared.activeKeys S = [])))

variable (E sk S) in
/-- The call has not gone to the keys: it has not begun, or has passed its
guard, or its guard raised what it would still raise. -/
def Waiting (c : LifecycleCall) (db : Db) (p : Call LifecycleResult) : Prop :=
  p = c.program E sk S ∨ (p = c.body E sk S ∧ ∃ stay, db.getStay S = some stay) ∨
    ∃ e, p = .throw e ∧ c.guard S db = some e

variable {c : Bool → LifecycleCall} {s : LifecyclePair}

theorem Waiting.after {c : LifecycleCall} {p : Call LifecycleResult} {op : Stmt} (hop : op.OnStay S)
    (h : Waiting E sk S c db p) : Waiting E sk S c (exec op db).2 p := by
  obtain hp | ⟨hp, hfound⟩ | ⟨e, hp, hguard⟩ := h
  · exact .inl hp
  · exact .inr (.inl ⟨hp, found_exec hop hfound⟩)
  · exact .inr (.inr ⟨e, hp, guard_exec hop hguard⟩)

theorem Waiting.next {c : LifecycleCall} {p q : Call LifecycleResult} (hq : q.Only (Stmt.OnStay S))
    (h : Waiting E sk S c db p) : Waiting E sk S c (q.next exec db).2 p :=
  Prog.next_preserves exec (I := fun db => Waiting E sk S c db p) (fun _ _ hop h => h.after hop) hq h

/-- The first turn of a call writes nothing. -/
theorem waiting_program (c : LifecycleCall) (db : Db) :
    ∃ p, (c.program E sk S).next exec db = (p, db) ∧ Waiting E sk S c db p := by
  rw [next_program]
  cases hguard : c.guard S db with
  | some e => exact ⟨_, rfl, .inr (.inr ⟨e, rfl, hguard⟩)⟩
  | none =>
    refine ⟨_, rfl, .inr (.inl ⟨rfl, ?_⟩)⟩
    unfold LifecycleCall.guard at hguard
    split at hguard
    · cases hguard
    · exact ⟨_, ‹_›⟩

/-- Past its guard, in a state where the guard admits the stay, a call goes
on as if it had begun there. -/
theorem run_body {c : LifecycleCall} (h : ∀ e, c.guard S db ≠ some e) :
    (c.body E sk S).run db = (c.program E sk S).run db := by
  rw [run_program, Option.eq_none_iff_forall_ne_some.mpr h]

variable (E sk S) in
/-- How far the two calls are, begun in `db₀`: neither has gone to the
keys; or `x` has, and its rest ends as if `x` had run alone; or they go on
so that they end like `x` and then the other one. -/
inductive Stage (c : Bool → LifecycleCall) (db₀ : Db) (s : LifecyclePair) : Prop
  | before (hshared : s.shared = db₀) (hwait : ∀ i, Waiting E sk S (c i) s.shared (s.prog i))
  | first (x : Bool) (hrest : ((c x).body E sk S).Rest (s.prog x))
      (hrun : (s.prog x).run exec s.shared = ((c x).program E sk S).run db₀)
      (hwait : Waiting E sk S (c !x) s.shared (s.prog !x))
  | serial (x : Bool) (h : s.SerialFrom exec x (((c x).program E sk S).run db₀).1
      (((c !x).program E sk S).run (((c x).program E sk S).run db₀).2))

theorem not_bool_ne (x : Bool) : (!x) ≠ x := by cases x <;> decide

theorem Waiting.found {c : LifecycleCall} (h : Waiting E sk S c db (c.body E sk S)) :
    ∃ stay, db.getStay S = some stay := by
  obtain hp | ⟨-, hfound⟩ | ⟨e, hp, -⟩ := h
  · cases c <;> cases hp
  · exact hfound
  · cases c <;> cases hp

/-- A checkout that finds no active key while another one is under way: from
here on nothing either of them does depends on the other. -/
theorem serialFrom_checkouts {x : Bool} {now now' : Int} {db₀ : Db} (hx : c x = .checkout now)
    (hy : c (!x) = .checkout now') (hrest : ((c x).body E sk S).Rest (s.prog x))
    (hrun : (s.prog x).run exec s.shared = ((c x).program E sk S).run db₀)
    (hprog : s.prog (!x) = (c !x).body E sk S) (hfound : ∃ stay, s.shared.getStay S = some stay)
    (hkeys : s.shared.activeKeys S = []) :
    (s.turn exec !x).SerialFrom exec x (((c x).program E sk S).run db₀).1
      (((c !x).program E sk S).run (((c x).program E sk S).run db₀).2) := by
  have hnext : (s.prog !x).next exec s.shared = (afterKeys S now' [], s.shared) := by
    rw [hprog, hy, body_checkout, Prog.next, exec, hkeys]
  have hpx : (s.turn exec !x).prog x = s.prog x := Threads.prog_turn_of_ne (not_bool_ne x).symm s
  have hpy : (s.turn exec !x).prog (!x) = afterKeys S now' [] := by rw [Threads.prog_turn_self, hnext]
  have hshared : (s.turn exec !x).shared = s.shared := congrArg Prod.snd hnext
  have honly : (s.prog x).Only (Stmt.EndsStay S) :=
    hrest.only_of_call (afterKeys_only now) (by rw [hx, body_checkout])
  refine ⟨?_, by rw [hpx, hshared, hrun], ?_⟩
  · rw [hpx, hpy]
    exact independent_of_only (fun a b => commutes_endsStay) honly (afterKeys_keyless now')
  · -- the second checkout would find no active key at the end of the first one either
    rw [hpx, hpy, hshared]
    have hend : (((s.prog x).run exec s.shared).2).activeKeys S = [] :=
      Prog.run_preserves exec (I := fun db => db.activeKeys S = [])
        (fun _ _ hop h => activeKeys_endsStay hop h) honly hkeys
    have hfound' : ∃ stay, ((s.prog x).run exec s.shared).2.getStay S = some stay :=
      Prog.run_preserves exec (I := fun db => ∃ stay, db.getStay S = some stay)
        (fun _ _ hop h => found_exec hop h) ((body_only (c x)).rest hrest) hfound
    rw [← hrun]
    have hopen : ∀ e, (c !x).guard S ((s.prog x).run exec s.shared).2 ≠ some e := by
      obtain ⟨stay, hs⟩ := hfound'
      intro e he
      rw [hy, LifecycleCall.guard, hs] at he
      cases he
    rw [← run_body hopen, hy, body_checkout]
    have hread : exec (.activeKeys S) ((s.prog x).run exec s.shared).2
        = (.ok [], ((s.prog x).run exec s.shared).2) := by rw [exec, hend]
    exact (Prog.run_call_ok exec hread).symm

/-! ## One turn -/

variable {db₀ : Db} {i x : Bool}

/-- The other caller waits as before while `i` has a turn. -/
theorem Waiting.turn (hi : (s.prog i).Only (Stmt.OnStay S))
    (h : Waiting E sk S (c !i) s.shared (s.prog !i)) :
    Waiting E sk S (c !i) (s.turn exec i).shared ((s.turn exec i).prog !i) := by
  rw [Threads.prog_turn_of_ne (not_bool_ne i)]
  exact h.next hi

/-- The turn of a caller that waits and does not go to the keys: nothing
happens, but that its guard may have been run. -/
theorem Waiting.idle (h : Waiting E sk S (c i) s.shared (s.prog i))
    (hbody : s.prog i ≠ (c i).body E sk S) :
    (s.turn exec i).shared = s.shared ∧ Waiting E sk S (c i) s.shared ((s.turn exec i).prog i) := by
  rcases id h with hp | ⟨hp, -⟩ | ⟨e, hp, -⟩
  · obtain ⟨p, hnext, hwait⟩ := waiting_program (c i) s.shared
    rw [← hp] at hnext
    refine ⟨congrArg Prod.snd hnext, ?_⟩
    rw [Threads.prog_turn_self, hnext]
    exact hwait
  · exact absurd hp hbody
  · have ho : (s.prog i).outcome? = some (.error e) := by rw [hp]; rfl
    rw [Threads.turn_of_ended ho]
    exact ⟨rfl, h⟩

/-- **A turn that does not interfere** leads from stage to stage. -/
theorem Stage.turn (h : Stage E sk S c db₀ s) (hok : ¬ Interferes E sk S c s i) :
    Stage E sk S c db₀ (s.turn exec i) := by
  -- past the guard, the guard would still admit the stay
  have hadmits (hp : s.prog i = (c i).body E sk S) : ∀ e, (c i).guard S s.shared ≠ some e :=
    fun e he => hok ⟨hp, .inl ⟨e, he⟩⟩
  cases h with
  | before hshared hwait =>
    by_cases hp : s.prog i = (c i).body E sk S
    · -- `i` goes to the keys first
      have hopen : (s.prog i).outcome? = none := by rw [hp]; exact body_open (c i)
      have hrun : (s.prog i).run exec s.shared = ((c i).program E sk S).run db₀ := by
        rw [← hshared, hp]
        exact run_body (hadmits hp)
      refine .first i ?_ ?_ ((hwait !i).turn (hp ▸ body_only (c i)))
      · rw [Threads.prog_turn_self, ← hp]
        exact Prog.rest_next exec hopen s.shared
      · rw [Threads.prog_turn_self]
        exact (Prog.run_next exec _ _).trans hrun
    · obtain ⟨hsame, hi⟩ := (hwait i).idle hp
      refine .before (hsame.trans hshared) fun j => ?_
      by_cases hj : j = i
      · subst hj; rw [hsame]; exact hi
      · rw [hsame, Threads.prog_turn_of_ne hj]; exact hwait j
  | first x hrest hrun hwait =>
    by_cases hix : i = x
    · subst hix
      cases ho : (s.prog i).outcome? with
      | some o => rw [Threads.turn_of_ended ho]; exact .first i hrest hrun hwait
      | none =>
        refine .first i ?_ ?_ (hwait.turn ((body_only (c i)).rest hrest))
        · rw [Threads.prog_turn_self]
          exact hrest.trans (Prog.rest_next exec ho s.shared)
        · rw [Threads.prog_turn_self]
          exact (Prog.run_next exec _ _).trans hrun
    · obtain rfl : i = !x := by
        cases i <;> cases x <;> first | rfl | exact absurd rfl hix
      by_cases hp : s.prog (!x) = (c !x).body E sk S
      · -- the other call goes to the keys
        cases ho : (s.prog x).outcome? with
        | some o =>
          have hend := hrun
          rw [Prog.run_of_ended exec ho] at hend
          refine .serial x (Threads.SerialFrom.turn ⟨independent_of_ended ho _, ?_, ?_⟩ !x)
          · rw [hrun]
          · rw [hrun, ← hend, hp]
            exact run_body (hadmits hp)
        | none =>
          have hboth : (c !x).isCheckout = true ∧ (c !!x).isCheckout = true ∧
              s.shared.activeKeys S = [] := by
            by_contra hno
            exact hok ⟨hp, .inr ⟨by rwa [Bool.not_not], by rwa [Bool.not_not], hno⟩⟩
          rw [Bool.not_not] at hboth
          obtain ⟨hy, hx, hkeys⟩ := hboth
          obtain ⟨now, hx⟩ := exists_checkout hx
          obtain ⟨now', hy⟩ := exists_checkout hy
          exact .serial x (serialFrom_checkouts hx hy hrest hrun hp (hp ▸ hwait).found hkeys)
      · obtain ⟨hsame, hi⟩ := hwait.idle hp
        have hprog : (s.turn exec !x).prog x = s.prog x := Threads.prog_turn_of_ne (not_bool_ne x).symm s
        refine .first x (hprog ▸ hrest) ?_ ?_
        · rw [hprog, hsame]; exact hrun
        · rw [hsame]; exact hi
  | serial x h => exact .serial x (h.turn i)

/-! ## Runs -/

variable (E sk S) in
/-- Both calls are at their beginning. -/
def lifecyclePair (c : Bool → LifecycleCall) (db : Db) : LifecyclePair :=
  ⟨fun i => (c i).program E sk S, db⟩

variable (E sk S) in
/-- The calls ended, and left the database, as if `x` had run and then the
other one. -/
def EndedInOrder (c : Bool → LifecycleCall) (db : Db) (s : LifecyclePair) (x : Bool) : Prop :=
  (s.prog x).outcome? = some (((c x).program E sk S).run db).1 ∧
    (s.prog !x).outcome?
      = some (((c !x).program E sk S).run (((c x).program E sk S).run db).2).1 ∧
    s.shared = (((c !x).program E sk S).run (((c x).program E sk S).run db).2).2

theorem stage_schedule {h : List (Turn Bool Stmt Stmt.Res Exc LifecycleResult Db)}
    (hs : Schedule exec (lifecyclePair E sk S c db) h s)
    (hok : ∀ e ∈ h, ¬ Interferes E sk S c e.before e.request) : Stage E sk S c db s :=
  hs.invariant (I := Stage E sk S c db) (.before rfl fun _ => .inl rfl)
    (fun _ _ hstage hi => hstage.turn hi) hok

/-- A call that ended without going to the keys was refused. -/
theorem Waiting.ended {c : LifecycleCall} {p : Call LifecycleResult} {o : Except Exc LifecycleResult}
    (h : Waiting E sk S c db p) (ho : p.outcome? = some o) :
    (c.program E sk S).run db = (o, db) := by
  obtain rfl | ⟨rfl, -⟩ | ⟨e, rfl, hguard⟩ := h
  · cases c <;> cases ho
  · rw [body_open] at ho
    cases ho
  · cases ho
    rw [run_program, hguard]

theorem Stage.inOrder (h : Stage E sk S c db s) (hended : ∀ i, (s.prog i).outcome? ≠ none) :
    ∃ x, EndedInOrder E sk S c db s x := by
  have hout (i : Bool) : ∃ o, (s.prog i).outcome? = some o := Option.ne_none_iff_exists'.mp (hended i)
  cases h with
  | before hshared hwait =>
    obtain ⟨o, ho⟩ := hout false
    obtain ⟨o', ho'⟩ := hout true
    have hrun := (hwait false).ended ho
    have hrun' := (hwait true).ended ho'
    rw [hshared] at hrun hrun'
    refine ⟨false, ?_⟩
    simp only [EndedInOrder, hrun, Bool.not_false, hrun']
    exact ⟨ho, ho', hshared⟩
  | first x hrest hrun hwait =>
    obtain ⟨o, ho⟩ := hout x
    obtain ⟨o', ho'⟩ := hout !x
    rw [Prog.run_of_ended exec ho] at hrun
    refine ⟨x, ?_⟩
    simp only [EndedInOrder, ← hrun, hwait.ended ho']
    exact ⟨ho, ho', trivial⟩
  | serial x h => exact ⟨x, h.ended (hended x) (hended !x)⟩

theorem closedAt_program {c : LifecycleCall} (h : ClosedAt db S) :
    ClosedAt ((c.program E sk S).run db).2 S := by
  cases c with
  | checkout now =>
    simp only [LifecycleCall.program, run_return]
    exact closedAt_checkout h
  | changeRoom now newRoomId fresh =>
    simp only [LifecycleCall.program, run_return]
    exact closedAt_changeRoom h newRoomId
  | refreshKey now fresh =>
    simp only [LifecycleCall.program, run_return]
    exact closedAt_refreshKey h

/-- What a checkout says it revoked, it revoked. -/
theorem revoked_of_checkedOut {c : LifecycleCall} {revoked : List String}
    (h : ((c.program E sk S).run db).1 = .ok (.checkedOut revoked)) :
    ∀ k ∈ revoked, k ∈ ((c.program E sk S).run db).2.revocationList := by
  cases c with
  | checkout now =>
    simp only [LifecycleCall.program, run_return] at h ⊢
    cases hs : db.getStay S with
    | none =>
      obtain ⟨msg, hrun⟩ := checkout_run_none now hs
      rw [hrun] at h
      cases h
    | some stay =>
      rw [checkout_run hs] at h ⊢
      cases h
      exact fun k hk => Db.mem_revocationList_revokeAll.mpr (.inr hk)
  | changeRoom now newRoomId fresh =>
    simp only [LifecycleCall.program, run_return] at h
    rcases hr : ((changeRoom E sk S now newRoomId fresh).run db).1 with e | r <;> rw [hr] at h <;> cases h
  | refreshKey now fresh =>
    simp only [LifecycleCall.program, run_return] at h
    rcases hr : ((refreshKey E sk S now fresh).run db).1 with e | r <;> rw [hr] at h <;> cases h

/-- **Two lifecycle calls on one stay are serializable** in every run in
which no turn interferes. So a stay that had nothing left once checked out
has nothing left after them, and what a checkout revoked is revoked. -/
theorem lifecycle_serializable {h : List (Turn Bool Stmt Stmt.Res Exc LifecycleResult Db)}
    (hs : Schedule exec (lifecyclePair E sk S c db) h s)
    (hended : ∀ i, (s.prog i).outcome? ≠ none)
    (hok : ∀ e ∈ h, ¬ Interferes E sk S c e.before e.request) :
    (∃ x, EndedInOrder E sk S c db s x) ∧ (ClosedAt db S → ClosedAt s.shared S) ∧
      ∀ i revoked, (s.prog i).outcome? = some (.ok (.checkedOut revoked)) →
        ∀ k ∈ revoked, k ∈ s.shared.revocationList := by
  obtain ⟨x, hx, hy, hshared⟩ := (stage_schedule hs hok).inOrder hended
  refine ⟨⟨x, hx, hy, hshared⟩, fun hclosed => ?_, fun i revoked hi k hk => ?_⟩
  · rw [hshared]
    exact closedAt_program (closedAt_program hclosed)
  · rw [hshared]
    by_cases hix : i = x
    · subst hix
      rw [hx] at hi
      exact (extends_run _ _).revocations k (revoked_of_checkedOut (Option.some.inj hi) k hk)
    · obtain rfl : i = !x := by
        cases i <;> cases x <;> first | rfl | exact absurd rfl hix
      rw [hy] at hi
      exact revoked_of_checkedOut (Option.some.inj hi) k hk

/-! ## A guest who has left, and one who has not -/

/-- The guest is checked in and has the key `k1`. -/
def checkedInDb : Db :=
  (runCalls Env.sample sampleKey (sampleBooking ++ [.checkin "s_1" 1000 sampleFresh])).2

/-- `false` refreshes the key, `true` checks the stay out. -/
def refreshAndCheckout : Bool → LifecycleCall
  | false => .refreshKey 1500 sampleFresh₂
  | true => .checkout 1500

/-- The refresh passes its guard, then the guest is checked out, then the
refresh goes on. -/
def staleOrder : List Bool := [false, true, true, true, true, true, true, false, false, false]

abbrev stale : List (Turn Bool Stmt Stmt.Res Exc LifecycleResult Db) × LifecyclePair :=
  runAll (fun i s => ((), s.turn exec i))
    (lifecyclePair Env.sample sampleKey "s_1" refreshAndCheckout checkedInDb) staleOrder

/-- The guest is checked out and has a key: no order of the two calls ends so. -/
theorem refresh_after_checkout :
    ¬ ∀ (h₀ : List StoreEntry) (db : Db) (S : String) (c : Bool → LifecycleCall)
      (h : List (Turn Bool Stmt Stmt.Res Exc LifecycleResult Db)) (s : LifecyclePair),
      StoreHistory Env.sample sampleKey h₀ db →
      Schedule exec (lifecyclePair Env.sample sampleKey S c db) h s →
      (∀ i, (s.prog i).outcome? ≠ none) → ∃ x, EndedInOrder Env.sample sampleKey S c db s x := by
  intro hclaim
  obtain ⟨x, hx, hy, hshared⟩ := hclaim _ checkedInDb "s_1" refreshAndCheckout stale.1 stale.2
    (History.of_runAll ..) (History.of_runAll ..) (by decide)
  cases x with
  | false =>
    -- after a refresh the checkout revokes the new key
    have hkeys : stale.2.shared.activeKeys "s_1" = ["k2"] := by decide
    rw [hshared] at hkeys
    revert hkeys
    decide
  | true =>
    -- after a checkout the refresh is refused
    have hok : ((stale.2.prog !true).outcome?.any fun o => o.isOk) = true := by decide
    rw [hy] at hok
    revert hok
    decide

/-- Both calls check the stay out. -/
def bothCheckout : Bool → LifecycleCall
  | false => .checkout 1500
  | true => .checkout 1600

/-- The second call begins when the first one has deactivated the keys. -/
def overlapOrder : List Bool :=
  [false, false, false, true, true, false, true, true, false, false, true, false]

abbrev overlapping : List (Turn Bool Stmt Stmt.Res Exc LifecycleResult Db) × LifecyclePair :=
  runAll (fun i s => ((), s.turn exec i))
    (lifecyclePair Env.sample sampleKey "s_1" bothCheckout checkedInDb) overlapOrder

/-- The call is about to read the active keys. -/
def readsKeys : Call LifecycleResult → Bool
  | .call (.activeKeys _) _ => true
  | _ => false

/-- The call is about to read the stay. -/
def readsStay : Call LifecycleResult → Bool
  | .call (.getStay _) _ => true
  | _ => false

/-- A checkout does not interfere with one that has not begun, or when no
key is active. -/
theorem not_interferes_checkouts {c : Bool → LifecycleCall} {s : LifecyclePair} {i : Bool}
    (hc : ∀ i, ∃ now, c i = .checkout now) (hfound : ∃ stay, s.shared.getStay S = some stay)
    (hok : readsKeys (s.prog i) = true → s.shared.activeKeys S = [] ∨ readsStay (s.prog !i) = true) :
    ¬ Interferes E sk S c s i := by
  obtain ⟨now, hi⟩ := hc i
  obtain ⟨now', hi'⟩ := hc !i
  obtain ⟨stay, hs⟩ := hfound
  rintro ⟨hp, ⟨e, he⟩ | ⟨-, hrest, hno⟩⟩
  · rw [hi, LifecycleCall.guard, hs] at he
    cases he
  · rcases hok (by rw [hp, hi]; rfl) with hkeys | hstay
    · exact hno ⟨by rw [hi]; rfl, by rw [hi']; rfl, hkeys⟩
    · have honly : (s.prog !i).Only (Stmt.EndsStay S) :=
        hrest.only_of_call (afterKeys_only now') (by rw [hi', body_checkout])
      generalize s.prog (!i) = p at hstay honly
      unfold readsStay at hstay
      split at hstay
      · exact honly.1
      · cases hstay

theorem lifecycle_serializable_overlap :
    ∃ x, EndedInOrder Env.sample sampleKey "s_1" bothCheckout checkedInDb overlapping.2 x := by
  have hs : Schedule exec (lifecyclePair Env.sample sampleKey "s_1" bothCheckout checkedInDb)
      overlapping.1 overlapping.2 := History.of_runAll ..
  refine (lifecycle_serializable hs (by decide) fun e he => ?_).1
  have hall : ∀ e ∈ overlapping.1, (e.before.shared.getStay "s_1").isSome = true ∧
      (readsKeys (e.before.prog e.request) = true → e.before.shared.activeKeys "s_1" = [] ∨
        readsStay (e.before.prog !e.request) = true) := by decide
  obtain ⟨hfound, hok⟩ := hall e he
  exact not_interferes_checkouts (fun i => by cases i <;> exact ⟨_, rfl⟩)
    (Option.isSome_iff_exists.mp hfound) hok

end StayKey.Store
