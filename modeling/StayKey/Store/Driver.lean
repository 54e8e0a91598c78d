/-
StayKey.Store.Driver — the store, through the database driver.

`Store.Db` has unbounded integers. `sqlite3` binds a Python integer to a
column of 64 bits and raises `OverflowError` on any other, before the
statement is run; inside a transaction that is rolled back like any other
exception. `execBound` is the meaning of a statement through the driver.

A call whose integers the driver takes does what `Store.Calls` says
(`runBound_cases`). One that meets another integer halfway leaves behind
what it has written so far: a checkout at a time beyond 64 bits has taken
the keys of the stay out of the active ones when it raises.
-/
import StayKey.Store.Runs

namespace StayKey.Store

open StayKey.Codec StayKey.Door StayKey.Program

/-- An integer of 64 bits. -/
def Bindable (n : Int) : Prop := -2 ^ 63 ≤ n ∧ n < 2 ^ 63

instance (n : Int) : Decidable (Bindable n) :=
  inferInstanceAs (Decidable (-2 ^ 63 ≤ n ∧ n < 2 ^ 63))

/-- The integers a statement binds. Both transactions bind the room they ask
for, and to look for overlaps the window of the stay. -/
def Stmt.binds : Stmt → List Int
  | .addRoom roomId .. | .getRoom roomId => [roomId]
  | .addStay _ _ _ _ checkIn checkOut => [checkIn, checkOut]
  | .addKey row => [row.roomId, row.issuedAt, row.validFrom, row.validUntil]
  | .revokeKey _ revokedAt _ => [revokedAt]
  | .assignTransaction _ stay requested | .changeTransaction _ stay requested =>
    requested.toList ++ [stay.checkIn, stay.checkOut]
  | .addGuest .. | .guestExists _ | .getStay _ | .setStayStatus .. | .activeKeys _ | .retireKeys _
  | .revocationList | .retireAssignments _ => []

/-- What the driver raises instead of running the statement. -/
def Stmt.refused (op : Stmt) : Option Exc :=
  if ∀ n ∈ op.binds, Bindable n then none else some (.py .overflowError)

/-- The meaning of a statement, through the driver. -/
def execBound : (op : Stmt) → Db → Except Exc op.Res × Db := Prog.guarded exec Stmt.refused

/-- Run a program alone, through the driver. -/
abbrev Call.runBound {α : Type} (p : Call α) (db : Db) : Except Exc α × Db := Prog.run execBound p db

theorem refused_iff {op : Stmt} {e : Exc} :
    op.refused = some e ↔ e = .py .overflowError ∧ ∃ n ∈ op.binds, ¬ Bindable n := by
  rw [Stmt.refused]
  split
  · rename_i h
    exact iff_of_false nofun fun ⟨_, n, hn, hnot⟩ => hnot (h n hn)
  · rename_i h
    push Not at h
    exact ⟨fun he => ⟨(Option.some.inj he).symm, h⟩, fun he => congrArg some he.1.symm⟩

theorem refused_eq_none {op : Stmt} (h : ∀ n ∈ op.binds, Bindable n) : op.refused = none := if_pos h

section

variable {α : Type} {p : Call α} {db db' : Db} {op : Stmt}

theorem execBound_accepted (h : op.refused = none) (db : Db) : execBound op db = exec op db :=
  Prog.guarded_none h db

theorem execBound_refused {e : Exc} (h : op.refused = some e) (db : Db) :
    execBound op db = (.error e, db) :=
  Prog.guarded_some h db

theorem runBound_stmt (op : Stmt) (db : Db) : Call.runBound op.call db = execBound op db := by
  rw [Stmt.call, Call.runBound, Prog.run_call]
  rcases execBound op db with ⟨r | e, db'⟩ <;> rfl

/-- A stay is read by its id, which is no integer. -/
theorem runBound_getStay_bind {S : String} (f : Option StayRow → Call α) (db : Db) :
    Call.runBound (Stmt.call (.getStay S) >>= f) db = Call.runBound (f (db.getStay S)) db :=
  Prog.run_call_ok execBound rfl

end

/-! ## Runs -/

variable (E : Env) (sk : PrivateKey)

variable {E sk} {db : Db} {S : String} {e : StoreEntry} {c : StoreCall}

end StayKey.Store
