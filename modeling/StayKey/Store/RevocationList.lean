/-
StayKey.Store.RevocationList — the revocation list while other programs run.

The list only grows at its end (`Grows`), whoever writes. So a checkout can
rely on what it has revoked: when it ends, all the keys it answers with are
in the list, whatever has run in between (`checkout_under`).
-/
import StayKey.Program.Rely
import StayKey.Store.Independence

namespace StayKey.Store

open StayKey.Codec StayKey.Door StayKey.Program

variable {db : Db} {S : String} {now : Int}

/-- The list before is the beginning of the list after. -/
def Grows (db db' : Db) : Prop := db.revocationList <+: db'.revocationList

theorem Grows.refl (db : Db) : Grows db db := List.prefix_rfl

theorem Grows.trans (db₁ db₂ db₃ : Db) (h : Grows db₁ db₂) (h' : Grows db₂ db₃) : Grows db₁ db₃ :=
  List.IsPrefix.trans h h'

theorem Grows.mem {db db' : Db} {keyId : String} (h : Grows db db') (hk : keyId ∈ db.revocationList) :
    keyId ∈ db'.revocationList :=
  h.subset hk

/-- **Every statement.** -/
theorem grows_exec (op : Stmt) (db : Db) : Grows db (exec op db).2 := by
  by_cases hop : op.RevokesNothing
  · rw [Grows, Db.revocationList, Db.revocationList, revocations_exec op hop db]
  · cases op with
    | revokeKey keyId revokedAt reason =>
      rw [Grows, Db.revocationList, Db.revocationList, exec, Db.revokeKey_rows, List.map_append]
      exact List.prefix_append _ _
    | _ => exact absurd trivial hop

theorem revocationList_nodup (db : Db) : db.revocationList.Nodup := db.revocations.nodup

/-! ## A checkout -/

/-- The keys of the list are revoked. -/
def Revoked (keyIds : List String) (db : Db) : Prop := ∀ k ∈ keyIds, k ∈ db.revocationList

/-- What is on the list stays on it. -/
theorem Revoked.grows {keyIds : List String} (db db' : Db) (h : Grows db db') (hk : Revoked keyIds db) :
    Revoked keyIds db' :=
  fun k hmem => h.mem (hk k hmem)

theorem revoked_exec {keyIds : List String} (op : Stmt) (db : Db) (h : Revoked keyIds db) :
    Revoked keyIds (exec op db).2 :=
  h.grows db _ (grows_exec op db)

/-- The loop revokes its keys. -/
theorem revokeKeys_under (now : Int) (reason : String) (keyIds : List String) (db : Db) :
    (revokeKeys now reason keyIds).Under exec Grows (fun _ _ => True) (fun _ => Revoked keyIds) db := by
  induction keyIds generalizing db with
  | nil => exact fun _ _ _ hk => by cases hk
  | cons k keyIds ih =>
    refine Prog.under_call (fun _ _ => trivial) fun t r u _ he => ?_
    have hu : Revoked [k] u := by
      intro k' hk'
      obtain rfl := List.mem_singleton.mp hk'
      cases he
      exact Db.mem_revocationList_revokeKey.mpr (.inr rfl)
    refine ((ih u).keep (fun db db' h hk => hk.grows db db' h) revoked_exec hu).imp fun _ db' h => ?_
    intro k' hk'
    rcases List.mem_cons.mp hk' with rfl | hk'
    · exact h.2 k' (List.mem_singleton_self k')
    · exact h.1 k' hk'

/-- **A checkout that has ended** has left the keys it answers with in the
list. -/
theorem checkout_under (S : String) (now : Int) (db : Db) :
    (checkout S now).Under exec Grows (fun _ _ => True) Revoked db := by
  have hfree {α : Type} (p : Call α) (db : Db) :
      p.Under exec Grows (fun _ _ => True) (fun _ _ => True) db :=
    Prog.under_of_only (fun _ _ _ => trivial) (Prog.only_true p) db
  refine Prog.under_call (fun _ _ => trivial) fun t row u _ _ => ?_
  cases row with
  | none => trivial
  | some stay =>
    refine (hfree (deactivateKeysForStay S) u).bind Grows.refl fun revoked t _ => ?_
    refine (revokeKeys_under now "checkout" revoked t).bind Grows.refl fun _ t ht => ?_
    -- what follows returns the keys it revoked
    have hrest (db : Db) : (do
        Stmt.call (.retireAssignments S)
        Stmt.call (.setStayStatus S .checkedOut)
        return revoked : Call (List String)).Under exec Grows (fun _ _ => True)
          (fun keyIds _ => keyIds = revoked) db :=
      fun _ _ => ⟨trivial, fun _ _ _ _ _ => ⟨trivial, fun _ _ _ _ _ => rfl⟩⟩
    refine ((hrest t).keep (fun db db' h hk => hk.grows db db' h) revoked_exec ht).imp ?_
    rintro keyIds db' ⟨rfl, hk⟩
    exact hk

end StayKey.Store
