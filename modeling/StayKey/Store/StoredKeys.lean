/-
StayKey.Store.StoredKeys — a key that is handed out has a row.

A call that returns a key has stored it, by a statement that was run before
the call ended; others write in between and after it. The row stays, with
the token of the key (`HasRow`).
-/
import StayKey.Store.KeyRows

namespace StayKey.Store

open StayKey.Codec StayKey.Door StayKey.Program

variable {E : Env} {sk : PrivateKey} {db db' : Db}

/-- The table has a row that holds the key. -/
def HasRow (E : Env) (sk : PrivateKey) (key : IssuedKey) (db : Db) : Prop :=
  ∃ k ∈ db.keys, ∃ read stay fresh, Holds E sk db k read stay fresh key

/-- What a row holds it holds in every later database: the stay keeps its
booking. -/
theorem Holds.extends {k : KeyRow} {read stay : StayRow} {fresh : Fresh} {key : IssuedKey}
    (h : Holds E sk db k read stay fresh key) (hext : Extends db db') :
    ∃ stay', Holds E sk db' k read stay' fresh key := by
  obtain ⟨stay', hs', hbook⟩ := hext.stays _ stay h.getStay
  exact ⟨stay', hs', h.booking.trans hbook, h.credential, h.keyId, h.token, h.validFrom, h.validUntil⟩

/-- Deactivating a row leaves what it holds. -/
theorem Holds.retired {k : KeyRow} {read stay : StayRow} {fresh : Fresh} {key : IssuedKey}
    (h : Holds E sk db k read stay fresh key) :
    Holds E sk db { k with active := false } read stay fresh key :=
  ⟨h.getStay, h.booking, h.credential, h.keyId, h.token, h.validFrom, h.validUntil⟩

/-- **The row of a key stays**, active or not. -/
theorem HasRow.extends {key : IssuedKey} (h : HasRow E sk key db) (hext : Extends db db') :
    HasRow E sk key db' := by
  obtain ⟨k, hk, read, stay, fresh, hholds⟩ := h
  obtain ⟨stay', hholds'⟩ := hholds.extends hext
  obtain hkept | hretired := hext.keys k hk
  · exact ⟨k, hkept, read, stay', fresh, hholds'⟩
  · exact ⟨_, hretired, read, stay', fresh, hholds'.retired⟩

/-- The program stores only genuine keys, and ends with `Q`, whatever others
do. -/
def Stores (E : Env) (sk : PrivateKey) {α : Type} (Q : α → Db → Prop) (p : Call α) : Prop :=
  ∀ db, p.Under exec Extends (KeyOk E sk) Q db

theorem IssuesGenuine.bind_stores {α β : Type} {p : Call α} {f : α → Call β} {Q : β → Db → Prop}
    (hp : IssuesGenuine E sk p) (hf : ∀ a, Stores E sk Q (f a)) : Stores E sk Q (p >>= f) :=
  fun db => (hp db).bind Extends.refl fun a db' _ => hf a db'

/-- A program that starts by reading a stay. -/
theorem stores_getStay {β : Type} {S : String} {f : Option StayRow → Call β} {Q : β → Db → Prop}
    (hf : ∀ stay, Stores E sk Q (f stay)) : Stores E sk Q (Stmt.call (.getStay S) >>= f) :=
  (issuesGenuine_of_only (call_only (.getStay S) trivial)).bind_stores hf

theorem stores_raise {α : Type} {Q : α → Db → Prop} (e : Exc) : Stores E sk Q (raise e) :=
  fun _ => trivial

section Calls

variable {S : String} {now : Int} {fresh : Fresh}

/-- The key that is returned was stored, and its row stays. -/
theorem issueForStay_stores : Stores E sk (HasRow E sk) (issueForStay E sk S now fresh) := by
  refine fun db => Prog.under_call (fun _ _ _ => nofun) fun db₁ found db₂ _ hread => ?_
  cases hread
  cases hs : db₁.getStay S with
  | none => trivial
  | some stay =>
    simp only [Prog.bind]
    cases hr : stay.roomId with
    | none => trivial
    | some roomId =>
      simp only
      split
      · trivial
      · cases hc : issueCredential E sk (stayCredential stay S roomId now fresh) fresh with
        | error e => trivial
        | ok issued =>
          have hholds {db₃ : Db} (hext : Extends db₁ db₃) :
              ∃ s, Holds E sk db₃ (stayKeyRow stay S roomId now issued) stay s fresh issued := by
            obtain ⟨s, hs', hbook⟩ := hext.stays S stay hs
            exact ⟨s, hs', hbook, hc, rfl, rfl, rfl, rfl⟩
          refine Prog.under_call (fun db₃ hext => ?_) fun db₃ _ db₄ hext hadd db₅ hext' => ?_
          · intro k hk
            cases hk
            obtain ⟨s, hs'⟩ := hholds hext
            exact ⟨stay, s, fresh, issued, hs'⟩
          · have hext₄ := extends_exec (.addKey (stayKeyRow stay S roomId now issued)) db₃
            rw [hadd] at hext₄
            obtain ⟨s, hs'⟩ := hholds (hext.trans hext₄)
            have hin : stayKeyRow stay S roomId now issued ∈ db₄.keys := by
              rw [exec] at hadd
              cases hkeys : db₃.addKey (stayKeyRow stay S roomId now issued) with
              | error e => rw [hkeys] at hadd; cases hadd
              | ok db₆ =>
                rw [hkeys] at hadd
                cases hadd
                exact (Db.mem_addKey hkeys).mpr (.inr rfl)
            exact HasRow.extends ⟨_, hin, stay, s, fresh, hs'⟩ hext'

/-- Before it issues, a refresh only deactivates. -/
theorem refreshKey_stores : Stores E sk (HasRow E sk) (refreshKey E sk S now fresh) := by
  refine stores_getStay fun stay => ?_
  cases stay with
  | none => exact stores_raise _
  | some stay =>
    simp only
    split
    · exact stores_raise _
    · exact (issuesGenuine_of_only (call_only (.retireKeys S) trivial)).bind_stores fun _ =>
        issueForStay_stores

theorem checkin_stores : Stores E sk (HasRow E sk) (checkin E sk S now fresh) := by
  refine stores_getStay fun stay => ?_
  cases stay with
  | none => exact stores_raise _
  | some stay =>
    exact (issuesGenuine_of_only (call_only (.setStayStatus S .checkedIn) trivial)).bind_stores fun _ =>
      issueForStay_stores

/-- The key comes last, after the revocations and the move. -/
theorem changeRoom_stores (newRoomId : Option Int) :
    Stores E sk (fun r => HasRow E sk r.2.2) (changeRoom E sk S now newRoomId fresh) := by
  refine stores_getStay fun stay => ?_
  cases stay with
  | none => exact stores_raise _
  | some stay =>
    simp only
    split
    · exact stores_raise _
    · refine (issuesGenuine_of_only (deactivateKeysForStay_only trivial trivial)).bind_stores
        fun revoked => ?_
      refine (issuesGenuine_of_only
        (revokeKeys_only (fun _ _ _ => trivial) "room_change" revoked)).bind_stores fun _ => ?_
      refine (issuesGenuine_of_only (moveRoom_only trivial (fun _ _ => trivial) newRoomId)).bind_stores
        fun newRoom => ?_
      exact fun db => (issueForStay_stores db).bind Extends.refl fun key db₁ hrow db₂ hext =>
        hrow.extends hext

end Calls

end StayKey.Store
