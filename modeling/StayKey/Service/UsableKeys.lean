/-
StayKey.Service.UsableKeys — a key that is issued can still be used, unless
the stay is over.

`issue_for_stay` refuses when the window it clips is empty: the end of the
stay, or of the TTL, against the start of the stay. It never looks at the
time itself, so it refuses a stay that is too far ahead and issues for one
that has elapsed a key that no lock accepts any more
(`issue_usable_iff`).
-/
import StayKey.Store.Occupancy
import StayKey.Service.Driver
import StayKey.Service.ApiTheorems

namespace StayKey.Service

open StayKey.Codec StayKey.Door StayKey.Store StayKey.Program

variable {E : Env} {sk : PrivateKey} {db : Db} {S : String} {stay : StayRow} {roomId now : Int}
  {fresh : Fresh}

theorem le_add_keyTtlSeconds (now : Int) : now ≤ now + keyTtlSeconds :=
  Int.le_add_of_nonneg_right (by decide)

/-! ## What is asked of an answer -/

/-- A lock of the stay's room accepts the key statically at `t`, unless the
key is in its snapshot. -/
def AcceptedAt (E : Env) (sk : PrivateKey) (stay : StayRow) (roomId : Int) (issued : IssuedKey) (t : Int) :
    Prop :=
  ∀ revoked, py issued.keyId ∉ revoked →
    PassesStatic E issued.token (E.ed.publicKey sk) stay.propertyId roomId t revoked

/-- The window of the key lies in the stay and ends within the TTL, and the
key is accepted at some instant that is not past. -/
def Usable (E : Env) (sk : PrivateKey) (stay : StayRow) (roomId now : Int) (issued : IssuedKey) : Prop :=
  (∃ f, Carries issued.payload f ∧ stay.checkIn ≤ f.validFrom ∧ f.validUntil ≤ stay.checkOut ∧
    f.validUntil ≤ now + keyTtlSeconds) ∧ ∃ t, now ≤ t ∧ AcceptedAt E sk stay roomId issued t

/-- A `ValidationError`, with no key stored. -/
def RefusedForStay (db : Db) (msg : String) (result : Except Exc IssuedKey × Db) : Prop :=
  result.1 = .error (.validation msg) ∧ result.2.keys = db.keys

/-- What is asked of `issue_for_stay`: it refuses, or the key is usable. -/
def RefusedOrUsable (E : Env) (sk : PrivateKey) (db : Db) (stay : StayRow) (roomId now : Int)
    (result : Except Exc IssuedKey × Db) : Prop :=
  (∃ msg, RefusedForStay db msg result) ∨
    ∃ issued, result.1 = .ok issued ∧ Usable E sk stay roomId now issued

/-! ## The numbers of a credential -/

theorem printable_of_natAbs_lt {n : Int} (h : n.natAbs < 10 ^ intMaxStrDigits) : Printable n := by
  unfold Printable natText
  split
  · decide
  · rw [List.length_reverse, List.length_map]
    exact (Nat.digits_length_le_iff (by decide) _).mpr h

/-- Integers of 65 bits are printed. -/
theorem printable_of_bounds {n : Int} (hlow : -2 ^ 64 ≤ n) (hhigh : n ≤ 2 ^ 64) : Printable n := by
  refine printable_of_natAbs_lt (Nat.lt_of_le_of_lt (m := 2 ^ 64) (by omega) ?_)
  calc 2 ^ 64 < 10 ^ 20 := by decide
    _ ≤ 10 ^ intMaxStrDigits := Nat.pow_le_pow_right (by decide) (by decide)

/-- The credential of a stay with columns of 64 bits can be written: the
time it is issued at is no further from the stay than the TTL. -/
theorem stayCredential_writable (S : String) (fresh : Fresh) (hin : Bindable stay.checkIn) (hout : Bindable stay.checkOut)
    (hroom : Bindable roomId) (hwindow : stay.checkIn < min stay.checkOut (now + keyTtlSeconds))
    (hnow : now ≤ stay.checkOut) : (stayCredential stay S roomId now fresh).Writable := by
  obtain ⟨hin₁, hin₂⟩ := hin
  obtain ⟨hout₁, hout₂⟩ := hout
  have httl : keyTtlSeconds ≤ 2 ^ 62 := by decide
  have huntil : min stay.checkOut (now + keyTtlSeconds) ≤ stay.checkOut := min_le_left ..
  have hsoon : stay.checkIn < now + keyTtlSeconds := (lt_min_iff.mp hwindow).2
  constructor
  case window => exact hwindow
  case roomIds =>
    intro r hr
    obtain rfl := List.mem_singleton.mp hr
    exact printable_of_bounds (by have := hroom.1; omega) (by have := hroom.2; omega)
  case validFrom => exact printable_of_bounds (n := stay.checkIn) (by omega) (by omega)
  case validUntil =>
    exact printable_of_bounds (n := min stay.checkOut (now + keyTtlSeconds)) (by omega) (by omega)
  case issuedAt => exact printable_of_bounds (n := now) (by omega) (by omega)

/-! ## The call -/

/-- A key id of its own can be stored. -/
theorem addKey_isOk (row : KeyRow) (hs : db.getStay row.stayId = some stay)
    (hfresh : ∀ k ∈ db.keys, k.keyId ≠ row.keyId) : ∃ db', db.addKey row = .ok db' := by
  have hfound : (db.stays.find? row.stayId).isNone = false := by
    rw [show db.stays.find? row.stayId = some stay from hs]
    rfl
  rw [Db.addKey, hfound, if_neg Bool.false_ne_true]
  cases hi : db.keys.insert? row with
  | none =>
    obtain ⟨k, hk, hkey⟩ := Table.insert?_eq_none_iff.mp hi
    exact absurd hkey (hfresh k hk)
  | some keys => exact ⟨_, rfl⟩

/-- A key that is issued is accepted from the start of its window to the
end, and nowhere else. -/
theorem acceptedAt_iff (hE : E.ed.Correct) {issued : IssuedKey} {t : Int}
    (hissued : issueCredential E sk (stayCredential stay S roomId now fresh) fresh = .ok issued) :
    AcceptedAt E sk stay roomId issued t ↔
      stay.checkIn ≤ t ∧ t ≤ min stay.checkOut (now + keyTtlSeconds) := by
  have hkey : py issued.keyId = ((stayCredential stay S roomId now fresh).fields E fresh).keyId := by
    obtain ⟨-, _, -, rfl⟩ := issueCredential_ok hissued
    rfl
  constructor
  · intro h
    obtain ⟨-, -, hfrom, huntil, -⟩ :=
      staticChecks_hold_iff.mp (passesStatic_issue hissued (h ∅ (Finset.notMem_empty _)))
    exact ⟨hfrom, huntil⟩
  · rintro ⟨hfrom, huntil⟩ revoked hrevoked
    refine passesStatic_of_checks hE hissued (staticChecks_hold_iff.mpr ⟨rfl, ?_, hfrom, huntil, ?_⟩)
    · exact List.mem_singleton_self roomId
    · rwa [← hkey]

/-- The window an issued key gets is within the stay and the TTL. -/
theorem carries_window {issued : IssuedKey}
    (hissued : issueCredential E sk (stayCredential stay S roomId now fresh) fresh = .ok issued) :
    ∃ f, Carries issued.payload f ∧ stay.checkIn ≤ f.validFrom ∧ f.validUntil ≤ stay.checkOut ∧
      f.validUntil ≤ now + keyTtlSeconds :=
  ⟨_, carries_issued hissued, le_refl stay.checkIn, min_le_left .., min_le_right ..⟩

/-! ## Until the end of the stay, and after it -/

theorem refusedOrUsable_of_not_elapsed (hE : E.ed.Correct) (hdepth : 2 ≤ E.py.recursionLimit)
    (hs : db.getStay S = some stay) (hr : stay.roomId = some roomId)
    (hcolumns : Bindable stay.checkIn ∧ Bindable stay.checkOut ∧ Bindable roomId)
    (hfresh : ∀ k ∈ db.keys, k.keyId ≠ fresh.keyId) (hnow : now ≤ stay.checkOut) :
    RefusedOrUsable E sk db stay roomId now ((issueForStay E sk S now fresh).run db) := by
  rw [issueForStay_run_room hs hr]
  by_cases hw : min stay.checkOut (now + keyTtlSeconds) ≤ stay.checkIn
  · rw [if_pos hw]
    exact .inl ⟨_, rfl, rfl⟩
  · rw [if_neg hw]
    have hw := not_le.mp hw
    obtain ⟨hin, hout, hroom⟩ := hcolumns
    obtain ⟨issued, hissued⟩ := issueCredential_isOk
      (stayCredential_writable S fresh hin hout hroom hw hnow) hdepth sk fresh
    have hkey : issued.keyId = fresh.keyId := by
      obtain ⟨-, _, -, rfl⟩ := issueCredential_ok hissued
      simp only [CredentialIn.issuedKeyId, stayCredential, strOr, ite_self]
    obtain ⟨db', hadd⟩ := addKey_isOk (stayKeyRow stay S roomId now issued) hs
      fun k hk => by rw [stayKeyRow, hkey]; exact hfresh k hk
    rw [hissued]
    simp only [hadd]
    -- the first instant that is neither past nor before the stay
    have hfirst : max now stay.checkIn ≤ min stay.checkOut (now + keyTtlSeconds) :=
      max_le (le_min hnow (le_add_keyTtlSeconds now)) hw.le
    exact .inr ⟨issued, rfl, carries_window hissued, max now stay.checkIn, le_max_left ..,
      (acceptedAt_iff hE hissued).mpr ⟨le_max_right .., hfirst⟩⟩

/-- After the stay the clipped window is the stay itself, so that nothing is
refused and no instant is left. -/
theorem not_refusedOrUsable_of_elapsed (hE : E.ed.Correct) (hs : db.getStay S = some stay)
    (hr : stay.roomId = some roomId) (hstay : stay.checkIn < stay.checkOut) (hnow : stay.checkOut < now) :
    ¬ RefusedOrUsable E sk db stay roomId now ((issueForStay E sk S now fresh).run db) := by
  have hissuable : Issuable stay now :=
    ⟨⟨roomId, hr⟩, lt_min hstay (by have := le_add_keyTtlSeconds now; omega)⟩
  obtain ⟨e, hrun, hdomain⟩ | ⟨stay', roomId', issued, db', hissued, -, hrun⟩ :=
    issueForStay_run E sk db S now fresh
  · rw [hrun]
    rintro (⟨msg, hraised, -⟩ | ⟨issued, hok, -⟩)
    · obtain rfl := Except.error.inj hraised
      exact hdomain.mp rfl stay hs hissuable
    · cases hok
  · obtain rfl : stay = stay' := Option.some.inj (hs.symm.trans hissued.getStay)
    obtain rfl : roomId = roomId' := Option.some.inj (hr.symm.trans hissued.room)
    rw [hrun]
    rintro (⟨msg, hraised, -⟩ | ⟨issued', hok, -, t, ht, haccepted⟩)
    · cases hraised
    · obtain rfl := Except.ok.inj hok
      have huntil := ((acceptedAt_iff hE hissued.credential).mp haccepted).2
      have := min_le_left stay.checkOut (now + keyTtlSeconds)
      omega

/-- **`issue_for_stay` refuses or issues a usable key** exactly until the end
of the stay, whatever the time and the TTL. -/
theorem issue_usable_iff (hE : E.ed.Correct) (hdepth : 2 ≤ E.py.recursionLimit) (sk : PrivateKey)
    (hs : db.getStay S = some stay) (hr : stay.roomId = some roomId)
    (hstay : stay.checkIn < stay.checkOut)
    (hcolumns : Bindable stay.checkIn ∧ Bindable stay.checkOut ∧ Bindable roomId)
    (hfresh : ∀ k ∈ db.keys, k.keyId ≠ fresh.keyId) (now : Int) :
    RefusedOrUsable E sk db stay roomId now ((issueForStay E sk S now fresh).run db) ↔
      now ≤ stay.checkOut := by
  refine ⟨fun h => ?_, refusedOrUsable_of_not_elapsed hE hdepth hs hr hcolumns hfresh⟩
  by_contra hnow
  exact not_refusedOrUsable_of_elapsed hE hs hr hstay (not_le.mp hnow) h

/-- The stay of the sample reservation, and its room. -/
theorem sample_stay : ∃ stay, (runRequests sampleRequests).2.db.getStay "s_1" = some stay ∧
    stay.roomId = some 101 ∧ stay.checkIn = 1000 ∧ stay.checkOut = 2000 := by
  have hfound : ((runRequests sampleRequests).2.db.getStay "s_1").any
      (fun stay => decide (stay.roomId = some 101 ∧ stay.checkIn = 1000 ∧ stay.checkOut = 2000)) = true := by
    decide +kernel
  rw [Option.any_eq_true] at hfound
  obtain ⟨stay, hs, hcolumns⟩ := hfound
  exact ⟨stay, hs, of_decide_eq_true hcolumns⟩

/-- On the last second of the stay a usable key is issued. -/
theorem issue_usable_at_checkout :
    ∃ stay, (runRequests sampleRequests).2.db.getStay "s_1" = some stay ∧
      RefusedOrUsable Env.sample sampleKey (runRequests sampleRequests).2.db stay 101 2000
        ((issueForStay Env.sample sampleKey "s_1" 2000 sampleFresh).run
          (runRequests sampleRequests).2.db) := by
  obtain ⟨stay, hs, hr, hin, hout⟩ := sample_stay
  have hnone : (runRequests sampleRequests).2.db.keys.rows = [] := by decide +kernel
  refine ⟨stay, hs, (issue_usable_iff Env.sample_correct (by decide) sampleKey hs hr ?_ ?_ ?_ 2000).mpr ?_⟩
  · rw [hin, hout]; decide
  · rw [hin, hout]; decide
  · intro k hk
    rw [← Table.mem_rows, hnone] at hk
    cases hk
  · rw [hout]

/-- One second later a key is issued that is neither refused nor usable. -/
theorem elapsed_stay_is_issued :
    ∃ stay, (runRequests sampleRequests).2.db.getStay "s_1" = some stay ∧ stay.checkOut < 2001 ∧
      (∃ issued, ((issueForStay Env.sample sampleKey "s_1" 2001 sampleFresh).run
        (runRequests sampleRequests).2.db).1 = .ok issued) ∧
      ¬ RefusedOrUsable Env.sample sampleKey (runRequests sampleRequests).2.db stay 101 2001
        ((issueForStay Env.sample sampleKey "s_1" 2001 sampleFresh).run
          (runRequests sampleRequests).2.db) := by
  obtain ⟨stay, hs, hr, hin, hout⟩ := sample_stay
  refine ⟨stay, hs, by rw [hout]; decide, ?_, ?_⟩
  · have hok : ((issueForStay Env.sample sampleKey "s_1" 2001 sampleFresh).run
        (runRequests sampleRequests).2.db).1.isOk = true := by decide +kernel
    cases h : ((issueForStay Env.sample sampleKey "s_1" 2001 sampleFresh).run
        (runRequests sampleRequests).2.db).1 with
    | ok issued => exact ⟨issued, rfl⟩
    | error e => rw [h] at hok; cases hok
  · exact not_refusedOrUsable_of_elapsed Env.sample_correct hs hr (by rw [hin, hout]; decide)
      (by rw [hout]; decide)

end StayKey.Service
