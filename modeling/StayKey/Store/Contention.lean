/-
StayKey.Store.Contention — many stays after few rooms.

Any number of `assign_room` calls run at once, each for a stay of its own:
a turn reads the stay of a call or runs its transaction (`AssignPhase`).
The stays overlap pairwise, so no two of them can have one room; and as
long as a candidate room is left, the next transaction takes one. So of
`k` calls and `n` rooms exactly `min k n` succeed, whatever the order
(`assignment_exact`).

`Sharing` is the invariant: which call has which room, and that a call is
refused only when every room is taken.
-/
import StayKey.Program.Schedule
import StayKey.Store.CallTheorems
import Mathlib.Data.Set.Card

namespace StayKey.Store

open StayKey.Codec StayKey.Door StayKey.Program

variable {ι : Type}

/-- Calls of `assign_room` and the database they run on. -/
abbrev AssignCalls (ι : Type) := Threads ι Stmt Stmt.Res Exc Int Db

/-- All calls are at their beginning. -/
def assignCalls (S : ι → String) (preferred : ι → Option Int) (db : Db) : AssignCalls ι :=
  ⟨fun i => assignRoom (S i) (preferred i), db⟩

/-! ## One call, turn by turn -/

/-- Where a call of `assign_room` can be: it has not read the stay, it has
read the row `stay`, without a room, or it has ended. -/
inductive AssignPhase (S : String) (preferred : Option Int) (stay : StayRow) : Call Int → Prop
  | start : AssignPhase S preferred stay (assignRoom S preferred)
  | commit : AssignPhase S preferred stay (Stmt.call (.assignTransaction S stay preferred))
  | ended {p : Call Int} {o : Except Exc Int} (h : p.outcome? = some o) :
      AssignPhase S preferred stay p

section

variable {db : Db} {S : String} {stay : StayRow} {preferred : Option Int}

/-- The first turn reads the stay. -/
theorem next_assignRoom (hs : db.getStay S = some stay) : (assignRoom S preferred).next exec db =
    match stay.roomId with
    | some roomId => (.ret roomId, db)
    | none => (Stmt.call (.assignTransaction S stay preferred), db) := by
  have hread : (assignRoom S preferred).next exec db = (match stay.roomId with
      | some roomId => .ret roomId
      | none => Stmt.call (.assignTransaction S stay preferred), db) := by
    simp only [assignRoom, Stmt.call, Prog.call_bind, Prog.ret_bind, Prog.next, exec, hs]
    rfl
  rw [hread]
  cases stay.roomId <;> rfl

/-- The second turn runs the transaction. -/
theorem next_commit (hs : ∃ s, db.getStay S = some s) (stay : StayRow) (preferred : Option Int) :
    (∃ msg, (Stmt.call (.assignTransaction S stay preferred)).next exec db
        = (.throw (.roomUnavailable msg), db) ∧
      ∀ r, db.IsCandidate stay preferred none r → ¬ db.Free r stay.checkIn stay.checkOut) ∨
    ∃ chosen, (Stmt.call (.assignTransaction S stay preferred)).next exec db
        = (.ret chosen, db.occupied S stay chosen) ∧
      db.IsCandidate stay preferred none chosen ∧ db.Free chosen stay.checkIn stay.checkOut := by
  obtain ⟨s, hs⟩ := hs
  obtain ⟨e, he, ⟨⟨msg, rfl⟩, hnone⟩ | ⟨-, hmissing⟩⟩ | ⟨chosen, he, hcand, hfree, -⟩ :=
    Db.assignTransaction_booking S stay preferred db
  · exact .inl ⟨msg, Prog.next_call_error exec he, hnone⟩
  · rw [hs] at hmissing
    cases hmissing
  · exact .inr ⟨chosen, Prog.next_call_ok exec he, hcand, hfree⟩

end

/-! ## Calls for overlapping stays -/

/-- Stays without a room, of one property and room type, that overlap pairwise. -/
structure Contending (db : Db) (S : ι → String) (stay : ι → StayRow) (propertyId roomType : String) :
    Prop where
  distinct : Function.Injective S
  getStay : ∀ i, db.getStay (S i) = some (stay i)
  noRoom : ∀ i, (stay i).roomId = none
  property : ∀ i, (stay i).propertyId = propertyId
  type : ∀ i, (stay i).roomType = roomType
  overlap : ∀ i j, i ≠ j →
    Overlap (stay i).checkIn (stay i).checkOut (stay j).checkIn (stay j).checkOut

/-- The calls share the rooms `C`: a call that returned has its room alone,
and a call was refused only when no room was left. -/
structure Sharing (db : Db) (S : ι → String) (stay : ι → StayRow) (preferred : Option Int)
    (C : Finset Int) (s : AssignCalls ι) : Prop where
  rooms : s.shared.rooms = db.rooms
  phase : ∀ i, AssignPhase (S i) preferred (stay i) (s.prog i)
  waiting : ∀ i, (s.prog i).outcome? = none → s.shared.getStay (S i) = some (stay i)
  taken : ∀ i r, (s.prog i).outcome? = some (.ok r) → r ∈ C ∧ ∃ a ∈ s.shared.assignments,
    a.active = true ∧ a.roomId = r ∧ a.checkIn = (stay i).checkIn ∧ a.checkOut = (stay i).checkOut
  taker : ∀ a ∈ s.shared.assignments, a.active = true → a.roomId ∈ C →
    (∃ j, (s.prog j).outcome? = some (.ok a.roomId)) ∨
      ∀ i, ¬ Overlap a.checkIn a.checkOut (stay i).checkIn (stay i).checkOut
  alone : ∀ i j r, (s.prog i).outcome? = some (.ok r) → (s.prog j).outcome? = some (.ok r) → i = j
  refused : ∀ i e, (s.prog i).outcome? = some (.error e) →
    (∃ msg, e = .roomUnavailable msg) ∧ ∀ r ∈ C, ∃ j, (s.prog j).outcome? = some (.ok r)

variable {db : Db} {S : ι → String} {stay : ι → StayRow} {propertyId roomType : String}
  {preferred : Option Int} {C : Finset Int} {s : AssignCalls ι}

theorem sharing_start (hc : Contending db S stay propertyId roomType)
    (hfree : ∀ r ∈ C, ∀ i, db.Free r (stay i).checkIn (stay i).checkOut) :
    Sharing db S stay preferred C (assignCalls S (fun _ => preferred) db) where
  rooms := rfl
  phase _ := .start
  waiting i _ := hc.getStay i
  taken _ _ h := nomatch h
  taker a ha hact hroom := .inr fun i => hfree a.roomId hroom i a ha hact rfl
  alone _ _ _ h := nomatch h
  refused _ _ h := nomatch h

/-- The callers that returned. -/
def returned (s : AssignCalls ι) : Set ι := {i | ∃ r, (s.prog i).outcome? = some (.ok r)}

/-- As many calls return as there are rooms, or all of them. -/
theorem Sharing.ncard_returned [Finite ι] (h : Sharing db S stay preferred C s)
    (hended : ∀ i, (s.prog i).outcome? ≠ none) : (returned s).ncard = min (Nat.card ι) C.card := by
  have hchoice (i : ι) : ∃ r, i ∈ returned s → (s.prog i).outcome? = some (.ok r) := by
    by_cases hi : i ∈ returned s
    · obtain ⟨r, hr⟩ := hi
      exact ⟨r, fun _ => hr⟩
    · exact ⟨0, fun hi' => absurd hi' hi⟩
  choose room hroom using hchoice
  have hinj : Set.InjOn room (returned s) := fun i hi j hj he =>
    h.alone i j (room i) (hroom i hi) (he ▸ hroom j hj)
  have hmaps : ∀ i ∈ returned s, room i ∈ (C : Set Int) := fun i hi => (h.taken i _ (hroom i hi)).1
  have hleC : (returned s).ncard ≤ C.card := by
    rw [← Set.ncard_coe_finset C]
    exact Set.ncard_le_ncard_of_injOn room hmaps hinj C.finite_toSet
  by_cases hall : ∃ i e, (s.prog i).outcome? = some (.error e)
  · -- somebody was refused, so every room is taken
    obtain ⟨i, e, hi⟩ := hall
    have hsub : (C : Set Int) ⊆ room '' returned s := by
      intro r hr
      obtain ⟨j, hj⟩ := (h.refused i e hi).2 r hr
      have hjr := hroom j ⟨r, hj⟩
      rw [hj] at hjr
      cases hjr
      exact ⟨j, ⟨_, hj⟩, rfl⟩
    have hCle : C.card ≤ (returned s).ncard := by
      rw [← Set.ncard_coe_finset C, ← hinj.ncard_image]
      exact Set.ncard_le_ncard hsub
    have hle : (returned s).ncard ≤ Nat.card ι := by
      rw [← Set.ncard_univ]
      exact Set.ncard_le_ncard (Set.subset_univ _)
    omega
  · -- nobody was refused
    have huniv : returned s = Set.univ := by
      refine Set.eq_univ_of_forall fun i => ?_
      cases ho : (s.prog i).outcome? with
      | none => exact absurd ho (hended i)
      | some o =>
        cases o with
        | ok r => exact ⟨r, ho⟩
        | error e => exact absurd ⟨i, e, ho⟩ hall
    rw [huniv, Set.ncard_univ] at hleC ⊢
    omega

variable [DecidableEq ι]

/-! ## Turns -/

/-- The first turn of a call only reads. -/
theorem Sharing.read (h : Sharing db S stay preferred C s) (hc : Contending db S stay propertyId roomType)
    {i : ι} (hi : s.prog i = assignRoom (S i) preferred) :
    Sharing db S stay preferred C (s.turn exec i) := by
  have hopen : (s.prog i).outcome? = none := by rw [hi]; rfl
  have hnext : (s.prog i).next exec s.shared
      = (Stmt.call (.assignTransaction (S i) (stay i) preferred), s.shared) := by
    rw [hi, next_assignRoom (h.waiting i hopen), hc.noRoom]
  have hshared : (s.turn exec i).shared = s.shared := congrArg Prod.snd hnext
  have hout (j : ι) (o : Except Exc Int) :
      ((s.turn exec i).prog j).outcome? = some o ↔ (s.prog j).outcome? = some o := by
    rw [Threads.outcome?_turn_iff hopen, hnext, or_iff_left]
    exact fun hno => nomatch hno.2
  refine ⟨by rw [hshared]; exact h.rooms, fun j => ?_, fun j hj => ?_, ?_, ?_, ?_, ?_⟩
  · rcases Threads.prog_turn exec i j s with hj | ⟨rfl, hj⟩
    · rw [hj]; exact h.phase j
    · rw [hj, hnext]; exact .commit
  · rw [hshared]
    exact h.waiting j (Threads.open_of_turn hj)
  · simpa only [hout, hshared] using h.taken
  · simpa only [hout, hshared] using h.taker
  · simpa only [hout] using h.alone
  · simpa only [hout] using h.refused

/-- A call is refused when every candidate room is taken. -/
theorem Sharing.refuse (h : Sharing db S stay preferred C s) {i : ι} {msg : String}
    (hopen : (s.prog i).outcome? = none)
    (hnext : (s.prog i).next exec s.shared = (.throw (.roomUnavailable msg), s.shared))
    (hnone : ∀ r ∈ C, ¬ s.shared.Free r (stay i).checkIn (stay i).checkOut) :
    Sharing db S stay preferred C (s.turn exec i) := by
  have hshared : (s.turn exec i).shared = s.shared := congrArg Prod.snd hnext
  have hout (j : ι) (o : Except Exc Int) : ((s.turn exec i).prog j).outcome? = some o ↔
      (s.prog j).outcome? = some o ∨ j = i ∧ .error (.roomUnavailable msg) = o := by
    rw [Threads.outcome?_turn_iff hopen, hnext, Prog.outcome?, Option.some_inj]
  have hok (j : ι) (r : Int) : ((s.turn exec i).prog j).outcome? = some (.ok r) ↔
      (s.prog j).outcome? = some (.ok r) := by
    rw [hout, or_iff_left]
    exact fun hno => nomatch hno.2
  refine ⟨by rw [hshared]; exact h.rooms, fun j => ?_, fun j hj => ?_, ?_, ?_, ?_, ?_⟩
  · rcases Threads.prog_turn exec i j s with hj | ⟨rfl, hj⟩
    · rw [hj]; exact h.phase j
    · rw [hj, hnext]; exact .ended rfl
  · rw [hshared]
    exact h.waiting j (Threads.open_of_turn hj)
  · simpa only [hok, hshared] using h.taken
  · simpa only [hok, hshared] using h.taker
  · simpa only [hok] using h.alone
  · intro j e hj
    simp only [hok]
    rcases (hout j _).mp hj with hj | ⟨rfl, he⟩
    · exact h.refused j e hj
    · cases he
      refine ⟨⟨msg, rfl⟩, fun r hr => ?_⟩
      -- what is in the way of the stay is the assignment of a call that returned
      have hbusy := hnone r hr
      simp only [Db.Free, not_forall, not_not] at hbusy
      obtain ⟨a, ha, hact, rfl, hoverlap⟩ := hbusy
      exact (h.taker a ha hact hr).resolve_right fun hno => hno j hoverlap

/-- A call takes a free room, which no other call has. -/
theorem Sharing.take (h : Sharing db S stay preferred C s) (hc : Contending db S stay propertyId roomType)
    {i : ι} {chosen : Int} (hopen : (s.prog i).outcome? = none)
    (hnext : (s.prog i).next exec s.shared
      = (.ret chosen, s.shared.occupied (S i) (stay i) chosen))
    (hmem : chosen ∈ C) (hfree : s.shared.Free chosen (stay i).checkIn (stay i).checkOut) :
    Sharing db S stay preferred C (s.turn exec i) := by
  have hshared : (s.turn exec i).shared = s.shared.occupied (S i) (stay i) chosen :=
    congrArg Prod.snd hnext
  have hout (j : ι) (o : Except Exc Int) : ((s.turn exec i).prog j).outcome? = some o ↔
      (s.prog j).outcome? = some o ∨ j = i ∧ .ok chosen = o := by
    rw [Threads.outcome?_turn_iff hopen, hnext, Prog.outcome?, Option.some_inj]
  -- whoever has the chosen room overlaps the stay, and the room is free
  have hlone (j : ι) (hj : (s.prog j).outcome? = some (.ok chosen)) : False := by
    obtain ⟨-, a, ha, hact, hroom, hin, hout⟩ := h.taken j chosen hj
    have hne : j ≠ i := by
      rintro rfl
      rw [hopen] at hj
      cases hj
    have hoverlap := hc.overlap j i hne
    rw [← hin, ← hout] at hoverlap
    exact hfree a ha hact hroom hoverlap
  refine ⟨by rw [hshared]; exact h.rooms, fun j => ?_, fun j hj => ?_, fun j r hj => ?_,
    fun a ha hact hroom => ?_, fun j k r hj hk => ?_, fun j e hj => ?_⟩
  · rcases Threads.prog_turn exec i j s with hj | ⟨rfl, hj⟩
    · rw [hj]; exact h.phase j
    · rw [hj, hnext]; exact .ended rfl
  · have hne : j ≠ i := by
      rintro rfl
      rw [(hout j _).mpr (.inr ⟨rfl, rfl⟩)] at hj
      cases hj
    rw [hshared, Db.getStay_occupied, h.waiting j (Threads.open_of_turn hj), Option.map_some,
      if_neg (hc.distinct.ne hne)]
  · rw [hshared]
    rcases (hout j _).mp hj with hj | ⟨rfl, hr⟩
    · obtain ⟨hr, a, ha, hact⟩ := h.taken j r hj
      exact ⟨hr, a, Db.mem_occupied.mpr (.inl ha), hact⟩
    · cases hr
      exact ⟨hmem, _, Db.mem_occupied.mpr (.inr rfl), rfl, rfl, rfl, rfl⟩
  · simp only [hout]
    rw [hshared] at ha
    rcases Db.mem_occupied.mp ha with ha | rfl
    · exact (h.taker a ha hact hroom).imp_left fun ⟨j, hj⟩ => ⟨j, .inl hj⟩
    · exact .inl ⟨i, .inr ⟨rfl, rfl⟩⟩
  · rcases (hout j _).mp hj with hj' | ⟨rfl, hjr⟩ <;> rcases (hout k _).mp hk with hk' | ⟨rfl, hkr⟩
    · exact h.alone j k r hj' hk'
    · cases hkr; exact (hlone j hj').elim
    · cases hjr; exact (hlone k hk').elim
    · rfl
  · rcases (hout j _).mp hj with hj | ⟨-, hj⟩
    · obtain ⟨hmsg, hall⟩ := h.refused j e hj
      refine ⟨hmsg, fun r hr => ?_⟩
      obtain ⟨k, hk⟩ := hall r hr
      exact ⟨k, (hout k _).mpr (.inl hk)⟩
    · cases hj

theorem isCandidate_congr {db db' : Db} (h : db'.rooms = db.rooms) (stay : StayRow)
    (requested avoid : Option Int) (roomId : Int) :
    db'.IsCandidate stay requested avoid roomId ↔ db.IsCandidate stay requested avoid roomId := by
  rw [Db.IsCandidate, Db.IsCandidate, h]

/-- **A turn of any call** keeps the rooms shared. -/
theorem Sharing.turn (h : Sharing db S stay preferred C s) (hc : Contending db S stay propertyId roomType)
    (hcand : ∀ i r, db.IsCandidate (stay i) preferred none r ↔ r ∈ C) (i : ι) :
    Sharing db S stay preferred C (s.turn exec i) := by
  generalize hp : s.prog i = p
  have hphase := h.phase i
  rw [hp] at hphase
  cases hphase with
  | start => exact h.read hc hp
  | commit =>
    have hopen : (s.prog i).outcome? = none := by rw [hp]; rfl
    have hcand' (r : Int) : s.shared.IsCandidate (stay i) preferred none r ↔ r ∈ C :=
      (isCandidate_congr h.rooms _ _ _ r).trans (hcand i r)
    obtain ⟨msg, hnext, hnone⟩ | ⟨chosen, hnext, hchosen, hfree⟩ :=
      next_commit ⟨_, h.waiting i hopen⟩ (stay i) preferred
    · rw [← hp] at hnext
      exact h.refuse hopen hnext fun r hr => hnone r ((hcand' r).mpr hr)
    · rw [← hp] at hnext
      exact h.take hc hopen hnext ((hcand' chosen).mp hchosen) hfree
  | ended ho =>
    rw [← hp] at ho
    rw [Threads.turn_of_ended ho]
    exact h

/-- A turn in which a call raises changes no row. -/
theorem Sharing.unchanged (h : Sharing db S stay preferred C s)
    (hc : Contending db S stay propertyId roomType) {i : ι} {exc : Exc}
    (hexc : ((s.turn exec i).prog i).outcome? = some (.error exc)) :
    (s.turn exec i).shared = s.shared := by
  generalize hp : s.prog i = p
  have hphase := h.phase i
  rw [hp] at hphase
  cases hphase with
  | start =>
    have hopen : (s.prog i).outcome? = none := by rw [hp]; rfl
    rw [Threads.turn, hp, next_assignRoom (h.waiting i hopen), hc.noRoom]
  | commit =>
    have hopen : (s.prog i).outcome? = none := by rw [hp]; rfl
    obtain ⟨msg, hnext, -⟩ | ⟨chosen, hnext, -⟩ :=
      next_commit ⟨_, h.waiting i hopen⟩ (stay i) preferred
    · rw [Threads.turn, hp, hnext]
    · rw [Threads.prog_turn_self, hp, hnext] at hexc
      cases hexc
  | ended ho =>
    rw [← hp] at ho
    rw [Threads.turn_of_ended ho]

/-! ## Runs -/

theorem sharing_schedule (hc : Contending db S stay propertyId roomType)
    (hcand : ∀ i r, db.IsCandidate (stay i) preferred none r ↔ r ∈ C)
    (hfree : ∀ r ∈ C, ∀ i, db.Free r (stay i).checkIn (stay i).checkOut)
    {h : List (Turn ι Stmt Stmt.Res Exc Int Db)}
    (hs : Schedule exec (assignCalls S (fun _ => preferred) db) h s) :
    Sharing db S stay preferred C s :=
  hs.invariant (I := Sharing db S stay preferred C) (sharing_start hc hfree)
    (fun _ i hi (_ : True) => hi.turn hc hcand i) fun _ _ => trivial

/-- `n` rooms are shared out among the callers, one to each that returned;
the others were told that no room is free, and wrote nothing. -/
structure SharedOut (n : Nat) (h : List (Turn ι Stmt Stmt.Res Exc Int Db)) (s : AssignCalls ι) :
    Prop where
  count : (returned s).ncard = min (Nat.card ι) n
  distinct : ∀ i j r, (s.prog i).outcome? = some (.ok r) → (s.prog j).outcome? = some (.ok r) → i = j
  others : ∀ i, i ∈ returned s ∨ ∃ msg, (s.prog i).outcome? = some (.error (.roomUnavailable msg))
  unchanged : ∀ e ∈ h, ∀ exc, ((e.afterTurn exec).prog e.request).outcome? = some (.error exc) →
    (e.afterTurn exec).shared = e.before.shared

theorem Sharing.sharedOut [Finite ι] (hc : Contending db S stay propertyId roomType)
    (hcand : ∀ i r, db.IsCandidate (stay i) preferred none r ↔ r ∈ C)
    (hfree : ∀ r ∈ C, ∀ i, db.Free r (stay i).checkIn (stay i).checkOut)
    {h : List (Turn ι Stmt Stmt.Res Exc Int Db)}
    (hs : Schedule exec (assignCalls S (fun _ => preferred) db) h s)
    (hended : ∀ i, (s.prog i).outcome? ≠ none) : SharedOut C.card h s where
  count := (sharing_schedule hc hcand hfree hs).ncard_returned hended
  distinct := (sharing_schedule hc hcand hfree hs).alone
  others i := by
    cases ho : (s.prog i).outcome? with
    | none => exact absurd ho (hended i)
    | some o =>
      cases o with
      | ok r => exact .inl ⟨r, ho⟩
      | error e =>
        obtain ⟨⟨msg, rfl⟩, -⟩ := (sharing_schedule hc hcand hfree hs).refused i e ho
        exact .inr ⟨msg, rfl⟩
  unchanged e he exc hexc := by
    obtain ⟨h', hs', -⟩ := hs.of_mem he
    exact (sharing_schedule hc hcand hfree hs').unchanged hc hexc

/-- The rooms of a property and type. -/
def Db.roomsOf (db : Db) (propertyId roomType : String) : List RoomRow :=
  db.rooms.rows.filter fun room => room.propertyId = propertyId && room.roomType = roomType

theorem mem_roomsOf {room : RoomRow} :
    room ∈ db.roomsOf propertyId roomType ↔
      room ∈ db.rooms ∧ room.propertyId = propertyId ∧ room.roomType = roomType := by
  rw [Db.roomsOf, List.mem_filter, Bool.and_eq_true, decide_eq_true_eq, decide_eq_true_eq,
    Table.mem_rows]

theorem card_roomsOf (db : Db) (propertyId roomType : String) :
    ((db.roomsOf propertyId roomType).map RoomRow.roomId).toFinset.card
      = (db.roomsOf propertyId roomType).length := by
  have hnodup : ((db.roomsOf propertyId roomType).map RoomRow.roomId).Nodup :=
    db.rooms.nodup.sublist (List.filter_sublist.map _)
  rw [List.toFinset_card_of_nodup hnodup, List.length_map]

/-- **Room assignment is exact under contention.** Without a preferred room,
`k` overlapping stays get `min k n` of the `n` rooms of their type, if all
of these are free for them; and of calls that name one free room, one gets
it. -/
theorem assignment_exact [Finite ι] (hc : Contending db S stay propertyId roomType) :
    ((∀ room ∈ db.roomsOf propertyId roomType, ∀ i,
        db.Free room.roomId (stay i).checkIn (stay i).checkOut) →
      ∀ h s, Schedule exec (assignCalls S (fun _ => none) db) h s →
        (∀ i, (s.prog i).outcome? ≠ none) →
        SharedOut (db.roomsOf propertyId roomType).length h s) ∧
    ∀ room ∈ db.rooms, room.propertyId = propertyId →
      (∀ i, db.Free room.roomId (stay i).checkIn (stay i).checkOut) →
      ∀ h s, Schedule exec (assignCalls S (fun _ => some room.roomId) db) h s →
        (∀ i, (s.prog i).outcome? ≠ none) →
        SharedOut 1 h s ∧ (Nonempty ι → ∃! i, (s.prog i).outcome? = some (.ok room.roomId)) := by
  constructor
  · intro hfree h s hs hended
    rw [← card_roomsOf]
    refine Sharing.sharedOut hc (fun i r => ?_) (fun r hr i => ?_) hs hended
    · simp only [Db.IsCandidate, hc.property, hc.type, List.mem_toFinset, List.mem_map, mem_roomsOf]
      refine exists_congr fun room => ?_
      constructor
      · rintro ⟨hmem, hid, hp, ht, -⟩
        exact ⟨⟨hmem, hp, ht⟩, hid⟩
      · rintro ⟨⟨hmem, hp, ht⟩, hid⟩
        exact ⟨hmem, hid, hp, ht, by simp⟩
    · obtain ⟨room, hroom, rfl⟩ := List.mem_map.mp (List.mem_toFinset.mp hr)
      exact hfree room hroom i
  · intro room hroom hp hfree h s hs hended
    have hcand (i : ι) (r : Int) :
        db.IsCandidate (stay i) (some room.roomId) none r ↔ r ∈ ({room.roomId} : Finset Int) := by
      rw [Finset.mem_singleton, Db.IsCandidate, hc.property]
      constructor
      · rintro ⟨-, -, -, -, rfl⟩; rfl
      · rintro rfl; exact ⟨room, hroom, rfl, hp, rfl⟩
    have hfree' : ∀ r ∈ ({room.roomId} : Finset Int), ∀ i,
        db.Free r (stay i).checkIn (stay i).checkOut := by
      intro r hr
      obtain rfl := Finset.mem_singleton.mp hr
      exact hfree
    have hout := Sharing.sharedOut hc hcand hfree' hs hended
    rw [Finset.card_singleton] at hout
    refine ⟨hout, fun _ => ?_⟩
    have hone : (returned s).ncard = 1 := by
      rw [hout.count, min_eq_right (Nat.card_pos (α := ι))]
    obtain ⟨i, hi⟩ := Set.ncard_eq_one.mp hone
    obtain ⟨r, hr⟩ : i ∈ returned s := hi ▸ Set.mem_singleton i
    obtain rfl := Finset.mem_singleton.mp ((sharing_schedule hc hcand hfree' hs).taken i r hr).1
    exact ⟨i, hr, fun j hj => hout.distinct j i _ hj hr⟩

/-! ## Three guests and two rooms -/

/-- Two rooms, and three stays without one. -/
def crowd : List (Call Unit) :=
  [ (Stmt.addGuest "g_1" "Ada" "ada@example.org").call,
    (Stmt.addRoom 101 "P" "101" "king").call,
    (Stmt.addRoom 102 "P" "102" "king").call,
    (Stmt.addStay "s_0" "g_1" "P" "king" 1000 2000).call,
    (Stmt.addStay "s_1" "g_1" "P" "king" 1500 2500).call,
    (Stmt.addStay "s_2" "g_1" "P" "king" 1900 2100).call ]

def crowdDb : Db := crowd.foldl (fun db p => (p.run db).2) .empty

def crowdStay : Fin 3 → StayRow
  | 0 => ⟨"s_0", "g_1", "P", "king", none, 1000, 2000, .reserved⟩
  | 1 => ⟨"s_1", "g_1", "P", "king", none, 1500, 2500, .reserved⟩
  | 2 => ⟨"s_2", "g_1", "P", "king", none, 1900, 2100, .reserved⟩

/-- All three read their stays before the first one commits. -/
def crowdOrder : List (Fin 3) := [0, 1, 2, 2, 0, 1]

theorem assignment_exact_crowd :
    (returned (runAll (fun i s => ((), s.turn exec i))
      (assignCalls (fun i => (crowdStay i).stayId) (fun _ => none) crowdDb) crowdOrder).2).ncard = 2 := by
  have hc : Contending crowdDb (fun i => (crowdStay i).stayId) crowdStay "P" "king" :=
    { distinct := by decide
      getStay := by decide
      noRoom := by decide
      property := by decide
      type := by decide
      overlap := by decide }
  have hfree : ∀ room ∈ crowdDb.roomsOf "P" "king", ∀ i,
      crowdDb.Free room.roomId (crowdStay i).checkIn (crowdStay i).checkOut :=
    fun _ _ _ a ha => absurd ha (Table.notMem_empty a)
  have hs := History.of_runAll (fun i s => ((), s.turn exec i))
    (assignCalls (fun i => (crowdStay i).stayId) (fun _ => none) crowdDb) crowdOrder
  have hout := (assignment_exact hc).1 hfree _ _ hs (by decide)
  rw [hout.count, Nat.card_eq_fintype_card]
  decide

end StayKey.Store
