/-
StayKey.Store.DoubleAssign — one stay, assigned by several calls at once.

`assign_room` asks whether the stay has a room before its transaction
begins. A call that read the stay before another one committed runs its
transaction all the same, and gives the stay a second room if one is free
for it (`SecondRoom`). Calls of one stay agree with each other in exactly
the runs in which this does not happen (`assign_agrees_iff`).
-/
import StayKey.Store.Booking
import StayKey.Store.Contention

namespace StayKey.Store

open StayKey.Codec StayKey.Door StayKey.Program

variable {ι : Type} {db : Db} {S : String} {stay : StayRow} {ρ : Option Int}
  {preferred : ι → Option Int} {s : AssignCalls ι} {h : List (Turn ι Stmt Stmt.Res Exc Int Db)}

/-- The calls that returned have the same room, and the stay holds one
active assignment, which is for the room in its row. -/
structure AgreesWithItself (S : String) (s : AssignCalls ι) : Prop where
  sameRoom : ∀ i j r r', (s.prog i).outcome? = some (.ok r) → (s.prog j).outcome? = some (.ok r') →
    r = r'
  oneAssignment : ∀ i r, (s.prog i).outcome? = some (.ok r) → ∃ a ∈ s.shared.assignments,
    (a.active = true ∧ a.stayId = S) ∧ StayIs s.shared S (fun row => row.roomId = some a.roomId) ∧
    ∀ b ∈ s.shared.assignments, b.active = true → b.stayId = S → b = a

/-- The turn of `i` runs a transaction for the stay, which has got a room since it
was read, and a candidate room is free. -/
def SecondRoom (S : String) (s : AssignCalls ι) (i : ι) : Prop :=
  ∃ stay preferred r, s.prog i = Stmt.call (.assignTransaction S stay preferred) ∧
    StayIs s.shared S (fun row => row.roomId ≠ none) ∧
    s.shared.IsCandidate stay preferred none r ∧ s.shared.Free r stay.checkIn stay.checkOut

/-! ## One turn -/

/-- A turn of a call reads, or is refused, or books a free candidate. -/
theorem assign_next {preferred : Option Int} {p : Call Int} (hp : AssignPhase S preferred stay p)
    (hopen : p.outcome? = none) (hrow : db.getStay S = some { stay with roomId := ρ })
    (hnone : stay.roomId = none) :
    (∃ p', p.next exec db = (p', db) ∧ AssignPhase S preferred stay p' ∧
      ∀ r, p'.outcome? = some (.ok r) → ρ = some r) ∨
    ∃ chosen, p = Stmt.call (.assignTransaction S stay preferred) ∧
      p.next exec db = (.ret chosen, db.occupied S stay chosen) ∧
      db.IsCandidate stay preferred none chosen ∧ db.Free chosen stay.checkIn stay.checkOut := by
  cases hp with
  | start =>
    rw [next_assignRoom hrow]
    cases ρ with
    | some r => exact .inl ⟨_, rfl, .ended rfl, fun r' hr => by cases hr; rfl⟩
    | none =>
      -- without a room the row is still the one the calls began with
      have hsame : { stay with roomId := none } = stay := by rw [← hnone]
      refine .inl ⟨_, rfl, ?_, nofun⟩
      rw [hsame]
      exact .commit
  | commit =>
    obtain ⟨msg, hnext, -⟩ | ⟨chosen, hnext, hcand, hfree⟩ := next_commit ⟨_, hrow⟩ stay preferred
    · exact .inl ⟨_, hnext, .ended rfl, nofun⟩
    · exact .inr ⟨chosen, rfl, hnext, hcand, hfree⟩
  | ended ho =>
    rw [hopen] at ho
    cases ho

/-- The room `ρ` of the stay is the room of an active assignment, and a
stay without a room has no assignment and was given none. -/
structure Assigning (S : String) (stay : StayRow) (preferred : ι → Option Int) (s : AssignCalls ι)
    (ρ : Option Int) : Prop where
  phase : ∀ i, AssignPhase S (preferred i) stay (s.prog i)
  row : s.shared.getStay S = some { stay with roomId := ρ }
  unassigned : ρ = none → (∀ a ∈ s.shared.assignments, a.stayId ≠ S) ∧
    ∀ i r, (s.prog i).outcome? ≠ some (.ok r)
  assigned : ∀ r, ρ = some r →
    ∃ a ∈ s.shared.assignments, a.active = true ∧ a.stayId = S ∧ a.roomId = r

/-- No call has returned another room, and there is no other assignment. -/
structure Agreeing (S : String) (s : AssignCalls ι) (ρ : Option Int) : Prop where
  same : ∀ i r, (s.prog i).outcome? = some (.ok r) → ρ = some r
  one : ∀ a ∈ s.shared.assignments, ∀ b ∈ s.shared.assignments, a.active = true → a.stayId = S →
    b.active = true → b.stayId = S → a = b

theorem Agreeing.agrees (ha : Assigning S stay preferred s ρ) (h : Agreeing S s ρ) :
    AgreesWithItself S s where
  sameRoom i j r r' hi hj := Option.some.inj ((h.same i r hi).symm.trans (h.same j r' hj))
  oneAssignment i r hi := by
    obtain ⟨a, hmem, hact, hid, hroom⟩ := ha.assigned r (h.same i r hi)
    refine ⟨a, hmem, ⟨hact, hid⟩, ⟨_, ha.row, ?_⟩, fun b hb hb' hid' => h.one b hb a hmem hb' hid' hact hid⟩
    rw [hroom]
    exact h.same i r hi

variable [DecidableEq ι]

/-- **A turn of any call**, where `S` has a room or not. -/
theorem Assigning.turn (ha : Assigning S stay preferred s ρ) (hnone : stay.roomId = none) (i : ι) :
    ∃ ρ', Assigning S stay preferred (s.turn exec i) ρ' ∧
      (Agreeing S s ρ → ¬ SecondRoom S s i → Agreeing S (s.turn exec i) ρ') := by
  cases ho : (s.prog i).outcome? with
  | some o =>
    rw [Threads.turn_of_ended ho]
    exact ⟨ρ, ha, fun h _ => h⟩
  | none =>
    have hphase {p' : Call Int} {t : Db} (hnext : (s.prog i).next exec s.shared = (p', t))
        (hp' : AssignPhase S (preferred i) stay p') (j : ι) :
        AssignPhase S (preferred j) stay ((s.turn exec i).prog j) := by
      rcases Threads.prog_turn exec i j s with hj | ⟨rfl, hj⟩
      · rw [hj]; exact ha.phase j
      · rw [hj, hnext]; exact hp'
    obtain ⟨p', hnext, hp', hret⟩ | ⟨chosen, hp, hnext, hcand, hfree⟩ :=
      assign_next (ha.phase i) ho ha.row hnone
    · -- the turn writes nothing
      have hshared : (s.turn exec i).shared = s.shared := congrArg Prod.snd hnext
      have hout {j : ι} {r : Int} (hj : ((s.turn exec i).prog j).outcome? = some (.ok r)) :
          (s.prog j).outcome? = some (.ok r) ∨ ρ = some r := by
        rw [Threads.outcome?_turn_iff ho, hnext] at hj
        exact hj.imp_right fun hj => hret r hj.2
      refine ⟨ρ, ⟨hphase hnext hp', by rw [hshared]; exact ha.row, fun hρ => ?_, ?_⟩, fun h _ => ⟨?_, ?_⟩⟩
      · rw [hshared]
        refine ⟨(ha.unassigned hρ).1, fun j r hj => ?_⟩
        rcases hout hj with hj | hj
        · exact (ha.unassigned hρ).2 j r hj
        · rw [hρ] at hj
          cases hj
      · rw [hshared]; exact ha.assigned
      · intro j r hj
        exact (hout hj).elim (h.same j r) id
      · rw [hshared]; exact h.one
    · -- the turn books a room
      have hshared : (s.turn exec i).shared = s.shared.occupied S stay chosen := congrArg Prod.snd hnext
      refine ⟨some chosen, ⟨hphase hnext (.ended rfl), ?_, nofun, fun r hr => ?_⟩, fun h hno => ?_⟩
      · rw [hshared, Db.getStay_occupied, ha.row, Option.map_some, if_pos rfl]
      · cases hr
        rw [hshared]
        exact ⟨_, Db.mem_occupied.mpr (.inr rfl), rfl, rfl, rfl⟩
      · -- it is the first one, since no second one is free
        have hρ : ρ = none := by
          cases ρ with
          | none => rfl
          | some r => exact absurd ⟨stay, preferred i, chosen, hp, ⟨_, ha.row, nofun⟩, hcand, hfree⟩ hno
        obtain ⟨hfresh, hnoret⟩ := ha.unassigned hρ
        refine ⟨fun j r hj => ?_, ?_⟩
        · rw [Threads.outcome?_turn_iff ho, hnext] at hj
          rcases hj with hj | ⟨-, hj⟩
          · exact absurd hj (hnoret j r)
          · cases hj; rfl
        · rw [hshared]
          rintro a hmem b hmem' - hid - hid'
          rcases Db.mem_occupied.mp hmem with hmem | rfl
          · exact absurd hid (hfresh a hmem)
          rcases Db.mem_occupied.mp hmem' with hmem' | rfl
          · exact absurd hid' (hfresh b hmem')
          · rfl

/-- No call takes an assignment away. -/
theorem Assigning.mem_turn (ha : Assigning S stay preferred s ρ) (hnone : stay.roomId = none) (i : ι)
    {a : AssignmentRow} (hmem : a ∈ s.shared.assignments) : a ∈ (s.turn exec i).shared.assignments := by
  cases ho : (s.prog i).outcome? with
  | some o => rwa [Threads.turn_of_ended ho]
  | none =>
    obtain ⟨p', hnext, -⟩ | ⟨chosen, -, hnext, -⟩ := assign_next (ha.phase i) ho ha.row hnone
    · rwa [Threads.turn, hnext]
    · rw [Threads.turn, hnext]
      exact Db.mem_occupied.mpr (.inl hmem)

/-- Two active assignments of the stay, and a call that returned. -/
def TwoRooms (S : String) (s : AssignCalls ι) : Prop :=
  (∃ i r, (s.prog i).outcome? = some (.ok r)) ∧ ∃ a ∈ s.shared.assignments,
    ∃ b ∈ s.shared.assignments, (a.active = true ∧ a.stayId = S) ∧ (b.active = true ∧ b.stayId = S) ∧ a ≠ b

omit [DecidableEq ι] in
theorem TwoRooms.disagree (h : TwoRooms S s) : ¬ AgreesWithItself S s := by
  obtain ⟨⟨i, r, hi⟩, a, ha, b, hb, ⟨hact, hid⟩, ⟨hact', hid'⟩, hne⟩ := h
  intro hagree
  obtain ⟨c, -, -, -, hall⟩ := hagree.oneAssignment i r hi
  exact hne ((hall a ha hact hid).trans (hall b hb hact' hid').symm)

/-- **The second room is given**, beside the first one. -/
theorem SecondRoom.twoRooms {i : ι} (h : SecondRoom S s i) (ha : Assigning S stay preferred s ρ) :
    TwoRooms S (s.turn exec i) := by
  obtain ⟨row, p, r, hp, ⟨row', hs, hroom⟩, hcand, hfree⟩ := h
  have hrow := ha.row
  rw [hs] at hrow
  cases hrow
  obtain ⟨r₀, rfl⟩ := Option.ne_none_iff_exists'.mp hroom
  obtain ⟨a, hmem, hact, hid, -⟩ := ha.assigned r₀ rfl
  obtain ⟨msg, -, hnone⟩ | ⟨chosen, hnext, -⟩ := next_commit ⟨_, hs⟩ row p
  · exact absurd hfree (hnone r hcand)
  · rw [← hp] at hnext
    have hret : ((s.turn exec i).prog i).outcome? = some (.ok chosen) := by
      rw [Threads.prog_turn_self, hnext]
      rfl
    refine ⟨⟨i, chosen, hret⟩, ?_⟩
    rw [Threads.turn, hnext]
    refine ⟨a, Db.mem_occupied.mpr (.inl hmem), _,
      Db.mem_occupied.mpr (.inr rfl), ⟨hact, hid⟩, ⟨rfl, rfl⟩, ?_⟩
    rintro rfl
    exact absurd (Db.id_lt_nextId hmem) (lt_irrefl _)

/-! ## Runs -/

omit [DecidableEq ι] in
theorem assigning_start (hreached : Reached db) (hs : db.getStay S = some stay)
    (hnone : stay.roomId = none) :
    Assigning S stay preferred (assignCalls (fun _ => S) preferred db) none where
  phase _ := .start
  row := by
    rw [← hnone]
    exact hs
  unassigned _ := by
    refine ⟨fun a ha hid => ?_, fun _ _ => nofun⟩
    obtain ⟨row, hrow, hroom⟩ := assigned_reached hreached a ha
    rw [hid, hs] at hrow
    cases hrow
    exact hroom hnone
  assigned _ := nofun

theorem assigning_schedule (hreached : Reached db) (hs : db.getStay S = some stay)
    (hnone : stay.roomId = none)
    (hrun : Schedule exec (assignCalls (fun _ => S) preferred db) h s) :
    ∃ ρ, Assigning S stay preferred s ρ :=
  hrun.invariant (I := fun s => ∃ ρ, Assigning S stay preferred s ρ)
    ⟨none, assigning_start hreached hs hnone⟩
    (fun _ i ⟨_, ha⟩ (_ : True) => (ha.turn hnone i).imp fun _ h => h.1) fun _ _ => trivial

/-- **Concurrent calls of one stay agree exactly where no second room is
given**, in every run and at every moment of it. -/
theorem assign_agrees_iff (hreached : Reached db) (hs : db.getStay S = some stay)
    (hnone : stay.roomId = none)
    (hrun : Schedule exec (assignCalls (fun _ => S) preferred db) h s) :
    AgreesWithItself S s ↔ ∀ e ∈ h, ¬ SecondRoom S e.before e.request := by
  constructor
  · intro hagree e he hsecond
    obtain ⟨later, earlier, rfl⟩ := List.append_of_mem he
    obtain ⟨hbefore, -⟩ := hrun.of_append
    obtain ⟨ρ, ha⟩ := assigning_schedule hreached hs hnone hbefore
    have htwo : TwoRooms S s := by
      refine hrun.since (P := TwoRooms S) (hsecond.twoRooms ha) fun f hf hkept => ?_
      obtain ⟨h', hf', -⟩ := hrun.of_mem (List.mem_append_left _ hf)
      obtain ⟨ρ', ha'⟩ := assigning_schedule hreached hs hnone hf'
      obtain ⟨⟨i, r, hi⟩, a, hmem, b, hmem', hrest⟩ := hkept
      refine ⟨⟨i, r, ?_⟩, a, ha'.mem_turn hnone _ hmem, b, ha'.mem_turn hnone _ hmem', hrest⟩
      exact (congrArg Prog.outcome? (Threads.ended_turn exec hi f.request)).trans hi
    exact htwo.disagree hagree
  · intro hok
    have hstart : Assigning S stay preferred (assignCalls (fun _ => S) preferred db) none :=
      assigning_start hreached hs hnone
    obtain ⟨ρ, ha, hagree⟩ := hrun.invariant
      (I := fun s => ∃ ρ, Assigning S stay preferred s ρ ∧ Agreeing S s ρ)
      ⟨none, hstart, fun _ _ => nofun, fun a ha _ _ _ hid _ _ =>
        absurd hid ((hstart.unassigned rfl).1 a ha)⟩
      (fun _ i ⟨_, ha, hagree⟩ hok => by
        obtain ⟨ρ', ha', hagree'⟩ := ha.turn hnone i
        exact ⟨ρ', ha', hagree' hagree hok⟩) hok
    exact hagree.agrees ha

/-! ## Two calls that read first -/

/-- Both calls read the stay before either of them commits. -/
abbrev raced : List (Turn Bool Stmt Stmt.Res Exc Int Db) × AssignCalls Bool :=
  runAll (fun i s => ((), s.turn exec i)) (assignCalls (fun _ => "s_0") (fun _ => none) crowdDb)
    [false, true, false, true]

theorem raced_schedule :
    Schedule exec (assignCalls (fun _ => "s_0") (fun _ => none) crowdDb) raced.1 raced.2 :=
  History.of_runAll ..

theorem crowdDb_getStay : crowdDb.getStay "s_0" = some (crowdStay 0) := by decide

theorem not_agrees_raced : ¬ AgreesWithItself "s_0" raced.2 := fun hagree =>
  absurd (hagree.sameRoom false true 101 102 (by decide) (by decide)) (by decide)

/-- The second commit of the race gives the second room. -/
theorem assign_agrees_iff_raced : ∃ e ∈ raced.1, SecondRoom "s_0" e.before e.request := by
  by_contra hnone
  push Not at hnone
  exact not_agrees_raced
    ((assign_agrees_iff (Reached.empty.runAll crowd) crowdDb_getStay rfl raced_schedule).mpr hnone)

/-- Two calls of one stay get two rooms. -/
theorem second_room_assigned :
    ¬ ∀ (db : Db) (S : String) (stay : StayRow) (preferred : Bool → Option Int)
      (h : List (Turn Bool Stmt Stmt.Res Exc Int Db)) (s : AssignCalls Bool),
      Reached db → db.getStay S = some stay → stay.roomId = none →
      Schedule exec (assignCalls (fun _ => S) preferred db) h s → AgreesWithItself S s :=
  fun hclaim => not_agrees_raced
    (hclaim _ _ _ _ _ _ (Reached.empty.runAll crowd) crowdDb_getStay rfl raced_schedule)

end StayKey.Store
