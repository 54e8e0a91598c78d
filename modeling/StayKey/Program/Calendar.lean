/-
StayKey.Program.Calendar — who has which room at which time.

A calendar gives a room at a time to one guest at most, so that a double
booking cannot be written down. Guests are entered for a set of times
(`book`) and struck out everywhere (`release`).

A list of bookings, each a room and a half-open interval, is a calendar if
bookings of one room that overlap are of one guest (`Compatible`). Then to
add a booking to the list is to book it, to drop a guest's bookings is to
release the guest, and the usual overlap test on the list (`Overlap`) says
exactly whether the calendar is free.
-/
import Mathlib.Data.List.Nodup
import Mathlib.Data.List.Perm.Subperm
import Mathlib.Data.Set.Basic
import Mathlib.Order.Interval.Set.Basic
import Mathlib.Tactic.Choose

namespace StayKey.Program

/-! ## Half-open intervals -/

section Overlap

variable {α : Type} [LinearOrder α] {a b c d t : α}

/-- `[a, b)` and `[c, d)` overlap. -/
def Overlap (a b c d : α) : Prop := a < d ∧ c < b

instance : Decidable (Overlap a b c d) := inferInstanceAs (Decidable (a < d ∧ c < b))

theorem overlap_comm : Overlap a b c d ↔ Overlap c d a b := And.comm

theorem overlap_of_mem_Ico (h : t ∈ Set.Ico a b) (h' : t ∈ Set.Ico c d) : Overlap a b c d :=
  ⟨h.1.trans_lt h'.2, h'.1.trans_lt h.2⟩

/-- Closed, two intervals that do not overlap share at most an end point. -/
theorem touch_of_mem_Icc (h : ¬ Overlap a b c d) (ht : t ∈ Set.Icc a b) (ht' : t ∈ Set.Icc c d) :
    (t = b ∧ t = c) ∨ (t = d ∧ t = a) := by
  rcases not_and_or.mp h with h | h
  · have hda : d ≤ a := not_lt.mp h
    exact .inr ⟨le_antisymm ht'.2 (hda.trans ht.1), le_antisymm (ht'.2.trans hda) ht.1⟩
  · have hbc : b ≤ c := not_lt.mp h
    exact .inl ⟨le_antisymm ht.2 (hbc.trans ht'.1), le_antisymm (ht.2.trans hbc) ht'.1⟩

end Overlap

/-! ## Calendars -/

/-- The guest that has a room at a time, if there is one. -/
def Calendar (Room Time Guest : Type) := Room → Time → Option Guest

namespace Calendar

variable {Room Time Guest : Type} {c d : Calendar Room Time Guest} {r r' : Room} {t : Time}
  {g g' : Guest} {I J : Set Time}

/-- Nobody has a room. -/
def empty : Calendar Room Time Guest := fun _ _ => none

/-- A calendar is what it says of each guest. -/
theorem ext (h : ∀ r t g, c r t = some g ↔ d r t = some g) : c = d :=
  funext fun r => funext fun t => Option.ext (h r t)

/-- Nobody has the room at these times. -/
def FreeOn (c : Calendar Room Time Guest) (r : Room) (I : Set Time) : Prop := ∀ t ∈ I, c r t = none

/-- The guest has no room at any time. -/
def Absent (c : Calendar Room Time Guest) (g : Guest) : Prop := ∀ r t, c r t ≠ some g

/-- The guest has this room at these times, and no other room or time. -/
def Holds (c : Calendar Room Time Guest) (g : Guest) (r : Room) (I : Set Time) : Prop :=
  ∀ r' t, c r' t = some g ↔ r' = r ∧ t ∈ I

open Classical in
/-- Give the room to the guest at these times. -/
noncomputable def book (c : Calendar Room Time Guest) (g : Guest) (r : Room) (I : Set Time) :
    Calendar Room Time Guest :=
  fun r' t => if r' = r ∧ t ∈ I then some g else c r' t

open Classical in
/-- Take all rooms from the guest. -/
noncomputable def release (c : Calendar Room Time Guest) (g : Guest) : Calendar Room Time Guest :=
  fun r t => if c r t = some g then none else c r t

theorem absent_empty : (empty : Calendar Room Time Guest).Absent g := fun _ _ => nofun

theorem book_eq_some_iff (hfree : c.FreeOn r I) :
    c.book g r I r' t = some g' ↔ c r' t = some g' ∨ g' = g ∧ r' = r ∧ t ∈ I := by
  unfold book
  by_cases h : r' = r ∧ t ∈ I
  · obtain ⟨rfl, ht⟩ := h
    simp [ht, hfree t ht, eq_comm]
  · simp [h]

theorem release_eq_some_iff : c.release g r t = some g' ↔ c r t = some g' ∧ g' ≠ g := by
  unfold release
  by_cases h : c r t = some g
  · simp only [h, if_true, Option.some.injEq, false_iff, not_and, not_not, reduceCtorEq]
    exact Eq.symm
  · rw [if_neg h]
    constructor
    · intro hg
      exact ⟨hg, fun he => h (he ▸ hg)⟩
    · exact And.left

theorem absent_release : (c.release g).Absent g := fun _ _ h => (release_eq_some_iff.mp h).2 rfl

/-! ## One guest -/

theorem Holds.book_other (h : c.Holds g r I) (hne : g ≠ g') (hfree : c.FreeOn r' J) :
    (c.book g' r' J).Holds g r I := by
  intro q t
  rw [book_eq_some_iff hfree, h q t]
  simp [hne]

theorem Holds.release_other (h : c.Holds g r I) (hne : g ≠ g') : (c.release g').Holds g r I := by
  intro q t
  rw [release_eq_some_iff, h q t]
  simp [hne]

theorem Absent.book_other (h : c.Absent g) (hne : g ≠ g') (hfree : c.FreeOn r J) :
    (c.book g' r J).Absent g := by
  intro q t hg
  rcases (book_eq_some_iff hfree).mp hg with hg | ⟨he, -⟩
  · exact h q t hg
  · exact hne he

theorem Absent.release_other (h : c.Absent g) : (c.release g').Absent g :=
  fun q t hg => h q t (release_eq_some_iff.mp hg).1

/-- A guest who was absent holds what is booked, and nothing else. -/
theorem holds_book (habsent : c.Absent g) (hfree : c.FreeOn r I) : (c.book g r I).Holds g r I := by
  intro q t
  rw [book_eq_some_iff hfree]
  simp [habsent q t]

/-- **Nobody is without a room of their own:** at one time there are no more
guests than rooms. -/
theorem length_le_of_housed {rooms : List Room} {gs : List Guest} (hnodup : gs.Nodup)
    (hhoused : ∀ g ∈ gs, ∃ r ∈ rooms, c r t = some g) : gs.length ≤ rooms.length := by
  cases gs with
  | nil => exact Nat.zero_le _
  | cons g₀ gs =>
    have hinhabited : Nonempty Room := (hhoused g₀ List.mem_cons_self).nonempty
    choose! room hin hhas using hhoused
    -- two guests of one room would be one guest
    have hinj : ((g₀ :: gs).map room).Nodup := by
      refine List.Nodup.map_on (fun g hg g' hg' he => ?_) hnodup
      have hhas' := hhas g' hg'
      rw [← he, hhas g hg] at hhas'
      exact Option.some.inj hhas'
    have hsub : (g₀ :: gs).map room ⊆ rooms := by
      intro r hr
      obtain ⟨g, hg, rfl⟩ := List.mem_map.mp hr
      exact hin g hg
    have hle := (hinj.subperm hsub).length_le
    rwa [List.length_map] at hle

/-! ## Lists of bookings -/

/-- A room, from `start` up to `stop`, for a guest. -/
structure Booking (Room Time Guest : Type) where
  room : Room
  start : Time
  stop : Time
  guest : Guest

variable [LinearOrder Time] [DecidableEq Room] {bs : List (Booking Room Time Guest)} {start stop : Time}

/-- The first booking of the room that has begun and not ended. -/
def ofBookings (bs : List (Booking Room Time Guest)) : Calendar Room Time Guest := fun r t =>
  (bs.find? fun b => b.room = r && b.start ≤ t && t < b.stop).map Booking.guest

omit [DecidableEq Room] in
/-- Bookings of one room that overlap are of one guest. -/
def Compatible (bs : List (Booking Room Time Guest)) : Prop :=
  ∀ b ∈ bs, ∀ b' ∈ bs, b.room = b'.room → Overlap b.start b.stop b'.start b'.stop → b.guest = b'.guest

/-- Who has a room has a booking for it. -/
theorem booking_of_ofBookings (h : ofBookings bs r t = some g) :
    ∃ b ∈ bs, b.room = r ∧ t ∈ Set.Ico b.start b.stop ∧ b.guest = g := by
  obtain ⟨b, hfind, rfl⟩ := Option.map_eq_some_iff.mp h
  have hb := List.find?_some hfind
  simp only [Bool.and_eq_true, decide_eq_true_eq] at hb
  exact ⟨b, List.mem_of_find?_eq_some hfind, hb.1.1, ⟨hb.1.2, hb.2⟩, rfl⟩

/-- At a time of a booking somebody has the room. -/
theorem ofBookings_ne_none {b : Booking Room Time Guest} (hb : b ∈ bs)
    (ht : t ∈ Set.Ico b.start b.stop) : ofBookings bs b.room t ≠ none := by
  intro hnone
  have hall := List.find?_eq_none.mp (Option.map_eq_none_iff.mp hnone) b hb
  simp [ht.1, ht.2] at hall

/-- **Compatible bookings are a calendar**: each guest has what is booked. -/
theorem ofBookings_eq_some_iff (hcompat : Compatible bs) :
    ofBookings bs r t = some g ↔
      ∃ b ∈ bs, b.room = r ∧ t ∈ Set.Ico b.start b.stop ∧ b.guest = g := by
  constructor
  · exact booking_of_ofBookings
  · intro ⟨b, hb, hr, ht, hg⟩
    subst hr hg
    cases hc : ofBookings bs b.room t with
    | none => exact absurd hc (ofBookings_ne_none hb ht)
    | some g' =>
      obtain ⟨b', hb', hroom, ht', rfl⟩ := booking_of_ofBookings hc
      rw [hcompat b' hb' b hb hroom (overlap_of_mem_Ico ht' ht)]

/-- **The overlap test is exact** for intervals that are not empty. -/
theorem freeOn_ofBookings_iff (hproper : ∀ b ∈ bs, b.start < b.stop) (hlt : start < stop) :
    (ofBookings bs).FreeOn r (Set.Ico start stop) ↔
      ∀ b ∈ bs, b.room = r → ¬ Overlap b.start b.stop start stop := by
  constructor
  · intro hfree b hb hr hover
    subst hr
    -- the later of the two beginnings lies in both intervals
    have ht : max b.start start ∈ Set.Ico start stop :=
      ⟨le_max_right _ _, max_lt hover.1 hlt⟩
    have htb : max b.start start ∈ Set.Ico b.start b.stop :=
      ⟨le_max_left _ _, max_lt (hproper b hb) hover.2⟩
    exact ofBookings_ne_none hb htb (hfree _ ht)
  · intro hall t ht
    cases hc : ofBookings bs r t with
    | none => rfl
    | some g =>
      obtain ⟨b, hb, hr, htb, -⟩ := booking_of_ofBookings hc
      exact absurd (overlap_of_mem_Ico htb ht) (hall b hb hr)

end Calendar

end StayKey.Program
