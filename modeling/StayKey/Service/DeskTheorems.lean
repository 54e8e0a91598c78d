/-
StayKey.Service.DeskTheorems — what is always so at the front desk.

About the desk of `Service.Desk` alone, without tables: a stay has one room
for the whole of its time, or no room at all, and none once it has left;
every live card is for the room its stay has, within the times of the stay
(`Orderly`, `orderly_step`). And a card is never changed but from live to
lapsed or revoked (`Fades`, `fades_step`).
-/
import StayKey.Service.Desk

namespace StayKey.Service

open StayKey.Codec StayKey.Door StayKey.Store StayKey.Program

namespace Desk

variable {E : Env} {sk : PrivateKey} {d d' d₁ : Desk} {S S' k propertyId : String} {f : Folio} {room : Int}

/-! ## Order -/

/-- What is always so. -/
structure Orderly (d : Desk) : Prop where
  /-- A stay has one room for all its time, or none. -/
  housed : ∀ S, d.calendar.Absent S ∨ ∃ f room, d.InHouse S f ∧ f.room = some room ∧
    d.calendar.Holds S room f.window
  /-- A live card is for the room of its stay, within the times of the stay. -/
  live : ∀ k c, d.cards k = some c → c.state = .live → ∃ f, d.InHouse c.stay f ∧
    f.room = some c.room ∧ c.validFrom = f.checkIn ∧ c.validUntil ≤ f.checkOut
  /-- The room of a stay is one of its property. -/
  property : ∀ S f room, d.folios S = some f → f.room = some room →
    ∃ kind, d.rooms room = some kind ∧ kind.property = f.property

theorem orderly_opening : Orderly opening where
  housed _ := .inl Calendar.absent_empty
  live _ _ h := by cases h
  property _ _ _ h := by cases h

theorem Orderly.welcome (h : Orderly d) (guest : String) : Orderly (d.welcome guest) :=
  ⟨h.housed, h.live, h.property⟩

theorem Orderly.enrol (h : Orderly d) (hnew : d.rooms room = none) (kind : RoomKind) :
    Orderly (d.enrol room kind) := by
  refine ⟨h.housed, h.live, fun S f r hf hr => ?_⟩
  obtain ⟨kind', hkind, hproperty⟩ := h.property S f r hf hr
  have hne : r ≠ room := fun he => by rw [he, hnew] at hkind; cases hkind
  exact ⟨kind', (Function.update_of_ne hne _ _).trans hkind, hproperty⟩

theorem Orderly.openFolio (h : Orderly d) (hnone : d.folios S = none) (hroom : f.room = none) :
    Orderly (d.openFolio S f) := by
  have hother {S' : String} {g : Folio} (hg : d.folios S' = some g) :
      (d.openFolio S f).folios S' = some g := by
    have hne : S' ≠ S := fun he => by rw [he, hnone] at hg; cases hg
    exact (Function.update_of_ne hne _ _).trans hg
  refine ⟨fun S' => ?_, fun k c hc hlive => ?_, fun S' g room hg hr => ?_⟩
  · obtain habsent | ⟨g, room, hin, hr, hholds⟩ := h.housed S'
    · exact .inl habsent
    · exact .inr ⟨g, room, ⟨hother hin.1, hin.2⟩, hr, hholds⟩
  · obtain ⟨g, hin, hr⟩ := h.live k c hc hlive
    exact ⟨g, ⟨hother hin.1, hin.2⟩, hr⟩
  · by_cases hne : S' = S
    · subst hne
      have hself : (d.openFolio S' f).folios S' = some f := Function.update_self ..
      rw [hself] at hg
      cases hg
      rw [hroom] at hr
      cases hr
    · exact h.property S' g room ((Function.update_of_ne hne _ _).symm.trans hg) hr

/-! ## Cards -/

theorem cards_settle {state : CardState} : (d.settle S state).cards k = (d.cards k).map fun c =>
    if c.stay = S ∧ c.state = .live then { c with state } else c := rfl

/-- The cards that are live after a stay is settled were live before, and
are of other stays. -/
theorem live_settle {state : CardState} (hstate : state ≠ .live) {c : Card}
    (hc : (d.settle S state).cards k = some c) (hlive : c.state = .live) :
    d.cards k = some c ∧ c.stay ≠ S := by
  obtain ⟨c₀, hc₀, rfl⟩ := Option.map_eq_some_iff.mp (cards_settle.symm.trans hc)
  by_cases hsettled : c₀.stay = S ∧ c₀.state = .live
  · rw [if_pos hsettled] at hlive
    exact absurd hlive hstate
  · rw [if_neg hsettled] at hlive ⊢
    exact ⟨hc₀, fun hS => hsettled ⟨hS, hlive⟩⟩

theorem Orderly.settle (h : Orderly d) {state : CardState} (hstate : state ≠ .live) (S : String) :
    Orderly (d.settle S state) :=
  ⟨h.housed, fun k c hc hlive => h.live k c (live_settle hstate hc hlive).1 hlive, h.property⟩

/-- A card that is cut for the room of its stay is in order. -/
theorem Orderly.cuts (h : Orderly d) {now : Int} {fresh : Fresh} {key : IssuedKey}
    (hin : ∀ f, d.folios S = some f → f.status ≠ .checkedOut) (hcut : d.Cuts E sk S now fresh key d') :
    Orderly d' := by
  obtain ⟨-, -, f, room, hf, hroom, -, -, rfl⟩ := hcut
  refine ⟨h.housed, fun k c hc hlive => ?_, h.property⟩
  by_cases hk : k = fresh.keyId
  · subst hk
    have hself : (d.cut fresh.keyId (newCard f S room now)).cards fresh.keyId
        = some _ := Function.update_self ..
    rw [hself] at hc
    cases hc
    exact ⟨f, ⟨hf, hin f hf⟩, hroom, rfl, min_le_left _ _⟩
  · exact h.live k c ((Function.update_of_ne hk _ _).symm.trans hc) hlive

/-! ## Stays -/

theorem folios_amend {change : Folio → Folio} : (d.amend S change).folios S' = (d.folios S').map fun f =>
    if S' = S then change f else f := rfl

/-- A stay that is amended keeps its room and its times. -/
theorem Orderly.setStatus (h : Orderly d) {status : StayStatus} (hstatus : status ≠ .checkedOut)
    (S : String) : Orderly (d.setStatus S status) := by
  have hkept {S' : String} {g : Folio} (hg : d.InHouse S' g) : ∃ g', (d.setStatus S status).InHouse S' g' ∧
      g'.room = g.room ∧ g'.window = g.window ∧ g'.checkIn = g.checkIn ∧ g'.checkOut = g.checkOut := by
    by_cases hS : S' = S
    · exact ⟨{ g with status }, ⟨by rw [Desk.setStatus, folios_amend, hg.1]; simp [hS], hstatus⟩, rfl, rfl,
        rfl, rfl⟩
    · exact ⟨g, ⟨by rw [Desk.setStatus, folios_amend, hg.1]; simp [hS], hg.2⟩, rfl, rfl, rfl, rfl⟩
  refine ⟨fun S' => ?_, fun k c hc hlive => ?_, fun S' g room hg hr => ?_⟩
  · obtain habsent | ⟨g, room, hin, hr, hholds⟩ := h.housed S'
    · exact .inl habsent
    · obtain ⟨g', hin', hroom, hwindow, -⟩ := hkept hin
      exact .inr ⟨g', room, hin', hroom.trans hr, hwindow ▸ hholds⟩
  · obtain ⟨g, hin, hr, hfrom, huntil⟩ := h.live k c hc hlive
    obtain ⟨g', hin', hroom, -, hci, hco⟩ := hkept hin
    exact ⟨g', hin', hroom.trans hr, hfrom.trans hci.symm, hco ▸ huntil⟩
  · obtain ⟨g₀, hg₀, rfl⟩ := Option.map_eq_some_iff.mp (folios_amend.symm.trans hg)
    have hroom : g₀.room = some room := by split at hr <;> exact hr
    obtain ⟨kind, hkind, hproperty⟩ := h.property S' g₀ room hg₀ hroom
    exact ⟨kind, hkind, by split <;> exact hproperty⟩

/-- **Leaving**: the live cards are taken back, then the room, then the stay
is closed. -/
theorem Orderly.leave (h : Orderly d) (S : String) :
    Orderly (((d.settle S .revoked).vacate S).setStatus S .checkedOut) := by
  have hother {S' : String} {g : Folio} (hne : S' ≠ S) (hg : d.InHouse S' g) :
      (((d.settle S .revoked).vacate S).setStatus S .checkedOut).InHouse S' g :=
    ⟨by rw [Desk.setStatus, folios_amend, Desk.vacate, Desk.settle, hg.1]; simp [hne], hg.2⟩
  refine ⟨fun S' => ?_, fun k c hc hlive => ?_, fun S' g room hg hr => ?_⟩
  · by_cases hne : S' = S
    · subst hne
      exact .inl Calendar.absent_release
    obtain habsent | ⟨g, room, hin, hr, hholds⟩ := h.housed S'
    · exact .inl habsent.release_other
    · exact .inr ⟨g, room, hother hne hin, hr, hholds.release_other hne⟩
  · have hrevoked : CardState.revoked ≠ .live := nofun
    obtain ⟨hc, hne⟩ := live_settle (d := d) (S := S) hrevoked hc hlive
    obtain ⟨g, hin, hr⟩ := h.live k c hc hlive
    exact ⟨g, hother hne hin, hr⟩
  · obtain ⟨g₀, hg₀, rfl⟩ := Option.map_eq_some_iff.mp (folios_amend.symm.trans hg)
    have hroom : g₀.room = some room := by split at hr <;> exact hr
    obtain ⟨kind, hkind, hproperty⟩ := h.property S' g₀ room hg₀ hroom
    exact ⟨kind, hkind, by split <;> exact hproperty⟩

/-- **Moving in**: a stay without live cards gets a room that is vacant. -/
theorem Orderly.house (h : Orderly d) (hin : d.InHouse S f) (hcards : ∀ k, ¬ d.Live S k)
    {requested avoid : Option Int} (hroom : room ∈ d.Vacant S f requested avoid) :
    Orderly (d.house S f room) := by
  obtain ⟨⟨kind, hkind, hproperty, -⟩, hfree⟩ := hroom
  have hself : (d.house S f room).folios S = some { f with room := some room } := by
    simp [Desk.house, Desk.amend, Desk.vacate, hin.1]
  have hother {S' : String} (hne : S' ≠ S) : (d.house S f room).folios S' = d.folios S' := by
    simp [Desk.house, Desk.amend, Desk.vacate, hne]
  refine ⟨fun S' => ?_, fun k c hc hlive => ?_, fun S' g r hg hr => ?_⟩
  · by_cases hne : S' = S
    · subst hne
      exact .inr ⟨{ f with room := some room }, room, ⟨hself, hin.2⟩, rfl,
        Calendar.holds_book Calendar.absent_release hfree⟩
    obtain habsent | ⟨g, r, hin', hr, hholds⟩ := h.housed S'
    · exact .inl (habsent.release_other.book_other hne hfree)
    · exact .inr ⟨g, r, ⟨(hother hne).trans hin'.1, hin'.2⟩, hr,
        (hholds.release_other hne).book_other hne hfree⟩
  · obtain ⟨g, hin', hr⟩ := h.live k c hc hlive
    have hne : c.stay ≠ S := fun he => hcards k ⟨c, hc, he, hlive⟩
    exact ⟨g, ⟨(hother hne).trans hin'.1, hin'.2⟩, hr⟩
  · by_cases hne : S' = S
    · subst hne
      rw [hself] at hg
      cases hg
      cases hr
      exact ⟨kind, hkind, hproperty⟩
    · exact h.property S' g r ((hother hne).symm.trans hg) hr

theorem not_live_settle {state : CardState} (hstate : state ≠ .live) (S k : String) :
    ¬ (d.settle S state).Live S k :=
  fun ⟨_, hc, hS, hlive⟩ => (live_settle hstate hc hlive).2 hS

theorem Orderly.greets (h : Orderly d) {body : ReservationIn} {draw : Draw} {guestId : String}
    (hgreet : d.Greets body draw guestId d₁) : Orderly d₁ ∧ d₁.folios = d.folios := by
  cases hgreet with
  | known guestId hbody hin => exact ⟨h, rfl⟩
  | new guest hbody hguest hnew => exact ⟨h.welcome _, rfl⟩

theorem status_setCheckedIn (S : String) :
    ∀ f, (d.setStatus S .checkedIn).folios S = some f → f.status ≠ .checkedOut := by
  intro f hf
  obtain ⟨g, -, rfl⟩ := Option.map_eq_some_iff.mp (folios_amend.symm.trans hf)
  rw [if_pos rfl]
  exact nofun

/-- **Every step keeps the desk in order.** -/
theorem orderly_step {l : (Request × Draw) × Except Exc Answer} (h : Orderly d)
    (hstep : Step E sk propertyId l d d') : Orderly d' := by
  have hlapsed : CardState.lapsed ≠ .live := nofun
  have hrevoked : CardState.revoked ≠ .live := nofun
  have hcheckedIn : StayStatus.checkedIn ≠ .checkedOut := nofun
  -- cards do not change who is in the house
  have hsettled {S : String} {f : Folio} (hopen : d.InHouse S f) :
      ∀ g, d.folios S = some g → g.status ≠ .checkedOut := by
    intro g hg
    rw [hopen.1] at hg
    cases hg
    exact hopen.2
  cases hstep with
  | guestCreated => exact h.welcome _
  | roomCreated body draw hnew => exact h.enrol hnew _
  | reserved body draw hgreet hnew hroom =>
    obtain ⟨h₁, hfolios⟩ := h.greets hgreet
    rw [← hfolios] at hnew
    refine (h₁.openFolio hnew rfl).house ⟨Function.update_self .., nofun⟩ ?_ hroom.1
    intro k ⟨c, hc, hS, hlive⟩
    obtain ⟨f, hin, -⟩ := h₁.live k c hc hlive
    rw [← hS, hin.1] at hnew
    cases hnew
  | reservedNoRoom body draw hgreet hnew hfull =>
    obtain ⟨h₁, hfolios⟩ := h.greets hgreet
    exact h₁.openFolio (hfolios ▸ hnew) rfl
  | stayTaken body draw hgreet hin => exact (h.greets hgreet).1
  | arrived S draw hin hcut => exact (h.setStatus hcheckedIn S).cuts (status_setCheckedIn S) hcut
  | arrivedNoKey S draw hin hfail => exact h.setStatus hcheckedIn S
  | renewed S draw hopen hcut => exact (h.settle hlapsed S).cuts (hsettled hopen) hcut
  | renewedNoKey S draw hopen hfail => exact h.settle hlapsed S
  | left S draw hfolio hkeys => exact h.leave S
  | moved S body draw hopen hkeys hroom hcut =>
    refine ((h.settle hrevoked S).house hopen (not_live_settle hrevoked S) hroom.1).cuts ?_ hcut
    intro g hg
    obtain ⟨f', hf, rfl⟩ := Option.map_eq_some_iff.mp (folios_amend.symm.trans hg)
    rw [if_pos rfl]
    exact hsettled hopen f' hf
  | movedNoKey S body draw hopen hroom hfail =>
    exact (h.settle hrevoked S).house hopen (not_live_settle hrevoked S) hroom.1
  | moveNoRoom S body draw hopen hfull => exact h.settle hrevoked S
  | guestTaken | roomTaken | notGreeted | unknownStay | alreadyLeft | listed | challenged | unlockAnswered
  | controlAnswered | unanswered => exact h

/-! ## Cards fade -/

/-- The cards are still there, for what they were for; those that were not
live are as they were. -/
def Fades (d d' : Desk) : Prop := ∀ k c, d.cards k = some c →
  ∃ state, d'.cards k = some { c with state } ∧ (c.state ≠ .live → state = c.state)

theorem Fades.refl (d : Desk) : Fades d d := fun _ c hc => ⟨c.state, hc, fun _ => rfl⟩

theorem Fades.trans {d₁ d₂ d₃ : Desk} (h : Fades d₁ d₂) (h' : Fades d₂ d₃) : Fades d₁ d₃ := by
  intro k c hc
  obtain ⟨state, hc', hkept⟩ := h k c hc
  obtain ⟨state', hc'', hkept'⟩ := h' k _ hc'
  refine ⟨state', hc'', fun hne => ?_⟩
  have hstate := hkept hne
  exact (hkept' (hstate ▸ hne)).trans hstate

theorem fades_of_cards (h : d'.cards = d.cards) : Fades d d' :=
  fun _ c hc => ⟨c.state, h ▸ hc, fun _ => rfl⟩

theorem fades_settle (d : Desk) (S : String) (state : CardState) : Fades d (d.settle S state) := by
  intro k c hc
  rw [cards_settle, hc, Option.map_some]
  by_cases hlive : c.stay = S ∧ c.state = .live
  · exact ⟨state, by rw [if_pos hlive], fun hne => absurd hlive.2 hne⟩
  · exact ⟨c.state, by rw [if_neg hlive], fun _ => rfl⟩

theorem fades_cuts {now : Int} {fresh : Fresh} {key : IssuedKey} (hcut : d.Cuts E sk S now fresh key d') :
    Fades d d' := by
  obtain ⟨-, hunused, f, room, -, -, -, -, rfl⟩ := hcut
  intro k c hc
  have hne : k ≠ fresh.keyId := fun he => by rw [he, hunused] at hc; cases hc
  exact ⟨c.state, (Function.update_of_ne hne _ _).trans hc, fun _ => rfl⟩

theorem fades_greets {body : ReservationIn} {draw : Draw} {guestId : String}
    (hgreet : d.Greets body draw guestId d₁) : Fades d d₁ := by
  cases hgreet <;> exact fades_of_cards rfl

/-- **No step brings a card back.** -/
theorem fades_step {l : (Request × Draw) × Except Exc Answer} (hstep : Step E sk propertyId l d d') :
    Fades d d' := by
  cases hstep with
  | reserved body draw hgreet => exact (fades_greets hgreet).trans (fades_of_cards rfl)
  | reservedNoRoom body draw hgreet => exact (fades_greets hgreet).trans (fades_of_cards rfl)
  | stayTaken body draw hgreet => exact fades_greets hgreet
  | arrived S draw hin hcut =>
    have hstatus : Fades d (d.setStatus S .checkedIn) := fades_of_cards rfl
    exact hstatus.trans (fades_cuts hcut)
  | renewed S draw hopen hcut => exact (fades_settle d S _).trans (fades_cuts hcut)
  | renewedNoKey S => exact fades_settle d S _
  | left S => exact (fades_settle d S .revoked).trans (fades_of_cards rfl)
  | moved S body draw hopen hkeys hroom hcut =>
    have hhoused (f : Folio) (room : Int) : Fades d ((d.settle S .revoked).house S f room) :=
      (fades_settle d S .revoked).trans (fades_of_cards rfl)
    exact (hhoused _ _).trans (fades_cuts hcut)
  | movedNoKey S => exact (fades_settle d S .revoked).trans (fades_of_cards rfl)
  | moveNoRoom S => exact fades_settle d S _
  | guestCreated | guestTaken | roomCreated | roomTaken | notGreeted | arrivedNoKey | unknownStay
  | alreadyLeft | listed | challenged | unlockAnswered | controlAnswered | unanswered =>
    exact fades_of_cards rfl

end Desk

end StayKey.Service
