import RecipeRunner.Proofs.Run.History
import RecipeRunner.Proofs.Run.Launching
/-!
# Strands on their way

At each moment of a run every strand stands in a phase: what is left of it is orderly, up to the one
step that it takes last, or it has ended.  So every act of a run is one that its phase allows, and
what a phase is about has been launched before.

* `Stands.move`: what a strand that stands in a phase does next.
* `Crew.Standing.step`, `Crew.History.standing`: the strands of a run stand in phases.
-/

namespace RecipeRunner

/-! ## Phases and keys -/

namespace Phase

variable {bound : Nat} {phase phase' : Phase} {s t : Store} {events : List Event}

/-- The launch that a strand is at was recorded under a key below `key`. -/
def Below (key : Nat) : Phase → Prop
  | idle => True
  | hearing _ run | recorded _ run | counted _ run => run < key

theorem Below.mono {key key' : Nat} (h : phase.Below key) (hkey : key ≤ key') :
    phase.Below key' := by
  cases phase with
  | idle => trivial
  | _ => exact Nat.lt_of_lt_of_le h hkey

theorem Step.nextKey_le (h : phase.Step bound s events phase' t) : s.nextKey ≤ t.nextKey := by
  cases h with
  | aside _ haside => exact haside.nextKey
  | record => exact Nat.le_succ _
  | _ => exact Nat.le_refl _

theorem Step.below (h : phase.Step bound s events phase' t) (hphase : phase.Below s.nextKey) :
    phase'.Below t.nextKey := by
  cases h with
  | aside _ haside => exact hphase.mono haside.nextKey
  | record => exact Nat.lt_succ_self _
  | count => exact hphase
  | start => trivial
  | settle => trivial

theorem Step.run_lt (h : phase.Step bound s events phase' t) (hphase : phase.Below s.nextKey)
    {u : Launch} (hu : .launched u ∈ events) : u.run < t.nextKey := by
  cases h with
  | aside _ _ hevents => exact (hevents _ hu).elim
  | start unit =>
    obtain ⟨rfl⟩ := List.mem_singleton.1 hu
    exact hphase
  | _ => exact absurd hu List.not_mem_nil

end Phase

/-! ## Strands -/

namespace Strand

variable {α : Type} {finish : Except Error α → Strand α} {phase : Phase} {s t : Strand α}
  {store last : Store} {new : List Event}

/-- What a strand does last: one step, which launches nothing and leaves the tasks alone. -/
structure Closing (finish : Except Error α → Strand α) : Prop where
  isLive : ∀ result, (finish result).isLive = true
  startsUnit : ∀ result, (finish result).startsUnit = 0
  move : ∀ {result : Except Error α} {store last : Store} {new : List Event} {t : Strand α},
    Move (finish result) store new t last →
      new = [] ∧ t = done result ∧ last.tasks = store.tasks ∧ last.nextKey = store.nextKey

/-- A strand that is orderly up to what it does last, or has ended. -/
inductive Stands (finish : Except Error α → Strand α) : Strand α → Phase → Prop
  | going {s : Strand α} {bound : Nat} {phase : Phase} : s.Orderly bound .idle phase →
    Stands finish (s.continueWith finish) phase
  | ended (result : Except Error α) : Stands finish (done result) .idle

theorem isLive_continueWith (s : Strand α) (hfinish : Closing finish) :
    (s.continueWith finish).isLive = true := by
  cases s with
  | done result => exact hfinish.isLive result
  | _ => rfl

/-- A strand that stands in a phase takes a step of this phase or its last one. -/
theorem Stands.move (h : s.Stands finish phase) (hfinish : Closing finish)
    (hmove : Move s store new t last) :
    (∃ bound phase', phase.Step bound store new phase' last ∧ t.Stands finish phase' ∧
      t.isLive = true) ∨ ∃ result, phase = .idle ∧ s = finish result := by
  cases h with
  | going horderly =>
    rcases hmove.of_continueWith with ⟨result, rfl, -⟩ | ⟨next, rfl, hfirst⟩
    · exact .inr ⟨result, horderly, rfl⟩
    · obtain ⟨phase', hstep, hnext⟩ := horderly.move hfirst
      exact .inl ⟨_, phase', hstep, .going hnext, isLive_continueWith next hfinish⟩
  | ended => cases hmove

theorem Stands.startsUnit_eq (h : s.Stands finish phase) (hfinish : Closing finish) :
    s.startsUnit = phase.weight := by
  cases h with
  | @going s bound phase horderly =>
    rw [← horderly.startsUnit_eq]
    cases s with
    | done result => exact hfinish.startsUnit result
    | _ => rfl
  | ended => rfl

theorem Stands.eq_idle (h : s.Stands finish phase) (hfinish : Closing finish)
    (hended : s.isLive = false) : phase = .idle := by
  cases h with
  | going =>
    rw [isLive_continueWith _ hfinish] at hended
    cases hended
  | ended => rfl

theorem Move.isLive (h : Move s store new t last) : s.isLive = true := by
  cases h <;> rfl

/-- Behind a step a strand stands in a phase again, and what it has launched has a key that was
taken before. -/
theorem Stands.below_of_move (h : s.Stands finish phase) (hfinish : Closing finish)
    (hmove : Move s store new t last) (hphase : phase.Below store.nextKey) :
    store.nextKey ≤ last.nextKey ∧
      (∃ phase', t.Stands finish phase' ∧ phase'.Below last.nextKey) ∧
      ∀ u, .launched u ∈ new → u.run < last.nextKey := by
  rcases h.move hfinish hmove with ⟨bound, phase', hstep, ht, -⟩ | ⟨result, -, rfl⟩
  · exact ⟨hstep.nextKey_le, ⟨phase', ht, hstep.below hphase⟩, fun u => hstep.run_lt hphase⟩
  · obtain ⟨rfl, rfl, -, hnextKey⟩ := hfinish.move hmove
    refine ⟨Nat.le_of_eq hnextKey.symm, ⟨.idle, .ended result, trivial⟩, fun u hu => ?_⟩
    exact absurd hu List.not_mem_nil

end Strand

namespace Run

open Strand (Closing)

/-- What the main strand does last. -/
def lastOfMain (result : Except Error Bool) : Strand Bool :=
  .await (.done result)

/-- What a unit does last. -/
def lastOfUnit (result : Except Error Unit) : Strand Unit :=
  .update Store.endUnit fun _ => .done result

theorem closing_lastOfMain : Closing lastOfMain where
  isLive _ := rfl
  startsUnit _ := rfl
  move h := by
    cases h
    exact ⟨rfl, rfl, rfl, rfl⟩

theorem closing_lastOfUnit : Closing lastOfUnit where
  isLive _ := rfl
  startsUnit _ := rfl
  move h := by
    cases h
    exact ⟨rfl, rfl, rfl, rfl⟩

theorem stands_mainStrand (r : Run) (ops : List Operation) :
    (r.mainStrand ops).Stands lastOfMain .idle :=
  .going (orderly_recipeStrand r ops)

theorem stands_unitStrand (r : Run) (u : Launch) :
    (r.unitStrand u).Stands lastOfUnit (.hearing u.id u.run) :=
  .going (orderly_unitBody r u)

end Run

/-! ## Crews -/

namespace Crew

open Strand (Move)
open Run (lastOfMain lastOfUnit closing_lastOfMain closing_lastOfUnit)

variable {r : Run} {c d : Crew} {who : Option Nat} {act : Act}

/-- Every strand stands in a phase, and keys are above the launches that there have been. -/
structure Standing (c : Crew) : Prop where
  main : ∃ phase, c.main.Stands lastOfMain phase ∧ phase.Below c.store.nextKey
  units : ∀ entry ∈ c.units, entry.1.run < c.store.nextKey ∧
    ∃ phase, entry.2.Stands lastOfUnit phase ∧ phase.Below c.store.nextKey

theorem mem_launched {u : Launch} {events : List Event} (h : .launched u ∈ events) :
    (u, r.unitStrand u) ∈ launched r events :=
  List.mem_filterMap.2 ⟨_, h, rfl⟩

theorem stands_launched {events : List Event} {entry : Launch × Strand Unit}
    (h : entry ∈ launched r events) :
    entry.2.Stands lastOfUnit (.hearing entry.1.id entry.1.run) := by
  rw [(exists_of_mem_launched h).2]
  exact Run.stands_unitStrand r entry.1

theorem Standing.step (h : c.Standing) (hstep : Step r c who act d) :
    d.Standing ∧ c.store.nextKey ≤ d.store.nextKey := by
  have hkept : ∀ {entry : Launch × Strand Unit} {last : Store}, entry ∈ c.units →
      c.store.nextKey ≤ last.nextKey → entry.1.run < last.nextKey ∧
        ∃ phase, entry.2.Stands lastOfUnit phase ∧ phase.Below last.nextKey := by
    intro entry last hentry hkey
    obtain ⟨hrun, phase, hphase, hbelow⟩ := h.units entry hentry
    exact ⟨Nat.lt_of_lt_of_le hrun hkey, phase, hphase, hbelow.mono hkey⟩
  have hnew : ∀ {entry : Launch × Strand Unit} {last : Store} {new : List Event},
      (∀ u, .launched u ∈ new → u.run < last.nextKey) → entry ∈ launched r new →
        entry.1.run < last.nextKey ∧
          ∃ phase, entry.2.Stands lastOfUnit phase ∧ phase.Below last.nextKey := by
    intro entry last new hrun hentry
    have hentryRun := hrun _ (exists_of_mem_launched hentry).1
    exact ⟨hentryRun, _, stands_launched hentry, hentryRun⟩
  cases hstep with
  | main hmove =>
    obtain ⟨phase, hphase, hbelow⟩ := h.main
    obtain ⟨hkey, hmain, hrun⟩ := hphase.below_of_move closing_lastOfMain hmove hbelow
    refine ⟨⟨hmain, fun entry hentry => ?_⟩, hkey⟩
    rcases List.mem_append.1 hentry with hentry | hentry
    · exact hkept hentry hkey
    · exact hnew hrun hentry
  | @unit before behind u s t mid new hunits hmove =>
    obtain ⟨hu, phase, hphase, hbelow⟩ := h.units (u, s) (by simp [hunits])
    obtain ⟨hkey, hunit, hrun⟩ := hphase.below_of_move closing_lastOfUnit hmove hbelow
    obtain ⟨main, hmain, hmainBelow⟩ := h.main
    refine ⟨⟨⟨main, hmain, hmainBelow.mono hkey⟩, fun entry hentry => ?_⟩, hkey⟩
    rcases List.mem_append.1 hentry with hentry | hentry
    · rcases List.mem_append.1 hentry with hentry | hentry
      · exact hkept (by simp [hunits, hentry]) hkey
      · rcases List.mem_cons.1 hentry with rfl | hentry
        · exact ⟨Nat.lt_of_lt_of_le hu hkey, hunit⟩
        · exact hkept (by simp [hunits, hentry]) hkey
    · exact hnew hrun hentry

theorem History.standing {acts : List (Option Nat × Act)} (h : History r c acts d)
    (hc : c.Standing) : d.Standing := by
  induction h with
  | nil => exact hc
  | snoc _ hstep ih => exact (ih.step hstep).1

theorem standing_start (r : Run) (ops : List Operation) (store : Store) :
    (start r ops store).Standing where
  main := ⟨.idle, Run.stands_mainStrand r ops, trivial⟩
  units := nofun

end Crew

end RecipeRunner
