import Mathlib.Logic.Function.Basic
import RecipeRunner.Proofs.Run.Occurrences
/-!
# Nesting of operations

Operations are nested by loops and handlers.  How deep a strand is in operations is told by its
notes alone: it is one deeper from the start of an operation to its end.  A background unit begins
as deep as the strand that launches it.  The room that an operation is given is what is left of the
limit at its depth, so no operation starts deeper than the limit.

* `Crew.Depths`: how deep the strands of a run are, told by their events.
* `Strand.Nests`: strands whose operations and launches have the room that is left at their depth.
* `Crew.History.depth_add_room`: in a run every operation starts with the room that is left.
-/

namespace RecipeRunner

namespace Event

/-- How many operations a strand is inside of behind an event. -/
def depthBehind (depth : Nat) : Event → Nat
  | noted (.started _ _) => depth + 1
  | noted (.skipped _) | noted (.returned _ _) => depth - 1
  | _ => depth

/-- What starts or is launched at a depth has the room that is left of the limit. -/
def Fits (limit depth : Nat) : Event → Prop
  | noted (.started _ room) => depth + room = limit
  | launched unit => depth + unit.room = limit + 1
  | _ => True

theorem depthBehind_ending (depth : Nat) (op : Operation)
    (result : Except Error (Option Signal)) :
    (noted (.ending op result)).depthBehind (depth + 1) = depth := by
  rcases result with e | _ | signal <;> rfl

theorem fits_ending (limit depth : Nat) (op : Operation)
    (result : Except Error (Option Signal)) : (noted (.ending op result)).Fits limit depth := by
  rcases result with e | _ | signal <;> trivial

end Event

namespace Strand

variable {α β : Type} {limit first mid final depth : Nat}

/-- From a depth on, what starts and what is launched fits, and the strand ends at the final
depth. -/
def Nests (limit final : Nat) : Strand α → Nat → Prop
  | done _, depth => depth = final
  | endless, _ => True
  | update _ next, depth => ∀ s, (next s).Nests limit final depth
  | command _ next, depth => ∀ execution, (next execution).Nests limit final depth
  | ask _ next, depth => ∀ answer, (next answer).Nests limit final depth
  | confirm _ _ next, depth => ∀ reply, (next reply).Nests limit final depth
  | report _ next, depth => next.Nests limit final depth
  | launch unit next, depth => (Event.launched unit).Fits limit depth ∧
      next.Nests limit final depth
  | note told next, depth => (Event.noted told).Fits limit depth ∧
      next.Nests limit final ((Event.noted told).depthBehind depth)
  | await next, depth => next.Nests limit final depth

theorem Nests.move {s t : Strand α} {store last : Store} {new : List Event}
    (h : s.Nests limit final depth) (hmove : Move s store new t last) :
    (∀ event ∈ new, event.Fits limit depth) ∧
      t.Nests limit final (new.foldl Event.depthBehind depth) := by
  cases hmove with
  | update => exact ⟨List.forall_mem_nil _, h _⟩
  | command | ask | confirm => exact ⟨List.forall_mem_singleton.2 trivial, h _⟩
  | report => exact ⟨List.forall_mem_singleton.2 trivial, h⟩
  | launch | note => exact ⟨List.forall_mem_singleton.2 h.1, h.2⟩
  | await => exact ⟨List.forall_mem_nil _, h⟩

theorem Nests.continueWith {s : Strand α} {k : Except Error α → Strand β}
    (h : s.Nests limit mid depth) (hk : ∀ result, (k result).Nests limit final mid) :
    (s.continueWith k).Nests limit final depth := by
  induction s generalizing depth with
  | done result =>
    obtain rfl : depth = mid := h
    exact hk result
  | endless => trivial
  | update change next ih => exact fun s => ih s (h s)
  | command call next ih => exact fun execution => ih execution (h execution)
  | ask spec next ih => exact fun answer => ih answer (h answer)
  | confirm label failure next ih => exact fun reply => ih reply (h reply)
  | report text next ih => exact ih h
  | launch unit next ih => exact ⟨h.1, ih h.2⟩
  | note told next ih => exact ⟨h.1, ih h.2⟩
  | await next ih => exact ih h

/-- What tells of no operation and launches nothing stays at its depth. -/
theorem nests_compositional (limit depth : Nat) :
    Compositional (fun _ _ => True) fun _ s => s.Nests limit depth depth where
  aside _ := trivial
  done _ := rfl
  update _ hnext := hnext
  call hnext := hnext
  prompt hnext := hnext
  question hnext := hnext
  report hnext := hnext
  row hs hk := hs.continueWith hk

end Strand

namespace Run

open Strand (Nests nests_compositional)

variable {r : Run} {limit depth : Nat}

/-- The room of a launch is what is left inside the operation that launches it. -/
theorem nests_startUnit {room : Nat} (hroom : depth + room = limit + 1) (op : Operation)
    (id command : String) : (startUnit op id command room).Nests limit depth depth := by
  unfold startUnit
  split
  · rfl
  · exact fun _ _ _ => ⟨hroom, rfl⟩

theorem nests_execute (r : Run) {room : Nat} (hroom : depth + room = limit + 1) (op : Operation) :
    (r.execute room op).Nests limit depth depth := by
  induction room generalizing op depth with
  | zero => rfl
  | succ room ih =>
    have hP := nests_compositional limit (depth + 1)
    have hinside : depth + 1 + room = limit + 1 := by omega
    have hbody : (r.body room op).Nests limit (depth + 1) (depth + 1) :=
      hP.body (fun _ _ => trivial) (fun _ => ih hinside _) (fun _ _ => ih hinside _)
        (fun _ => trivial)
        fun id command => nests_startUnit hinside op id command
    rw [execute_succ]
    refine ⟨by simp only [Event.Fits]; omega, hbody.continueWith fun result => ?_⟩
    exact ⟨Event.fits_ending _ _ op result, Event.depthBehind_ending depth op result⟩

theorem nests_mainStrand (r : Run) (ops : List Operation) :
    (r.mainStrand ops).Nests r.maxDepth 0 0 :=
  (nests_compositional r.maxDepth 0).mainStrand id fun _ _ => nests_execute r (Nat.zero_add _) _

/-- A unit follows its handler at the depth that it is launched at. -/
theorem nests_unitStrand (r : Run) {u : Launch} (hroom : depth + u.room = limit + 1) :
    (r.unitStrand u).Nests limit depth depth :=
  (nests_compositional limit depth).unitStrand u (fun _ => nests_execute r hroom _)
    (fun _ _ => trivial) (fun _ _ => trivial) fun _ => trivial

end Run

namespace Crew

open Strand (Nests)

/-! ## Depths in runs -/

/-- How deep strands are in operations. -/
structure Depths where
  launches : Nat := 0
  strand : Option Nat → Nat := fun _ => 0

namespace Depths

/-- A unit begins as deep as the strand that launches it. -/
def hear (who : Option Nat) (d : Depths) : Event → Depths
  | .launched _ => ⟨d.launches + 1, Function.update d.strand (some d.launches) (d.strand who)⟩
  | event => ⟨d.launches, Function.update d.strand who (event.depthBehind (d.strand who))⟩

/-- The depths behind an act of a strand. -/
def behind (d : Depths) (who : Option Nat) (act : Act) : Depths :=
  act.events.foldl (hear who) d

/-- The depths behind what the strands of a run have done. -/
def after (acts : List (Option Nat × Act)) : Depths :=
  acts.foldl (fun d (who, act) => d.behind who act) {}

theorem after_snoc (acts : List (Option Nat × Act)) (who : Option Nat) (act : Act) :
    after (acts ++ [(who, act)]) = (after acts).behind who act := by
  rw [after, List.foldl_append]
  rfl

variable {r : Run} {d : Depths} {who other : Option Nat} {act : Act} {u : Launch}

section

-- a step brings no more than one event
variable (hact : act.events = [] ∨ ∃ event, act.events = [event])

include hact

theorem strand_behind_self (hwho : who ≠ some d.launches) : (d.behind who act).strand who =
    act.events.foldl Event.depthBehind (d.strand who) := by
  rcases hact with hnone | ⟨event, hone⟩
  · rw [behind, hnone, List.foldl_nil, List.foldl_nil]
  · rw [behind, hone, List.foldl_cons, List.foldl_nil, List.foldl_cons, List.foldl_nil]
    cases event with
    | launched u => exact Function.update_of_ne hwho _ _
    | _ => exact Function.update_self ..

theorem strand_behind_of_ne (hother : other ≠ who) (hnew : other ≠ some d.launches) :
    (d.behind who act).strand other = d.strand other := by
  rcases hact with hnone | ⟨event, hone⟩
  · rw [behind, hnone, List.foldl_nil]
  · rw [behind, hone, List.foldl_cons, List.foldl_nil]
    cases event with
    | launched u => exact Function.update_of_ne hnew _ _
    | _ => exact Function.update_of_ne hother _ _

theorem strand_behind_of_launched (hu : .launched u ∈ act.events) :
    (d.behind who act).strand (some d.launches) = d.strand who := by
  rcases hact with hnone | ⟨event, hone⟩
  · rw [hnone] at hu
    cases hu
  · rw [hone] at hu
    obtain rfl := List.mem_singleton.1 hu
    rw [behind, hone]
    exact Function.update_self ..

theorem launches_behind (r : Run) (who : Option Nat) (d : Depths) :
    (d.behind who act).launches = d.launches + (launched r act.events).length := by
  rcases hact with hnone | ⟨event, hone⟩
  · rw [behind, hnone]
    rfl
  · rw [behind, hone]
    cases event <;> rfl

end

end Depths

theorem Step.events_eq {r : Run} {c d : Crew} {who : Option Nat} {act : Act}
    (h : Step r c who act d) : act.events = [] ∨ ∃ event, act.events = [event] := by
  cases h with
  | main hmove | unit _ hmove => exact hmove.events_eq

/-- What all strands of a crew start and launch from their depths on fits. -/
structure Fitting (r : Run) (c : Crew) (d : Depths) : Prop where
  launches : d.launches = c.units.length
  main : c.main.Nests r.maxDepth 0 (d.strand none)
  unit : ∀ {n : Nat} {u : Launch} {s : Strand Unit}, c.units[n]? = some (u, s) →
    ∃ final, s.Nests r.maxDepth final (d.strand (some n))

variable {r : Run} {c c' : Crew} {d : Depths} {who : Option Nat} {act : Act}

theorem Fitting.fits (h : Fitting r c d) (hstep : Step r c who act c') :
    ∀ event ∈ act.events, event.Fits r.maxDepth (d.strand who) := by
  cases hstep with
  | main hmove => exact (h.main.move hmove).1
  | @unit before behind u s t mid new hunits hmove =>
    have hunit : c.units[before.length]? = some (u, s) := by
      rw [hunits, List.getElem?_append_right (Nat.le_refl _), Nat.sub_self,
        List.getElem?_cons_zero]
    obtain ⟨final, hnests⟩ := h.unit hunit
    exact (hnests.move hmove).1

theorem Fitting.step (h : Fitting r c d) (hstep : Step r c who act c') :
    Fitting r c' (d.behind who act) := by
  have hact := hstep.events_eq
  have hwho : who ≠ some d.launches := by
    rw [h.launches]
    exact hstep.ne_some (List.getElem?_eq_none (Nat.le_refl _))
  obtain ⟨kept, hkept, hlength⟩ := hstep.exists_units_eq
  refine ⟨?_, ?_, fun {n u t} hunit => ?_⟩
  · rw [Depths.launches_behind hact r, hkept, List.length_append, hlength, h.launches]
  · rcases hstep.main_cases with ⟨rfl, hmove⟩ | ⟨hother, hmain⟩
    · rw [Depths.strand_behind_self hact hwho]
      exact (h.main.move hmove).2
    · rw [Depths.strand_behind_of_ne hact hother.symm nofun, hmain]
      exact h.main
  · cases hn : c.units[n]? with
    | some entry =>
      obtain ⟨u', s⟩ := entry
      obtain ⟨final, hnests⟩ := h.unit hn
      have hlt : n < c.units.length := (List.getElem?_eq_some_iff.1 hn).1
      obtain ⟨t', ht', hmoved⟩ := hstep.unit_of_some hn
      obtain ⟨rfl, rfl⟩ := Prod.mk.inj (Option.some.inj (hunit.symm.trans ht'))
      rcases hmoved with ⟨rfl, hmove⟩ | ⟨hother, rfl⟩
      · rw [Depths.strand_behind_self hact hwho]
        exact ⟨final, (hnests.move hmove).2⟩
      · have hold : some n ≠ some d.launches := by
          rw [h.launches]
          simp
          omega
        rw [Depths.strand_behind_of_ne hact hother.symm hold]
        exact ⟨final, hnests⟩
    | none =>
      obtain ⟨rfl, hlaunched⟩ := hstep.unit_of_none hn hunit
      have hroom : d.strand who + u.room = r.maxDepth + 1 := h.fits hstep _ hlaunched
      -- a step has one event and so launches no more than one unit
      have hnew : n = d.launches := by
        have hold : c.units.length ≤ n := List.getElem?_eq_none_iff.1 hn
        have hlt : n < c'.units.length := (List.getElem?_eq_some_iff.1 hunit).1
        have hfew : (launched r act.events).length ≤ act.events.length :=
          List.length_filterMap_le _ _
        have hone : act.events.length ≤ 1 := by
          rcases hact with hnone | ⟨event, hone⟩
          · simp [hnone]
          · simp [hone]
        rw [hkept, List.length_append, hlength] at hlt
        rw [h.launches]
        omega
      rw [hnew, Depths.strand_behind_of_launched hact hlaunched]
      exact ⟨_, Run.nests_unitStrand r hroom⟩

theorem fitting_start (r : Run) (ops : List Operation) (store : Store) :
    Fitting r (start r ops store) {} :=
  ⟨rfl, Run.nests_mainStrand r ops, nofun⟩

namespace History

variable {ops : List Operation} {store : Store} {acts : List (Option Nat × Act)}

theorem fitting (h : History r (start r ops store) acts c) : Fitting r c (.after acts) := by
  induction h with
  | nil => exact fitting_start r ops store
  | snoc _ hstep ih =>
    rw [Depths.after_snoc]
    exact ih.step hstep

/-- In a run every operation starts with the room that is left at its depth. -/
theorem depth_add_room (h : History r (start r ops store) acts c)
    {front back : List (Option Nat × Act)} (hacts : acts = front ++ (who, act) :: back)
    {op : Operation} {room : Nat} (hstarts : act.Starts op room) :
    (Depths.after front).strand who + room = r.maxDepth := by
  obtain ⟨mid, next, hfront, hstep, -⟩ := h.exists_step hacts
  exact hfront.fitting.fits hstep _ hstarts

end History

end Crew

end RecipeRunner
