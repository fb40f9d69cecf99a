import RecipeRunner.Proofs.Run.Occurrences
/-!
# Termination

Handlers may refer to each other in circles, and a command or a prompt may bring any reply.  What
makes an operation come to an end is its room, which is less for each operation inside it, and
within one operation the passes of its loops, whose number is fixed when a loop starts or limited by
the run.

* `Strand.Halts`: the strands that come to an end whatever the replies and the stores are.
* `Run.halts_execute`: in a run that limits its loops, operations come to an end.
* `Run.halts_recipeStrand`, `Run.halts_unitStrand`: so do the recipe and the background units.
-/

namespace RecipeRunner

namespace Strand

variable {α β : Type} {s t : Strand α}

/-- Whatever the store is at each step and whatever the replies are, the strand can go on until it
is done, which it is after finitely many steps. -/
inductive Halts : Strand α → Prop
  | done (result : Except Error α) : Halts (done result)
  | step {s : Strand α} : (∀ store, ∃ new t mid, Move s store new t mid) →
    (∀ {store new t mid}, Move s store new t mid → Halts t) → Halts s

theorem Halts.move {store mid : Store} {new : List Event} (h : s.Halts)
    (hmove : Move s store new t mid) : t.Halts := by
  cases h with
  | done => cases hmove
  | step _ hnext => exact hnext hmove

theorem Halts.continueWith {k : Except Error α → Strand β} (hs : s.Halts)
    (hk : ∀ result, (k result).Halts) : (s.continueWith k).Halts := by
  induction hs with
  | done result => exact hk result
  | step hgoes _ ih =>
    refine .step (fun store => ?_) fun hmove => ?_
    · obtain ⟨new, t, mid, hmove⟩ := hgoes store
      exact ⟨new, _, mid, hmove.continueWith k⟩
    · rcases hmove.of_continueWith with ⟨result, -, hsecond⟩ | ⟨next, rfl, hfirst⟩
      · exact (hk result).move hsecond
      · exact ih hfirst

theorem halts_launch {unit : Launch} (hs : s.Halts) : (launch unit s).Halts := by
  refine .step (fun store => ⟨_, _, _, .launch unit s store⟩) fun hmove => ?_
  cases hmove
  exact hs

theorem halts_note {told : Note} (hs : s.Halts) : (note told s).Halts := by
  refine .step (fun store => ⟨_, _, _, .note told s store⟩) fun hmove => ?_
  cases hmove
  exact hs

theorem halts_compositional : Compositional (fun _ _ => True) fun _ s => s.Halts where
  aside _ := trivial
  done := .done
  update {_ change next} _ hnext := by
    refine .step (fun store => ⟨_, _, _, .update change next store⟩) fun hmove => ?_
    cases hmove
    exact hnext _
  call {_ call next} hnext := by
    -- any execution shows that the strand can go on
    refine .step (fun store => ⟨_, _, _, .command call next store ⟨.exited 0, "", ""⟩⟩)
      fun hmove => ?_
    cases hmove
    exact hnext _
  prompt {_ spec next} hnext := by
    refine .step (fun store => ⟨_, _, _, .ask spec next store (.ok .exit)⟩) fun hmove => ?_
    cases hmove
    exact hnext _
  question {_ label failure next} hnext := by
    refine .step (fun store => ⟨_, _, _, .confirm label failure next store (.ok false)⟩)
      fun hmove => ?_
    cases hmove
    exact hnext _
  report {_ text next} hnext := by
    refine .step (fun store => ⟨_, _, _, .report text next store⟩) fun hmove => ?_
    cases hmove
    exact hnext
  row := Halts.continueWith

end Strand

namespace Run

open Strand (halts_compositional)

variable {r : Run}

theorem halts_startUnit (op : Operation) (id command : String) (room : Nat) :
    (startUnit op id command room).Halts :=
  halts_compositional.startUnit op command room (fun _ => trivial) (fun _ => trivial)
    (fun _ => trivial) fun _ _ signal => Strand.halts_launch (.done signal)

/-- In a run that limits its loops, operations come to an end, whatever handlers they have. -/
theorem halts_execute (hlimit : 0 < r.maxRepeats) (room : Nat) (op : Operation) :
    (r.execute room op).Halts := by
  have hP := halts_compositional
  refine hP.execute (fun room op hexecute => ?_) room op
  have hbody : (r.body room op).Halts :=
    hP.body (fun _ _ => trivial) (fun _ => hexecute _) (fun _ _ => hexecute _)
      (fun hunlimited => by omega) fun id command => halts_startUnit op id command room
  rw [execute_succ]
  exact Strand.halts_note (hbody.continueWith fun _ => Strand.halts_note (.done _))

theorem halts_recipeStrand (hlimit : 0 < r.maxRepeats) (ops : List Operation) :
    (r.recipeStrand ops).Halts :=
  halts_compositional.recipeStrand fun _ _ => halts_execute hlimit _ _

theorem halts_unitStrand (hlimit : 0 < r.maxRepeats) (u : Launch) : (r.unitStrand u).Halts :=
  halts_compositional.unitStrand u (fun _ => halts_execute hlimit _ _) (fun _ _ => trivial)
    (fun _ _ => trivial) fun _ => trivial

end Run

end RecipeRunner
