import RecipeRunner.Proofs.Run.Alone
import RecipeRunner.Proofs.Run.Blame
import RecipeRunner.Proofs.Run.Passes
/-!
# Loops with a condition

Before each pass a loop with a condition evaluates it in the store that it finds.  The condition may
hold once more than there are passes; then the limit is reached.  What is inside the loop is under
the same limit, so the loop may also pass on that a loop inside has reached it.

* `Tests`: how a pass of such a loop begins.
* `Concludes`: how the loop ends before a pass.
* `loop_repeats`: the passes of such a loop and the ways in which it ends, in every run of it.
-/

namespace RecipeRunner.Run

open Event (unreported)
open Relation (ReflTransGen)
open Strand (Inside Moves done)

variable {r : Run} {others : Store → Store → Prop} {store last : Store} {events : List Event}
  {condition : String} {body t : Strand Signal}

/-- A pass begins: the condition holds and the limit is not reached, then the number of the pass is
set. -/
def Tests (others : Store → Store → Prop) (r : Run) (condition : String) (number : Nat)
    (s start : Store) : Prop :=
  ∃ test between, ReflTransGen others s test ∧ Condition.evaluate test.scope condition = .ok true ∧
    (r.maxRepeats ≠ 0 → number ≤ r.maxRepeats) ∧ ReflTransGen others test.drawn between ∧
      start = between.setVar passName (.int number)

/-- What a loop with a condition comes to that stops in a store behind so many passes. -/
def Concludes (r : Run) (condition : String) (passes : Nat) (test : Store)
    (result : Except Error Signal) : Prop :=
  match Condition.evaluate test.scope condition with
  | .error e => result = .error e
  | .ok false => result = .ok .next
  | .ok true =>
    r.maxRepeats ≠ 0 ∧ passes = r.maxRepeats ∧ result = .error (.loopLimit r.maxRepeats)

/-- The loop stops before a pass, in the store that it finds. -/
def Stops (others : Store → Store → Prop) (r : Run) (condition : String) (number : Nat) (s : Store)
    (result : Except Error Signal) : Prop :=
  ∃ test, ReflTransGen others s test ∧ r.Concludes condition (number - 1) test result

theorem Tests.earlier (number : Nat) (s mid start : Store) (hmid : ReflTransGen others s mid)
    (h : Tests others r condition number mid start) : Tests others r condition number s start := by
  obtain ⟨test, between, htest, hrest⟩ := h
  exact ⟨test, between, hmid.trans htest, hrest⟩

theorem Stops.earlier (number : Nat) (s mid : Store) (result : Except Error Signal)
    (hmid : ReflTransGen others s mid) (h : Stops others r condition number mid result) :
    Stops others r condition number s result := by
  obtain ⟨test, htest, hrest⟩ := h
  exact ⟨test, hmid.trans htest, hrest⟩

/-- What follows where the condition still holds and no pass is left: behind as many passes as the
limit allows the loop fails, and a loop without limit is given up. -/
inductive Exhausts (r : Run) : (passes : Nat) → Strand Signal → Prop
  | limited : r.maxRepeats ≠ 0 → Exhausts r r.maxRepeats (Strand.fail (.loopLimit r.maxRepeats))
  | patient (passes : Nat) : r.maxRepeats = 0 → Exhausts r passes Strand.endless

/-- A strand that evaluates a condition has done nothing yet, or it goes on with what the condition
gives in the store that it has found. -/
theorem moves_of_holds {k : Bool → Strand Signal}
    (h : Moves others (holds condition >>= k) store events t last) :
    (events = [] ∧ ∃ change next, t = .update change next) ∨
      ∃ test, ReflTransGen others store test ∧
        ((∃ e, Condition.evaluate test.scope condition = .error e ∧
            Moves others (done (.error e)) test.drawn events t last) ∨
          ∃ on, Condition.evaluate test.scope condition = .ok on ∧
            Moves others (k on) test.drawn events t last) := by
  rcases h.of_update with ⟨rfl, rfl⟩ | ⟨test, htest, hmoves⟩
  · exact .inl ⟨rfl, _, _, rfl⟩
  · refine .inr ⟨test, htest, ?_⟩
    have hgoes : Moves others (Strand.ofExcept (Condition.evaluate test.scope condition) >>= k)
      test.drawn events t last := hmoves
    cases hcondition : Condition.evaluate test.scope condition with
    | error e =>
      rw [hcondition] at hgoes
      exact .inl ⟨e, rfl, hgoes⟩
    | ok on =>
      rw [hcondition] at hgoes
      exact .inr ⟨on, rfl, hgoes⟩

/-- The loop stops in the store in which it has evaluated the condition. -/
theorem progress_concludes {number : Nat} {test mid : Store} {result : Except Error Signal}
    (htest : ReflTransGen others store test) (hresult : r.Concludes condition number test result)
    (h : Moves others (done result) mid events t last) :
    Progress others body (Tests others r condition) (Stops others r condition) (r.maxRepeats = 0)
      (number + 1) store events t last := by
  obtain ⟨rfl, rfl, -⟩ := h.of_done
  exact progress_stopped ⟨test, htest, hresult⟩

theorem Exhausts.le {passes number : Nat} {otherwise : Strand Signal}
    (h : r.Exhausts passes otherwise) (hnumber : number ≤ passes) (hlimit : r.maxRepeats ≠ 0) :
    number ≤ r.maxRepeats := by
  cases h with
  | limited => exact hnumber
  | patient _ hnone => exact absurd hnone hlimit

theorem progress_passesWhile {otherwise : Strand Signal} {left number : Nat}
    (hotherwise : r.Exhausts (number + left) otherwise)
    (h : Moves others (passesWhile (holds condition) otherwise (numbered body) left (number + 1))
      store events t last) :
    Progress others body (Tests others r condition) (Stops others r condition) (r.maxRepeats = 0)
      (number + 1) store events t last := by
  induction left generalizing number store events with
  | zero =>
    rcases moves_of_holds h with ⟨rfl, _, _, rfl⟩ | ⟨test, htest, ⟨e, hcondition, hdone⟩ |
      ⟨on, hcondition, hmoves⟩⟩
    · exact progress_update _ _
    · exact progress_concludes htest (by rw [Concludes, hcondition]) hdone
    · cases on with
      | false => exact progress_concludes htest (by rw [Concludes, hcondition]) hmoves
      | true =>
        cases hotherwise with
        | limited hlimit =>
          refine progress_concludes htest ?_ hmoves
          rw [Concludes, hcondition]
          exact ⟨hlimit, rfl, rfl⟩
        | patient _ hlimit =>
          obtain ⟨rfl, rfl⟩ := Moves.of_endless hmoves
          exact progress_between nofun fun _ => hlimit
  | succ left ih =>
    rcases moves_of_holds h with ⟨rfl, _, _, rfl⟩ | ⟨test, htest, ⟨e, hcondition, hdone⟩ |
      ⟨on, hcondition, hmoves⟩⟩
    · exact progress_update _ _
    · exact progress_concludes htest (by rw [Concludes, hcondition]) hdone
    · cases on with
      | false => exact progress_concludes htest (by rw [Concludes, hcondition]) hmoves
      | true =>
        rcases hmoves.of_update with ⟨rfl, rfl⟩ | ⟨between, hbetween, hmoves⟩
        · exact progress_update _ _
        · have hstart : Tests others r condition (number + 1) store
              (between.setVar passName (.int (number + 1 : Nat))) :=
            ⟨test, between, htest, hcondition, hotherwise.le (by omega), hbetween, rfl⟩
          have hclose : ∀ outcome, (done outcome : Strand Signal).Settles (ReflTransGen others)
              outcome := fun _ => rfl
          rw [← Nat.add_assoc, Nat.add_right_comm] at hotherwise
          refine progress_turn Tests.earlier Stops.earlier hstart hclose
            (fun mid more hrest => ih hotherwise hrest) ?_
          rw [Strand.continueWith_done]
          exact hmoves

section

variable {op : Operation} {id : String} {depth room : Nat} {progress : Bool}

/-- What a loop with a condition repeats goes on from pass to pass. -/
theorem inside_repeated_whileHolds {f : Except Error Signal → Except Error Signal}
    (h : Inside others f (r.repeated (.whileHolds condition progress) depth body) store events t
      last) :
    ∃ first entered left otherwise, ReflTransGen others store first ∧
      ReflTransGen others (first.pushLoop "while" depth) entered ∧ r.Exhausts left otherwise ∧
        Inside others f (passesWhile (holds condition) otherwise (numbered body) left 1) entered
          events t last := by
  simp only [repeated] at h
  split at h
  · next hlimit =>
    obtain ⟨first, entered, hfirst, hentered, hpasses⟩ := inside_inLoop h
    exact ⟨first, entered, _, _, hfirst, hentered, .patient _ hlimit, hpasses⟩
  · next hlimit =>
    obtain ⟨first, entered, hfirst, hentered, hpasses⟩ := inside_inLoop h
    exact ⟨first, entered, _, _, hfirst, hentered, .limited hlimit, hpasses⟩

/-- Before a pass a loop fails with the limit only where it is reached: no condition has an error
that is one of loops. -/
theorem Concludes.eq_limit_iff {passes : Nat} {test : Store} {outcome : Except Error Signal}
    (h : r.Concludes condition passes test outcome) :
    outcome = .error (.loopLimit r.maxRepeats) ↔ passes = r.maxRepeats ∧ r.maxRepeats ≠ 0 ∧
      Condition.evaluate test.scope condition = .ok true := by
  unfold Concludes at h
  cases hcondition : Condition.evaluate test.scope condition with
  | error e =>
    rw [hcondition] at h
    have he := Condition.textual_evaluate test.scope condition e hcondition
    constructor
    · intro hlimit
      rw [Except.error.inj (h.symm.trans hlimit)] at he
      cases he
    · rintro ⟨-, -, hholds⟩
      cases hholds
  | ok on =>
    rw [hcondition] at h
    cases on with
    | false =>
      constructor
      · intro hlimit
        cases h.symm.trans hlimit
      · rintro ⟨-, -, hholds⟩
        cases hholds
    | true => exact ⟨fun _ => ⟨h.2.1, h.1, rfl⟩, fun _ => h.2.2⟩

theorem loopResult_eq_error_iff {outcome : Except Error Signal} {e : Error} :
    loopResult op outcome = .error e ↔ outcome = .error e := by
  match outcome with
  | .ok .exit => simp [loopResult]
  | .ok .next => simp [loopResult]
  | .ok .stop => simp [loopResult]
  | .error _ => exact Iff.rfl

/-- Before each pass a loop with a condition evaluates it in the store that the pass before has
left, and there are no more passes than the limit allows.  The loop fails with the limit exactly if
as many passes have signalled to go on and the condition still holds, or if its last pass has failed
with the limit itself; without a limit it never does. -/
theorem loop_repeats (h : Moves others
      (r.loop (.whileHolds condition progress) op id depth
        (inOrder (r.execute room) op.operations)) store events t last) :
    ∃ mid first entered ps, ReflTransGen others store mid ∧
      ReflTransGen others (if progress then mid.setProgress true else mid) first ∧
      ReflTransGen others (first.pushLoop "while" depth) entered ∧
      unreported events = Pass.unreported ps ∧
      (∀ j p, ps[j]? = some p → p.Runs others (inOrder (r.execute room) op.operations) ∧
        Tests others r condition (j + 1) (Pass.leftBy entered (ps.take j)) p.start ∧
        (j + 1 < ps.length → p.GoesOn)) ∧
      (r.maxRepeats ≠ 0 → ps.length ≤ r.maxRepeats) ∧
      (∀ result, t = done result → ∃ outcome test, result = loopResult op outcome ∧
        ReflTransGen others (Pass.leftBy entered ps) test ∧
        (((∀ p ∈ ps, p.GoesOn) ∧ r.Concludes condition ps.length test outcome) ∨
          ∃ p, ps.getLast? = some p ∧ p.state = done outcome ∧ outcome ≠ .ok .next) ∧
        (result = .error (.loopLimit r.maxRepeats) ↔
          ((∀ p ∈ ps, p.GoesOn) ∧ ps.length = r.maxRepeats ∧ r.maxRepeats ≠ 0 ∧
            Condition.evaluate test.scope condition = .ok true) ∨
          ∃ p, ps.getLast? = some p ∧ p.state = done (.error (.loopLimit r.maxRepeats)))) ∧
      (r.maxRepeats = 0 → (∀ event ∈ events, event.Replies fun e => ∀ limit, e ≠ .loopLimit limit) →
        ∀ limit, t ≠ done (.error (.loopLimit limit))) ∧
      (t.Stuck last → r.maxRepeats = 0 ∨ ∃ p, ps.getLast? = some p ∧ p.state.Stuck p.last) := by
  obtain ⟨mid, hmid, hinside⟩ := inside_loop h
  obtain ⟨first, entered, left, otherwise, hfirst, hentered, hotherwise, own, inner, last', hmoves,
    hown, hresult, hstuck⟩ := inside_repeated_whileHolds hinside
  rw [← Nat.zero_add left] at hotherwise
  obtain ⟨ps, result?, hps, hpasses, hresult?, hstuck'⟩ := progress_passesWhile hotherwise hmoves
  refine ⟨mid, first, entered, ps, hmid, hfirst, hentered, hown.trans hpasses, fun j p hp => ?_,
    ?_, fun result ht => ?_, ?_, fun ht => hstuck' (hstuck ht)⟩
  · obtain ⟨hruns, htests, hgoes⟩ := hps.pass hp
    rw [Nat.zero_add, Nat.add_comm] at htests
    exact ⟨hruns, htests, hgoes⟩
  · -- the number of the last pass is within the limit
    intro hlimit
    cases hlength : ps.length with
    | zero => exact Nat.zero_le _
    | succ j =>
      have hj : j < ps.length := by omega
      have hp : ps[j]? = some ps[j] := List.getElem?_eq_getElem hj
      obtain ⟨-, ⟨_, _, -, -, hnumber, -⟩, -⟩ := hps.pass hp
      have hle := hnumber hlimit
      omega
  · obtain ⟨outcome, hinner, rfl⟩ := hresult result ht
    rw [hresult? outcome hinner] at hps
    rcases hps.result with ⟨hgoes, test, htest, hconcludes⟩ | ⟨p, hp, hstate, hne⟩
    · rw [Nat.zero_add, Nat.add_sub_cancel_left] at hconcludes
      refine ⟨outcome, test, rfl, htest, .inl ⟨hgoes, hconcludes⟩, ?_⟩
      rw [loopResult_eq_error_iff, hconcludes.eq_limit_iff]
      constructor
      · exact fun hreached => .inl ⟨hgoes, hreached⟩
      · rintro (⟨-, hreached⟩ | ⟨p, hp, hstate⟩)
        · exact hreached
        · cases (hgoes p (List.mem_of_getLast? hp)).symm.trans hstate
    · refine ⟨outcome, Pass.leftBy entered ps, rfl, .refl, .inr ⟨p, hp, hstate, hne⟩, ?_⟩
      rw [loopResult_eq_error_iff]
      constructor
      · rintro rfl
        exact .inr ⟨p, hp, hstate⟩
      · rintro (⟨hgoes, -⟩ | ⟨q, hq, hlimit⟩)
        · have hnext := (hgoes p (List.mem_of_getLast? hp)).symm.trans hstate
          exact absurd (Strand.done.inj hnext).symm hne
        · obtain rfl := Option.some.inj (hp.symm.trans hq)
          exact Strand.done.inj (hstate.symm.trans hlimit)
  · intro hnone hreplies limit ht
    have hQ : ∀ e, r.CanFail e → ∀ limit, e ≠ .loopLimit limit := by
      rintro _ hfail limit rfl
      exact hfail.1 hnone
    have hfails := (failsOnly_loop hQ (.whileHolds condition progress) op id depth
      (failsOnly_inOrder (failsOnly_execute hQ room) op.operations)).moves h hreplies
    rw [ht] at hfails
    exact hfails _ rfl limit rfl

end

/-- A run that lets loops with a condition make one pass. -/
def onceOnly : Run := ⟨2, 1, 0, .empty, "", {}⟩

/-- A loop without operations, whose condition always holds. -/
def endlessLoop : Operation where
  controlFlow := some (.whileHolds "" false)

/-- The loop makes its one pass and then fails. -/
theorem loop_repeats_endlessLoop :
    ∃ events last, Moves Strand.nobody
      (onceOnly.loop (.whileHolds "" false) endlessLoop "" 0
        (inOrder (onceOnly.execute 1) endlessLoop.operations))
      {} events (done (.error (.loopLimit 1))) last ∧
    ∃ ps : List Pass, ps.length = 1 ∧ ∀ p ∈ ps, p.GoesOn := by
  obtain ⟨events, last, h⟩ : ∃ events last, Moves Strand.nobody
      (onceOnly.loop (.whileHolds "" false) endlessLoop "" 0
        (inOrder (onceOnly.execute 1) endlessLoop.operations))
      {} events (done (.error (.loopLimit 1))) last :=
    ⟨_, _, .own (.update _ _ _) <| .own (.update _ _ _) <| .own (.update _ _ _) <|
      .own (.update _ _ _) <| .own (.update _ _ _) <| .own (.update _ _ _) <|
      .own (.update _ _ _) <| .refl _ _⟩
  obtain ⟨mid, first, entered, ps, -, -, -, -, hpass, -, hresult, -⟩ := loop_repeats h
  obtain ⟨outcome, test, -, -, -, hlimit⟩ := hresult _ rfl
  refine ⟨events, last, h, ps, ?_⟩
  rcases hlimit.1 rfl with ⟨hgoes, hlength, -⟩ | ⟨p, hp, hstate⟩
  · exact ⟨hlength, hgoes⟩
  · -- the body has no operation that could fail
    rw [List.getLast?_eq_getElem?] at hp
    have hruns := (hpass _ p hp).1
    rw [Pass.Runs, hstate] at hruns
    have hends : (inOrder (onceOnly.execute 1) endlessLoop.operations).Ends p.start
        fun _ result _ => result = .ok .next := (Strand.ends_done _).2 rfl
    cases hends _ _ _ hruns

/-- A loop around a loop, whose conditions always hold. -/
def endlessLoops : Operation where
  controlFlow := some (.whileHolds "" false)
  operations := [endlessLoop]

/-- A loop fails with the limit although none of its passes comes to its end: the loop inside it is
under the same limit. -/
theorem exists_loopLimit_of_inner_loop :
    (∃ events last, Moves Strand.nobody
      (onceOnly.loop (.whileHolds "" false) endlessLoops "" 0
        (inOrder (onceOnly.execute 2) endlessLoops.operations))
      {} events (done (.error (.loopLimit 1))) last) ∧
    ∀ s, (inOrder (onceOnly.execute 2) endlessLoops.operations).Ends s
      fun _ result _ => result = .error (.loopLimit 1) := by
  refine ⟨⟨_, _, .own (.update _ _ _) <| .own (.update _ _ _) <| .own (.update _ _ _) <|
    .own (.update _ _ _) <| .own (.note _ _ _) <| .own (.update _ _ _) <|
    .own (.update _ _ _) <| .own (.update _ _ _) <| .own (.update _ _ _) <|
    .own (.update _ _ _) <| .own (.update _ _ _) <| .own (.update _ _ _) <|
    .own (.update _ _ _) <| .own (.note _ _ _) <| .own (.update _ _ _) <|
    .own (.update _ _ _) <| .refl _ _⟩, fun s => ?_⟩
  exact (Strand.ends_note _ _).2 <| (Strand.ends_update _ _).2 <| (Strand.ends_update _ _).2 <|
    (Strand.ends_update _ _).2 <| (Strand.ends_update _ _).2 <| (Strand.ends_update _ _).2 <|
    (Strand.ends_update _ _).2 <| (Strand.ends_update _ _).2 <| (Strand.ends_update _ _).2 <|
    (Strand.ends_note _ _).2 <| (Strand.ends_done _).2 rfl

end RecipeRunner.Run
