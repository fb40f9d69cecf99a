import RecipeRunner.Proofs.Run.Alone
import RecipeRunner.Proofs.Run.Recording
/-!
# Outcomes of references

The outcome of a component is published under the id of the reference: the copy steps behind the
command that the component ends in pass on what the command has recorded, from id to id, up to that
of the reference.  They do so if they come to run; a command that ends the recipe keeps them from
it.

* `Store.Shows`: an outcome is there under an id.
* `Turns.shows`: copy steps pass an outcome on.
* `outcome_of_reference`: what is published under the id of a reference.
-/

namespace RecipeRunner

/-- Under `id` there is a result, and an output if there is one to show. -/
structure Store.Shows (s : Store) (success : Bool) (output? : Option String) (id : String) :
    Prop where
  result : s.results.get? id = some success
  output : ∀ output, output? = some output → s.outputs.get? id = some output

namespace Store

variable {s t : Store} {success : Bool} {output? : Option String} {id source : String}

theorem Shows.of_sameAt {ids : List String} (h : s.Shows success output? id) (hid : id ∈ ids)
    (hsame : SameAt ids s t) : t.Shows success output? id :=
  ⟨(hsame.results id hid).trans h.result,
    fun output houtput => (hsame.outputs id hid).trans (h.output output houtput)⟩

theorem Shows.copyOutcome (h : s.Shows success output? source) (id : String) :
    (s.copyOutcome source id).Shows success output? id := by
  refine ⟨?_, fun output houtput => ?_⟩
  · rw [results_copyOutcome, h.result, Option.some_or]
  · rw [outputs_copyOutcome, h.output output houtput, Option.some_or]

/-- Copying what an id shows already does not change what it shows. -/
theorem Shows.copyOutcome_of_shows (h : s.Shows success output? id)
    (hsource : s.Shows success output? source) (target : String) :
    (s.copyOutcome source target).Shows success output? id := by
  by_cases hid : target ∈ [id]
  · obtain rfl := List.mem_singleton.1 hid
    exact hsource.copyOutcome _
  · exact h.of_sameAt (List.mem_singleton_self id) (sameAt_copyOutcome s source hid)

end Store

namespace Run

open Expansion (expandOne expandWithin)
open Operation (CopiesOnly)
open Store (SameAt)
open Strand (Moves nobody)

variable {r : Run} {room : Nat} {ids : List String} {s last : Store}

/-- Copy steps pass on what is shown under the id before them. -/
theorem Turns.shows {copies : List Operation} {before : Operation} {id : String} {success : Bool}
    {output? : Option String} (h : Turns Ran (SameAt ids) r room copies s last)
    (hchain : (before :: copies).IsChain CopiesOnly)
    (hcopies : ∀ copy ∈ copies, copy.copyFrom ≠ none)
    (hids : ∀ op ∈ before :: copies, op.id ∈ ids)
    (hne : ∀ op ∈ copies, op.id.isEmpty = false)
    (hplain : ∀ op ∈ copies, Template.hasTemplate op.id = false)
    (hspare : ∀ op ∈ copies, HandlersSpare r room ids op) (hid : id ∈ ids)
    (hshows : s.Shows success output? before.id) (hother : s.Shows success output? id) :
    last.Shows success output? id ∧
      ∀ op ∈ (before :: copies).getLast?, last.Shows success output? op.id := by
  induction h generalizing before with
  | nil =>
    refine ⟨hother, fun op hop => ?_⟩
    obtain rfl := Option.some.inj hop
    exact hshows
  | @cons copy copies s mid last turn result hturn hran _ ih =>
    rw [List.isChain_cons_cons] at hchain
    obtain ⟨source, hsource⟩ := Option.ne_none_iff_exists'.1 (hcopies copy List.mem_cons_self)
    obtain ⟨hcopy, rfl, -⟩ := hchain.1 source hsource
    have hmid : SameAt ids (s.copyOutcome before.id copy.id) mid :=
      endsAmong_execute_copies hcopy (hids before List.mem_cons_self)
        (hplain copy List.mem_cons_self) (hne copy List.mem_cons_self)
        (hspare copy List.mem_cons_self) _ _ _ hturn hran
    have hpassed : mid.Shows success output? copy.id :=
      (hshows.copyOutcome copy.id).of_sameAt (hids copy (by simp)) hmid
    rw [List.getLast?_cons_cons]
    exact ih hchain.2 (fun op hop => hcopies op (List.mem_cons_of_mem _ hop))
      (fun op hop => hids op (List.mem_cons_of_mem _ hop))
      (fun op hop => hne op (List.mem_cons_of_mem _ hop))
      (fun op hop => hplain op (List.mem_cons_of_mem _ hop))
      (fun op hop => hspare op (List.mem_cons_of_mem _ hop)) hpassed
      ((hother.copyOutcome_of_shows hshows copy.id).of_sameAt hid hmid)

/-- What the command at the end of a component has recorded in its turn is published under the id
of the reference too when the copy steps behind the command have run.  Under either of these ids it
stays there while the rest of the run and all others leave the id alone. -/
theorem outcome_of_reference {registry : Registry} {ref final : Operation} {n : Nat}
    {front copies : List Operation} {kept : List String} {mid after : Store}
    {turn events : List Event} {outcome : Except Error String} {signal : Signal} {α : Type}
    {rest next : Strand α}
    (huses : ref.uses.isEmpty = false) (hid : ref.id.isEmpty = false)
    (hexpand : expandOne registry (expandWithin registry n) ref = .ok (front ++ final :: copies))
    (hcomponents : ∀ op, Inlined registry ref.uses op → op.copyFrom = none)
    (hfinal : final.RunsCommand) (hcopies : ∀ copy ∈ copies, copy.copyFrom ≠ none)
    (hplain : ∀ op ∈ final :: copies, Template.hasTemplate op.id = false)
    (hids : ∀ op ∈ final :: copies, op.id ∈ ids)
    (hspare : ∀ op ∈ final :: copies, HandlersSpare r room ids op)
    (hturn : Moves (SameAt ids) (r.execute (room + 1) final) s turn (.done (.ok signal)) mid)
    (houtcome : commandOutput? final turn = some outcome)
    (hturns : Turns Ran (SameAt ids) r room copies mid after) (hsparing : rest.Spares kept)
    (hrest : Moves (SameAt kept) rest after events next last) :
    (∀ id ∈ [final.id, ref.id], id ∈ kept →
      last.Shows outcome.isOk (mid.outputs.get? final.id) id) ∧
        (outcome.isOk = true → ∃ output, mid.outputs.get? final.id = some output) := by
  have hchain : (final :: copies).IsChain CopiesOnly :=
    (List.isChain_append.1
      (Expansion.copiesInOrder_of_expandOne hexpand huses hcomponents).chain).2.1
  obtain ⟨before, last', hops⟩ : ∃ before last', final :: copies = before ++ [last'] := by
    simpa using (List.eq_nil_or_concat (final :: copies)).resolve_left (by simp)
  have hlastId : last'.id = ref.id := by
    rw [hops, ← List.append_assoc] at hexpand
    exact Expansion.id_of_expandOne hexpand huses hid
  have hgetLast : (final :: copies).getLast? = some last' := by rw [hops, List.getLast?_concat]
  have hne := Operation.isEmpty_id_of_isChain hchain hcopies fun op hop => by
    rw [hgetLast] at hop
    rw [← Option.some.inj hop, hlastId, hid]
  have hrecords := endsAmong_execute_records hfinal (hplain final List.mem_cons_self)
    (hne final List.mem_cons_self) (hspare final List.mem_cons_self) _ _ _ hturn outcome signal
    houtcome rfl
  have hfirst := hids final List.mem_cons_self
  have hrecorded : mid.results.get? final.id = some outcome.isOk ∧
      (outcome.isOk = true → ∃ output, mid.outputs.get? final.id = some output) := by
    cases outcome with
    | ok raw =>
      obtain ⟨output, hsame⟩ := hrecords
      refine ⟨?_, fun _ => ⟨output, ?_⟩⟩
      · rw [hsame.results _ hfirst]
        simp [Store.setResult, Except.isOk, Except.toBool]
      · rw [hsame.outputs _ hfirst]
        simp [Store.setResult, Store.setOutput]
    | error failure =>
      refine ⟨?_, fun hok => by cases hok⟩
      rw [hrecords.results _ hfirst]
      simp [Store.setResult, Except.isOk, Except.toBool]
  have hshows : mid.Shows outcome.isOk (mid.outputs.get? final.id) final.id :=
    ⟨hrecorded.1, fun _ => id⟩
  obtain ⟨hown, hpassed⟩ := hturns.shows hchain hcopies hids
    (fun op hop => hne op (List.mem_cons_of_mem _ hop))
    (fun op hop => hplain op (List.mem_cons_of_mem _ hop))
    (fun op hop => hspare op (List.mem_cons_of_mem _ hop)) hfirst hshows hshows
  have hkept := (hsparing.moves (fun _ _ h => h) hrest).2.1
  have hshown : ∀ id ∈ [final.id, ref.id],
      after.Shows outcome.isOk (mid.outputs.get? final.id) id := by
    simp only [List.mem_cons, List.not_mem_nil, or_false]
    rintro id (rfl | rfl)
    · exact hown
    · rw [← hlastId]
      exact hpassed last' hgetLast
  exact ⟨fun id hid hmem => (hshown id hid).of_sameAt hmem hkept, hrecorded.2⟩

/-- A command that is read off through a component. -/
def reading : Operation :=
  { id := "reading", command := "cat gauge", onSuccess := "log" }

/-- What follows a reading. -/
def logging : Operation :=
  { id := "log", command := "date" }

/-- A reference under another id. -/
def sample : Operation :=
  { id := "sample", uses := "gauge" }

/-- The step that copies the outcome for the reference. -/
def sampleCopy : Operation where
  id := "sample"
  isSilent := true
  copyFrom := some "reading"

/-- A run in which readings are logged. -/
def loggingRun : Run :=
  ⟨2, 0, 0, .ofList [("log", logging)], "", {}⟩

theorem apart_logging : loggingRun.Apart ["reading", "sample"] (· = logging) where
  plain := by
    rintro _ rfl
    rfl
  notMem := by
    rintro _ rfl
    decide
  inside := by
    rintro _ rfl _ hchild
    cases hchild
  success := by
    rintro _ rfl target htarget
    cases htarget
  failure := by
    rintro _ rfl target htarget
    cases htarget

theorem outcome_of_sample :
    ∃ output, ∃ last : Store, last.Shows true (some output) "reading" ∧
      last.Shows true (some output) "sample" ∧
      ∃ turn mid, Moves (SameAt ["reading", "sample"]) (loggingRun.execute 2 reading) {} turn
        (.done (.ok .next)) mid ∧ mid.outputs.get? "reading" = some output := by
  have hcondition : Condition.conjoin "" "" = "" := by decide +kernel
  have hexpand : expandOne (.single "gauge" reading) (expandWithin (.single "gauge" reading) 1)
      sample = .ok ([] ++ reading :: [sampleCopy]) := by
    rw [Expansion.expandOne_of_single 0 rfl (Registry.get?_single _ _ _) rfl rfl rfl]
    simp [reading, sample, sampleCopy, Operation.guardedBy, hcondition, Operation.endFor,
      Operation.takeFailureHandler, Operation.takeSignals, Operation.copyStep]
  have hcomponents : ∀ op, Inlined (.single "gauge" reading) sample.uses op →
      op.copyFrom = none := by
    intro op hop
    rw [hop.eq_of_single, reading]
  have hspare : ∀ op ∈ [reading, sampleCopy],
      HandlersSpare loggingRun 1 ["reading", "sample"] op := by
    simp only [List.mem_cons, List.not_mem_nil, or_false]
    rintro op (rfl | rfl)
    · refine apart_logging.handlersSpare fun handler hhandler target htarget => ?_
      rcases List.mem_cons.1 hhandler with rfl | hhandler
      · exact (Option.some.inj htarget).symm
      · rw [List.mem_singleton.1 hhandler] at htarget
        cases htarget
    · refine apart_logging.handlersSpare fun handler hhandler target htarget => ?_
      obtain rfl : handler = "" := by simpa [sampleCopy] using hhandler
      cases htarget
  obtain ⟨turn, mid, after, hturn, houtcome, hturns⟩ : ∃ turn mid after,
      Moves (SameAt ["reading", "sample"]) (loggingRun.execute 2 reading) {} turn
        (.done (.ok .next)) mid ∧ commandOutput? reading turn = some (.ok "5") ∧
      Turns Ran (SameAt ["reading", "sample"]) loggingRun 1 [sampleCopy] mid after := by
    exact ⟨_, _, _, .own (.note _ _ _) <| .own (.update _ _ _) <| .own (.update _ _ _) <|
      .own (.report _ _ _) <| .own (.command _ _ _ ⟨.exited 0, "5", ""⟩) <| .own (.update _ _ _) <|
      .own (.update _ _ _) <| .own (.update _ _ _) <| .own (.report _ _ _) <|
      .own (.note _ _ _) <| .own (.update _ _ _) <| .own (.update _ _ _) <|
      .own (.report _ _ _) <| .own (.command _ _ _ ⟨.exited 0, "", ""⟩) <|
      .own (.update _ _ _) <| .own (.update _ _ _) <| .own (.note _ _ _) <|
      .own (.note _ _ _) <| .refl _ _, rfl,
      .cons (.own (.note _ _ _) <| .own (.update _ _ _) <| .own (.update _ _ _) <|
        .own (.note _ _ _) <| .refl _ _) ⟨.next, rfl, rfl⟩ (.nil _)⟩
  have hrest : (loggingRun.execute 1 logging).Spares ["reading", "sample"] :=
    spares_execute apart_logging 1 rfl
  obtain ⟨hshows, houtput⟩ := outcome_of_reference rfl rfl hexpand hcomponents
    ⟨rfl, rfl, by decide, by decide⟩ (by simp [sampleCopy]) (by decide) (by decide) hspare hturn
    houtcome hturns hrest (.refl _ _)
  obtain ⟨output, hmid⟩ := houtput rfl
  have hmid' : mid.outputs.get? reading.id = some output := hmid
  rw [hmid'] at hshows
  exact ⟨output, after, hshows _ (by decide) (by decide), hshows _ (by decide) (by decide), turn,
    mid, hturn, hmid⟩

/-- A command that ends the recipe keeps its copy step from running, and nothing is published under
the id of the reference. -/
theorem exists_unpublished_of_exit :
    expandOne (.single "gauge" { reading with exitsRecipe := true })
        (expandWithin (.single "gauge" { reading with exitsRecipe := true }) 1) sample =
        .ok [{ reading with exitsRecipe := true }, sampleCopy] ∧
      ∃ events last, Moves nobody
          (loggingRun.recipeStrand [{ reading with exitsRecipe := true }, sampleCopy]) {} events
          (.done (.ok true)) last ∧
        last.results.get? "reading" = some true ∧ last.results.get? "sample" = none ∧
        last.outputs.get? "reading" = some (Text.trimmed "5") ∧
        last.outputs.get? "sample" = none := by
  have hcondition : Condition.conjoin "" "" = "" := by decide +kernel
  constructor
  · rw [Expansion.expandOne_of_single 0 rfl (Registry.get?_single _ _ _) rfl rfl rfl]
    simp [reading, sample, sampleCopy, Operation.guardedBy, hcondition, Operation.endFor,
      Operation.takeFailureHandler, Operation.takeSignals, Operation.copyStep]
  · exact ⟨_, _, .own (.note _ _ _) <| .own (.update _ _ _) <| .own (.update _ _ _) <|
      .own (.report _ _ _) <| .own (.command _ _ _ ⟨.exited 0, "5", ""⟩) <| .own (.update _ _ _) <|
      .own (.update _ _ _) <| .own (.update _ _ _) <| .own (.report _ _ _) <|
      .own (.note _ _ _) <| .own (.update _ _ _) <| .own (.update _ _ _) <|
      .own (.report _ _ _) <| .own (.command _ _ _ ⟨.exited 0, "", ""⟩) <|
      .own (.update _ _ _) <| .own (.update _ _ _) <| .own (.note _ _ _) <|
      .own (.note _ _ _) <| .refl _ _, rfl, rfl, rfl, rfl⟩

end Run

end RecipeRunner
