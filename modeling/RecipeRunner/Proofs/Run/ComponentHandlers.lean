import RecipeRunner.Proofs.Run.Alone
import RecipeRunner.Proofs.Run.Recording
/-!
# Handlers of components

A reference to a component has handlers of its own, which go to the operations that it expands to.
Where the component ends in a command, its failure is followed by the failure handler; where a
reference inside ends it, the failure handler comes to stand with a copy step, too late for the
command.  The success handler is followed behind a command and behind a copy step, but not behind a
loop.

* `follows_onFailure_of_component`: the failure handler of a reference.
* `Turns.copied_succeeded`: what copy steps find when all before them was successful.
* `follows_onSuccess_of_component`: the success handler of a reference.
-/

namespace RecipeRunner.Run

open Expansion (expandOne expandWithin)
open Operation (CopiesOnly)
open Store (SameAt)
open Strand (Moves nobody)

variable {r : Run} {room : Nat} {registry : Registry} {ref target : Operation} {s : Store}

/-! ## Failure handlers -/

/-- Where a component ends in a command, expansion puts only copy steps behind it, and in whatever
turn of it the command fails, the failure handler of the reference is followed and the operator is
not asked.  The others may do anything to the store. -/
theorem follows_onFailure_of_component {n : Nat} {component : Component}
    {front : List Operation} {last : Operation} (r : Run) (room : Nat)
    (huses : ref.uses.isEmpty = false) (hcomponent : registry.get? ref.uses = some component)
    (hinner : expandWithin registry n (component.operations.map (·.guardedBy ref)) =
      .ok (front ++ [last]))
    (hlast : last.RunsCommand) (hhandler : ref.onFailure.isEmpty = false)
    (htarget : r.handlers.get? ref.onFailure = some target) :
    ∃ step copies, expandOne registry (expandWithin registry n) ref =
        .ok (front ++ step :: copies) ∧
      step.RunsCommand ∧ step.command = last.command ∧
      (∀ copy ∈ copies, ∃ source, copy.Copies source) ∧
      ∀ s, (r.execute (room + 1) step).EndsAmong (SameAt []) s fun events result _ =>
        ∀ failure, commandOutput? step events = some (.error failure) →
          failure.isCommandFailure = true →
            Follows (SameAt []) r room target step events result := by
  obtain ⟨step, copies, hexpand, hstep, hcommand, hfailure, hcopies⟩ :=
    Expansion.exists_of_expandOne_of_runsCommand huses hcomponent hinner hlast hhandler
  rw [← hfailure] at hhandler htarget
  exact ⟨step, copies, hexpand, hstep, hcommand, hcopies, fun s =>
    endsAmong_execute_of_failure hstep hhandler htarget⟩

/-- A component that ends in a command, and one that ends in a reference to it. -/
def probing : Registry :=
  Registry.registerAll {} [
    { id := "probe", operations := [{ id := "status", command := "exit 1" }] },
    { id := "audit", operations := [{ id := "probed", uses := "probe" }] }]

/-- What failures of the components are followed by. -/
def repair : Operation :=
  { id := "repair", command := "echo repaired" }

/-- A reference with a failure handler. -/
def health : Operation :=
  { id := "health", uses := "probe", onFailure := "repair" }

/-- A run in which the handler can be referred to. -/
def repairing : Run :=
  ⟨2, 0, 0, .ofList [("repair", repair)], "", {}⟩

theorem get?_probing (uses : String) : probing.get? uses =
    if uses = "audit" then
      some { id := "audit", operations := [{ id := "probed", uses := "probe" }] }
    else if uses = "probe" then
      some { id := "probe", operations := [{ id := "status", command := "exit 1" }] }
    else none := by
  simp only [probing, Registry.registerAll, List.foldl, Registry.get?_register]
  rfl

/-- A command that fails behind a reference is repaired. -/
theorem follows_onFailure_of_probe :
    ∃ step copies, expandOne probing (expandWithin probing 1) health =
        .ok ([] ++ step :: copies) ∧
      ∃ events result failure last,
        Moves (SameAt []) (repairing.execute 2 step) {} events (.done result) last ∧
        commandOutput? step events = some (.error failure) ∧
        Follows (SameAt []) repairing 1 repair step events result := by
  have hcomponent : probing.get? "probe" =
      some { id := "probe", operations := [{ id := "status", command := "exit 1" }] } := by
    rw [get?_probing]
    rfl
  have hcondition : Condition.conjoin "" "" = "" := by decide +kernel
  have hinner : expandWithin probing 1
      ([{ id := "status", command := "exit 1" }].map (Operation.guardedBy · health)) =
      .ok ([] ++ [{ id := "status", command := "exit 1" }]) := by
    simp [health, expandWithin, Expansion.expandEach, expandOne, Operation.guardedBy, hcondition,
      bind, Except.bind, pure, Except.pure]
  have hlast : Operation.RunsCommand { id := "status", command := "exit 1" } :=
    ⟨rfl, rfl, by decide, by decide⟩
  have huses : health.uses.isEmpty = false := rfl
  have hhandler : health.onFailure.isEmpty = false := rfl
  obtain ⟨step, copies, hexpand, -, -, -, hfollows⟩ :=
    follows_onFailure_of_component repairing 1 huses hcomponent hinner hlast hhandler rfl
  have hstep : step = { id := "status", command := "exit 1", onFailure := "repair" } := by
    rw [expandOne, huses, if_neg Bool.false_ne_true] at hexpand
    simp only [health, hcomponent] at hexpand hinner
    rw [hinner] at hexpand
    exact (List.cons.inj (Except.ok.inj hexpand)).1.symm
  obtain ⟨events, result, last, hmoves, hfailed⟩ : ∃ events result last,
      Moves (SameAt []) (repairing.execute 2 step) {} events (.done result) last ∧
        commandOutput? step events =
          some (.error (.commandFailed "exit 1" "exit status: 1" "")) := by
    subst hstep
    exact ⟨_, _, _, .own (.note _ _ _) <| .own (.update _ _ _) <| .own (.update _ _ _) <|
      .own (.report _ _ _) <| .own (.command _ _ _ ⟨.exited 1, "", ""⟩) <| .own (.update _ _ _) <|
      .own (.update _ _ _) <| .own (.note _ _ _) <| .own (.update _ _ _) <|
      .own (.update _ _ _) <| .own (.report _ _ _) <|
      .own (.command _ _ _ ⟨.exited 0, "", ""⟩) <| .own (.update _ _ _) <|
      .own (.update _ _ _) <| .own (.note _ _ _) <| .own (.note _ _ _) <| .refl _ _, rfl⟩
  exact ⟨step, copies, hexpand, events, result, _, last, hmoves, hfailed,
    hfollows {} events result last hmoves _ hfailed rfl⟩

/-- Behind a reference inside a component the failure handler is with the copy step.  When the
command fails the operator is asked, and the handler is not followed. -/
theorem exists_userAborted_of_nested_component :
    ∃ ops, expandOne probing (expandWithin probing 2)
        { id := "health", uses := "audit", onFailure := "repair" } = .ok ops ∧
      ∃ events last, Moves nobody (repairing.recipeStrand ops) {} events
          (.done (.error .userAborted)) last ∧
        (∃ failure, .confirmed "status" failure (.ok false) ∈ events) ∧
        ∀ room, .noted (.started repair room) ∉ events := by
  refine ⟨[{ id := "status", command := "exit 1" },
    { id := "probed", isSilent := true, copyFrom := some "status", onFailure := "repair" },
    { id := "health", isSilent := true, copyFrom := some "probed" }], ?_, ?_⟩
  · have hcondition : Condition.conjoin "" "" = "" := by decide +kernel
    simp [expandOne, expandWithin, Expansion.expandEach, get?_probing, Operation.guardedBy,
      hcondition, Operation.settle, Operation.endFor, Operation.takeFailureHandler,
      Operation.takeSignals, Operation.copyStep, bind, Except.bind, pure, Except.pure, Except.map]
  · refine ⟨_, _, .own (.note _ _ _) <| .own (.update _ _ _) <| .own (.update _ _ _) <|
      .own (.report _ _ _) <| .own (.command _ _ _ ⟨.exited 1, "", ""⟩) <| .own (.update _ _ _) <|
      .own (.update _ _ _) <| .own (.report _ _ _) <| .own (.confirm _ _ _ _ (.ok false)) <|
      .own (.note _ _ _) <| .refl _ _, ?_, ?_⟩
    · constructor
      simp only [List.nil_append, List.cons_append, List.mem_cons]
      exact .inr (.inr (.inr (.inr (.inl rfl))))
    · simp [repair]

/-! ## Success handlers -/

/-- The ids that the copy steps among operations copy. -/
def copied (ops : List Operation) : List String :=
  ops.filterMap (·.copyFrom)

theorem mem_copied {ops : List Operation} {op : Operation} {source : String} (h : op ∈ ops)
    (hcopy : op.copyFrom = some source) : source ∈ copied ops :=
  List.mem_filterMap.2 ⟨op, h, hcopy⟩

/-- What the first one of operations copies has succeeded, if it is a copy step. -/
def HeadReady (ops : List Operation) (s : Store) : Prop :=
  ∀ op ∈ ops.head?, ∀ source, op.copyFrom = some source →
    op.Copies source ∧ s.results.get? source = some true

/-- When all operations before it have completed turns, what a copy step copies has succeeded. -/
theorem Turns.copied_succeeded {front : List Operation} {final : Operation}
    {ids : List String} {mid : Store} (h : Turns Completed (SameAt ids) r room front s mid)
    (hchain : (front ++ [final]).IsChain CopiesOnly) (hhead : HeadReady (front ++ [final]) s)
    (hids : ∀ op ∈ front ++ [final], ∀ source, op.copyFrom = some source → source ∈ ids)
    (hplain : ∀ id ∈ ids, Template.hasTemplate id = false)
    (hmode : ∀ op ∈ front, op.mode ≠ .background)
    (hspare : ∀ op ∈ front, op.id ∈ ids → HandlersSpare r room ids op) :
    HeadReady [final] mid := by
  induction h with
  | nil => exact hhead
  | @cons op ops s mid last turn result hturn hcompleted _ ih =>
    rw [List.cons_append, List.isChain_cons] at hchain
    refine ih hchain.2 ?_ (fun op hop => hids op (List.mem_cons_of_mem _ hop))
      (fun op hop => hmode op (List.mem_cons_of_mem _ hop))
      (fun op hop => hspare op (List.mem_cons_of_mem _ hop))
    intro next hnext source hsource
    obtain ⟨hcopies, rfl, hne⟩ := hchain.1 next hnext source hsource
    have hid : op.id ∈ ids :=
      hids next (List.mem_cons_of_mem _ (List.mem_of_mem_head? hnext)) _ hsource
    have hready : ∀ source, op.copyFrom = some source →
        op.Copies source ∧ source ∈ ids ∧ s.results.get? source = some true := by
      intro source hcopy
      obtain ⟨hcopies, htrue⟩ := hhead op rfl source hcopy
      exact ⟨hcopies, hids op List.mem_cons_self source hcopy, htrue⟩
    exact ⟨hcopies, endsAmong_execute_succeeds (hmode op List.mem_cons_self) (hplain _ hid) hne hid
      (hspare op List.mem_cons_self hid) hready _ _ _ hturn hcompleted⟩

/-- When all operations before the last one have completed turns, and the last one is a command or a
copy step that does not break off, the success handler of the reference is followed behind it.  The
ids that copy steps copy are plain, and nobody else records anything under them. -/
theorem follows_onSuccess_of_component {n : Nat} {front : List Operation} {final : Operation}
    {mid last : Store} {events : List Event} {result : Except Error Signal}
    (huses : ref.uses.isEmpty = false)
    (hexpand : expandOne registry (expandWithin registry n) ref = .ok (front ++ [final]))
    (hcomponents : ∀ op, Inlined registry ref.uses op → op.copyFrom = none)
    (hhandler : ref.onSuccess.isEmpty = false)
    (htarget : r.handlers.get? ref.onSuccess = some target)
    (hplain : ∀ id ∈ copied (front ++ [final]), Template.hasTemplate id = false)
    (hmode : ∀ op ∈ front, op.mode ≠ .background)
    (hspare : ∀ op ∈ front, op.id ∈ copied (front ++ [final]) →
      HandlersSpare r room (copied (front ++ [final])) op)
    (hfront : Turns Completed (SameAt (copied (front ++ [final]))) r room front s mid)
    (hturn : Moves (SameAt (copied (front ++ [final]))) (r.execute (room + 1) final) mid events
      (.done result) last)
    (hfinal : (final.RunsCommand ∧ ∃ raw, commandOutput? final events = some (.ok raw)) ∨
      ∃ source, final.copyFrom = some source)
    (hends : ¬ BreaksOff final room events) :
    Follows (SameAt (copied (front ++ [final]))) r room target final events result := by
  have hmoved := Expansion.onSuccess_of_expandOne hexpand huses hhandler
  rw [← hmoved] at hhandler htarget
  rcases hfinal with ⟨hruns, raw, hraw⟩ | ⟨source, hsource⟩
  · exact endsAmong_execute_of_success hruns hhandler htarget _ _ _ hturn raw hraw hends
  · have horder := Expansion.copiesInOrder_of_expandOne hexpand huses hcomponents
    have hhead : HeadReady (front ++ [final]) s := by
      intro op hop source hcopy
      rw [horder.head op hop] at hcopy
      cases hcopy
    have hready := hfront.copied_succeeded horder.chain hhead (fun op hop _ => mem_copied hop)
      hplain hmode hspare
    obtain ⟨hcopies, htrue⟩ := hready final rfl source hsource
    exact endsAmong_execute_of_copy hcopies (mem_copied (by simp) hsource) htrue hhandler htarget
      _ _ _ hturn hends

/-- A loop at the end of a component. -/
def rebuildLoop : Operation where
  controlFlow := some (.counted "1" "i" false false)
  operations := [{ id := "compile", command := "make" }]

/-- A component that ends in a command, and one that ends in a loop. -/
def assembly : Registry :=
  Registry.registerAll {} [
    { id := "build", operations := [{ id := "compile", command := "make" }] },
    { id := "rebuild", operations := [rebuildLoop] }]

/-- What successes of the components are followed by. -/
def announce : Operation :=
  { id := "announce", command := "echo built" }

/-- A reference with a success handler. -/
def artifact : Operation :=
  { id := "artifact", uses := "build", onSuccess := "announce" }

/-- The step that copies the outcome for the reference. -/
def artifactCopy : Operation where
  id := "artifact"
  isSilent := true
  onSuccess := "announce"
  copyFrom := some "compile"

/-- A run in which the handler can be referred to. -/
def announcing : Run :=
  ⟨3, 0, 0, .ofList [("announce", announce)], "", {}⟩

theorem get?_assembly (uses : String) : assembly.get? uses =
    if uses = "rebuild" then some { id := "rebuild", operations := [rebuildLoop] }
    else if uses = "build" then
      some { id := "build", operations := [{ id := "compile", command := "make" }] }
    else none := by
  simp only [assembly, Registry.registerAll, List.foldl, Registry.get?_register]
  rfl

/-- A build is announced behind the step that copies its outcome. -/
theorem follows_onSuccess_of_artifact :
    expandOne assembly (expandWithin assembly 1) artifact =
        .ok ([{ id := "compile", command := "make" }] ++ [artifactCopy]) ∧
      ∃ events result,
        Follows (SameAt ["compile"]) announcing 1 announce artifactCopy events result := by
  have hcondition : Condition.conjoin "" "" = "" := by decide +kernel
  have hexpand : expandOne assembly (expandWithin assembly 1) artifact =
      .ok ([{ id := "compile", command := "make" }] ++ [artifactCopy]) := by
    have hcomponent : assembly.get? artifact.uses =
        some { id := "build", operations := [{ id := "compile", command := "make" }] } := by
      rw [get?_assembly]
      rfl
    rw [Expansion.expandOne_of_single 0 rfl hcomponent rfl rfl rfl]
    simp [artifact, artifactCopy, Operation.guardedBy, hcondition, Operation.endFor,
      Operation.takeFailureHandler, Operation.takeSignals, Operation.copyStep]
  have hcomponents : ∀ op, Inlined assembly artifact.uses op → op.copyFrom = none := by
    refine fun op hop => hop.of_forall (·.copyFrom = none) ?_
    intro uses component hcomponent op hop
    rw [get?_assembly] at hcomponent
    split at hcomponent
    · obtain rfl := Option.some.inj hcomponent
      rw [List.mem_singleton.1 hop, rebuildLoop]
    · split at hcomponent
      · obtain rfl := Option.some.inj hcomponent
        rw [List.mem_singleton.1 hop]
      · cases hcomponent
  have hnone : announcing.handlers.get? "" = none := rfl
  obtain ⟨mid, hfront, hend⟩ : ∃ mid,
      Turns Completed (SameAt ["compile"]) announcing 1 [{ id := "compile", command := "make" }] {}
        mid ∧ ∃ events result last,
          Moves (SameAt ["compile"]) (announcing.execute 2 artifactCopy) mid events (.done result)
            last ∧ ¬ BreaksOff artifactCopy 1 events := by
    refine ⟨_, .cons (.own (.note _ _ _) <| .own (.update _ _ _) <| .own (.update _ _ _) <|
      .own (.report _ _ _) <| .own (.command _ _ _ ⟨.exited 0, "", ""⟩) <| .own (.update _ _ _) <|
      .own (.update _ _ _) <| .own (.note _ _ _) <| .refl _ _)
      ⟨rfl, rfl, fun _ => ⟨"", rfl⟩⟩ (.nil _), ?_⟩
    refine ⟨_, _, _, .own (.note _ _ _) <| .own (.update _ _ _) <| .own (.update _ _ _) <|
      .own (.note _ _ _) <| .own (.update _ _ _) <| .own (.update _ _ _) <| .own (.report _ _ _) <|
      .own (.command _ _ _ ⟨.exited 0, "", ""⟩) <| .own (.update _ _ _) <| .own (.update _ _ _) <|
      .own (.note _ _ _) <| .own (.note _ _ _) <| .refl _ _, fun hbreaks => ?_⟩
    exact hbreaks.isOwn (.noted (.started announce 0)) (by simp)
  obtain ⟨events, result, last, hturn, hends⟩ := hend
  refine ⟨hexpand, events, result, ?_⟩
  have hspare : ∀ op ∈ [({ id := "compile", command := "make" } : Operation)],
      op.id ∈ ["compile"] → HandlersSpare announcing 1 ["compile"] op := by
    intro op hop _ handler hhandler target htarget
    rw [List.mem_singleton.1 hop] at hhandler
    obtain rfl : handler = "" := by simpa using hhandler
    rw [hnone] at htarget
    cases htarget
  exact follows_onSuccess_of_component rfl hexpand hcomponents rfl rfl (by decide) (by decide)
    hspare hfront hturn (.inr ⟨"compile", rfl⟩) hends

/-- A loop at the end of a component takes the success handler, but it does not follow it. -/
theorem exists_not_followed_of_loop :
    ∃ loop, expandOne assembly (expandWithin assembly 2)
        { uses := "rebuild", onSuccess := "announce" } = .ok [loop] ∧
      loop.onSuccess = "announce" ∧
      ∃ events result last, Moves nobody (announcing.execute 3 loop) {} events (.done result) last ∧
        Completed loop events result ∧ ∀ room, .noted (.started announce room) ∉ events := by
  have hcondition : Condition.conjoin "" "" = "" := by decide +kernel
  refine ⟨{ rebuildLoop with onSuccess := "announce" }, ?_, rfl, ?_⟩
  · simp [rebuildLoop, expandOne, expandWithin, Expansion.expandEach, get?_assembly,
      Operation.guardedBy, hcondition, Operation.settle, Operation.endFor,
      Operation.takeFailureHandler, Operation.takeSignals, bind, Except.bind, pure, Except.pure,
      Except.map]
  · refine ⟨_, _, _, .own (.note _ _ _) <| .own (.update _ _ _) <| .own (.update _ _ _) <|
      .own (.update _ _ _) <| .own (.update _ _ _) <| .own (.update _ _ _) <|
      .own (.update _ _ _) <| .own (.note _ _ _) <| .own (.update _ _ _) <|
      .own (.update _ _ _) <| .own (.report _ _ _) <|
      .own (.command _ _ _ ⟨.exited 0, "", ""⟩) <| .own (.update _ _ _) <|
      .own (.update _ _ _) <| .own (.note _ _ _) <| .own (.update _ _ _) <|
      .own (.update _ _ _) <| .own (.note _ _ _) <| .refl _ _, ⟨rfl, rfl, ?_⟩, ?_⟩
    · exact fun hruns => by cases hruns.controlFlow
    · simp [announce]

end RecipeRunner.Run
