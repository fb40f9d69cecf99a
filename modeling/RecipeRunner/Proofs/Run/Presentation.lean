import RecipeRunner.Proofs.Recipe.Presentation
import RecipeRunner.Proofs.Run.Alike
/-!
# Operations that differ in their presentation

Operations that differ only in their presentation do alike, on any two consoles, unless one of them
runs in the background.

* `Operation.Foreground`: no operation in a tree runs in the background.
* `Run.alike_execute`: operations that differ only in their presentation do alike.
* `Run.alike_mainStrand`: and so do runs of such operations.
-/

namespace RecipeRunner

namespace Operation

/-- Neither the operation nor one of those inside it runs in the background. -/
def Foreground (op : Operation) : Prop :=
  ∀ inner ∈ op.preorder, inner.mode ≠ .background

theorem foreground_of_preorderIn {ops : List Operation}
    (h : ∀ op ∈ preorderIn ops, op.mode ≠ .background) {op : Operation}
    (hop : op ∈ preorderIn ops) : op.Foreground :=
  fun inner hinner => h inner (preorder_subset_preorderIn ops hop hinner)

theorem foreground_of_plainAll_eq {ops ops' : List Operation} (h : plainAll ops' = plainAll ops)
    (hforeground : ∀ op ∈ preorderIn ops, op.mode ≠ .background) :
    ∀ op ∈ preorderIn ops', op.mode ≠ .background := by
  intro op' hop'
  have hmem : op'.plain ∈ (preorderIn ops).map plain := by
    rw [← preorderIn_plainAll, ← h, preorderIn_plainAll]
    exact List.mem_map_of_mem hop'
  obtain ⟨op, hop, hplain⟩ := List.mem_map.1 hmem
  rw [(plain_eq_iff.1 hplain.symm).mode]
  exact hforeground op hop

theorem Foreground.mode_ne {op : Operation} (h : op.Foreground) : op.mode ≠ .background := by
  have hmem : op ∈ op.preorder := by
    rw [preorder_eq]
    exact List.mem_cons_self
  exact h op hmem

theorem Foreground.of_mem_operations {op : Operation} (h : op.Foreground) :
    ∀ child ∈ op.operations, child.Foreground := by
  intro child hchild
  have hinside : child ∈ preorderIn op.operations := mem_preorderIn_of_mem hchild
  refine foreground_of_preorderIn (fun inner hinner => h inner ?_) hinside
  rw [preorder_eq]
  exact List.mem_cons_of_mem op hinner

end Operation

theorem Store.copyOutcome_setProgress (s : Store) (on : Bool) (source target : String) :
    (s.setProgress on).copyOutcome source target =
      (s.copyOutcome source target).setProgress on := by
  have houtputs : (s.setProgress on).outputs = s.outputs := rfl
  have hresults : (s.setProgress on).results = s.results := rfl
  unfold copyOutcome
  rw [houtputs]
  cases s.outputs.get? source with
  | none =>
    dsimp only
    rw [hresults]
    cases s.results.get? source <;> rfl
  | some output =>
    have hresults' : (s.setOutput target output).results = s.results := rfl
    have hresults'' : ((s.setProgress on).setOutput target output).results = s.results := rfl
    dsimp only
    rw [hresults', hresults'']
    cases s.results.get? source <;> rfl

namespace Run

open Operation (plain plainAll plain_eq_iff)
open Strand (Alike Silent)

/-- Runs that differ only in how they report and in the presentation of what handlers refer to,
which is never run in the background. -/
structure SameAct (r r' : Run) : Prop where
  maxDepth : r'.maxDepth = r.maxDepth
  maxRepeats : r'.maxRepeats = r.maxRepeats
  patience : r'.patience = r.patience
  input : r'.input = r.input
  handlers : ∀ name, (r'.handlers.get? name).map plain = (r.handlers.get? name).map plain
  foreground : ∀ name op, r.handlers.get? name = some op → op.Foreground

/-! ## What does alike by itself -/

theorem alike_render (template : String) : Alike (render template) (render template) :=
  .update (fun _ _ => rfl) fun _ _ => .done _

theorem alike_holds (condition : String) : Alike (holds condition) (holds condition) :=
  .update (fun _ _ => rfl) fun _ _ => .done _

theorem alike_modify {change : Store → Store}
    (h : ∀ s on, change (s.setProgress on) = (change s).setProgress on) :
    Alike (Strand.modify change) (Strand.modify change) :=
  .update h fun _ _ => .done _

theorem alike_setVar (name : String) (value : Value) :
    Alike (setVar name value) (setVar name value) :=
  alike_modify fun _ _ => rfl

theorem alike_setResult (id : String) (success : Bool) :
    Alike (setResult id success) (setResult id success) := by
  unfold setResult
  split
  · exact .done _
  · exact alike_modify fun _ _ => rfl

theorem alike_keepAnswer (spec : PromptSpec) (answer : Answer) :
    Alike (keepAnswer spec answer) (keepAnswer spec answer) := by
  cases answer with
  | exit => exact .done _
  | value v => exact (alike_setVar _ _).bind fun _ => .done _

theorem alike_askOne (spec : PromptSpec) : Alike (askOne spec) (askOne spec) := by
  have hmessage : Alike (messageOf spec) (messageOf spec) := by
    unfold messageOf
    split
    · exact alike_render _
    · exact .done _
  have hask : ∀ spec, Alike (Strand.ask spec Strand.ofExcept) (Strand.ask spec Strand.ofExcept) :=
    fun spec => .ask spec fun _ => .done _
  exact hmessage.bind fun _ => (hask _).bind (alike_keepAnswer spec)

theorem alike_askAll (specs : List PromptSpec) : Alike (askAll specs) (askAll specs) := by
  induction specs with
  | nil => exact .done _
  | cons spec rest ih =>
    refine (alike_askOne spec).bind fun stops => ?_
    cases stops with
    | true => exact .done _
    | false => exact ih

theorem alike_goesOn (label failure : String) :
    Alike (goesOn label failure) (goesOn label failure) :=
  .confirm label failure fun _ => .done _

theorem silent_emit (r : Run) (text : String) : Silent (r.emit text) :=
  .update Store.Alike.refl fun _ => .report _ .done

/-! ## Loops -/

theorem alike_inLoop {α : Type} {body body' : Strand α} (h : Alike body body') (kind : String)
    (depth : Nat) (names : List String) :
    Alike (inLoop kind depth names body) (inLoop kind depth names body') := by
  have hkey : Alike (Strand.update (·.pushLoop kind depth) fun s => pure s.nextKey)
      (Strand.update (·.pushLoop kind depth) fun s => pure s.nextKey) :=
    .update (fun _ _ => rfl) fun _ _ => .done _
  have hvalues : Alike (Strand.update id fun s => pure (s.saved names))
      (Strand.update id fun s => pure (s.saved names)) :=
    .update (fun _ _ => rfl) fun _ _ => .done _
  refine hkey.bind fun key => hvalues.bind fun values => h.continueWith fun result => ?_
  exact .update (fun _ _ => rfl) fun _ _ => .update (fun _ _ => rfl) fun _ _ => .done result

/-- To condense its output makes no difference to what a strand does. -/
theorem alike_condensed_left {α : Type} {body body' : Strand α} (h : Alike body body') (r : Run)
    (on : Bool) : Alike (r.condensed on body) body' := by
  unfold condensed
  split
  · refine .updateLeft (fun s => ⟨true, rfl⟩) fun s => ?_
    have hend : Silent (do
        Strand.modify (·.setProgress s.progress)
        if s.progress then pure () else Strand.write r.console.endCondensed) := by
      refine .update (fun t => ⟨s.progress, rfl⟩) fun _ => ?_
      split
      · exact .done
      · exact Strand.silent_write _
    rw [← Strand.continueWith_done body']
    exact h.continueWith fun result => hend.alike_left (.done result)
  · exact h

theorem alike_condensed {α : Type} {body body' : Strand α} (h : Alike body body') (r r' : Run)
    (on on' : Bool) : Alike (r.condensed on body) (r'.condensed on' body') :=
  (alike_condensed_left (alike_condensed_left h r on).symm r' on').symm

/-- Where a strand signals, the strand ends with that signal; otherwise it goes on. -/
theorem alike_orElse {s t next next' : Strand Signal} (h : Alike s t) (hnext : Alike next next') :
    Alike (do match ← s with | .next => next | signal => pure signal)
      (do match ← t with | .next => next' | signal => pure signal) := by
  refine h.bind fun signal => ?_
  cases signal with
  | next => exact hnext
  | stop => exact .done _
  | exit => exact .done _

theorem alike_passes {pass pass' : Nat → Strand Signal} (h : ∀ number, Alike (pass number)
    (pass' number)) (left number : Nat) : Alike (passes pass left number)
      (passes pass' left number) := by
  induction left generalizing number with
  | zero => exact .done _
  | succ left ih => exact alike_orElse (h number) (ih _)

theorem alike_passesOver {pass pass' : String → Nat → Strand Signal}
    (h : ∀ item number, Alike (pass item number) (pass' item number)) (items : List String)
    (number : Nat) : Alike (passesOver pass items number) (passesOver pass' items number) := by
  induction items generalizing number with
  | nil => exact .done _
  | cons item rest ih => exact alike_orElse (h item number) (ih _)

theorem alike_passesWhile {otherwise : Strand Signal} {pass pass' : Nat → Strand Signal}
    (hotherwise : Alike otherwise otherwise) (h : ∀ number, Alike (pass number) (pass' number))
    (condition : String) (left number : Nat) :
    Alike (passesWhile (holds condition) otherwise pass left number)
      (passesWhile (holds condition) otherwise pass' left number) := by
  induction left generalizing number with
  | zero =>
    refine (alike_holds condition).bind fun holds => ?_
    cases holds with
    | true => exact hotherwise
    | false => exact .done _
  | succ left ih =>
    refine (alike_holds condition).bind fun holds => ?_
    cases holds with
    | true => exact alike_orElse (h number) (ih _)
    | false => exact .done _

variable {r r' : Run} {body body' : Strand Signal}

theorem alike_numbered (h : Alike body body') (number : Nat) :
    Alike (numbered body number) (numbered body' number) :=
  (alike_setVar _ _).bind fun _ => h

theorem alike_repeated (hr : r.SameAct r') {flow flow' : ControlFlow}
    (hflow : flow'.plain = flow.plain) (depth : Nat) (h : Alike body body') :
    Alike (r.repeated flow depth body) (r'.repeated flow' depth body') := by
  cases flow with
  | counted times name progress bar =>
    cases flow' with
    | counted times' name' progress' bar' =>
      obtain ⟨rfl, rfl, -, -⟩ := ControlFlow.counted.inj hflow
      refine (alike_render _).bind fun text => ?_
      refine Alike.bind (.done _) fun count => alike_inLoop (alike_passes (fun number => ?_) _ _) ..
      refine (alike_setVar _ _).bind fun _ => (alike_numbered h number).bind fun signal => ?_
      dsimp only
      cases bar with
      | false =>
        cases bar' with
        | false => exact .done _
        | true => exact .reportRight _ (.done _)
      | true =>
        cases bar' with
        | false => exact .reportLeft _ (.done _)
        | true => exact .reportLeft _ (.reportRight _ (.done _))
    | _ => cases hflow
  | each collection name progress =>
    cases flow' with
    | each collection' name' progress' =>
      obtain ⟨rfl, rfl, -⟩ := ControlFlow.each.inj hflow
      refine (alike_render _).bind fun text => alike_inLoop ?_ ..
      refine alike_passesOver (fun item number => ?_) _ _
      exact (alike_setVar _ _).bind fun _ => alike_numbered h number
    | _ => cases hflow
  | whileHolds condition progress =>
    cases flow' with
    | whileHolds condition' progress' =>
      obtain ⟨rfl, -⟩ := ControlFlow.whileHolds.inj hflow
      unfold repeated
      rw [hr.maxRepeats, hr.patience]
      by_cases hzero : r.maxRepeats = 0
      · simp only [if_pos hzero]
        exact alike_inLoop (alike_passesWhile .endless (alike_numbered h) ..) ..
      · simp only [if_neg hzero]
        exact alike_inLoop (alike_passesWhile (.done _) (alike_numbered h) ..) ..
    | _ => cases hflow

/-! ## Operations -/

variable {op op' : Operation}

theorem ofOperation_eq (h : Operation.SameAct op op') :
    Signal.ofOperation op' = Signal.ofOperation op := by
  rw [Signal.ofOperation, Signal.ofOperation, h.exitsRecipe, h.breaksLoop]

theorem label_eq (h : Operation.SameAct op op') : op'.label = op.label := by
  rw [Operation.label, Operation.label, h.name, h.id, h.command]

theorem alike_loop (hr : r.SameAct r') (hop : Operation.SameAct op op') {flow flow' : ControlFlow}
    (hflow : flow'.plain = flow.plain) (id : String) (depth : Nat) (h : Alike body body') :
    Alike (r.loop flow op id depth body) (r'.loop flow' op' id depth body') := by
  refine alike_condensed ?_ ..
  refine (alike_repeated hr hflow depth h).bind fun signal => ?_
  have hresult : Alike
      (setResult id true >>= fun _ => pure (Signal.ofOperation op))
      (setResult id true >>= fun _ => pure (Signal.ofOperation op')) := by
    rw [ofOperation_eq hop]
    exact (alike_setResult id true).bind fun _ => .done _
  cases signal with
  | exit => exact .done _
  | next => exact hresult
  | stop => exact hresult

/-- Whether and how its output is written makes no difference to what an operation publishes. -/
theorem alike_publishOutput (r r' : Run) (hop : Operation.SameAct op op') (id raw : String) :
    Alike (r.publishOutput op id raw) (r'.publishOutput op' id raw) := by
  have htransformed : Alike (transformed op raw) (transformed op' raw) := by
    unfold transformed
    rw [hop.transform]
    split
    · exact .done _
    · exact .update (fun _ _ => rfl) fun _ _ => .done _
  have hemit : ∀ (r : Run) (op : Operation) (output : String), Silent
      (if !op.isSilent && !output.isEmpty && !op.mode.isAttached then r.emit output
        else pure ()) := by
    intro r op output
    split
    · exact silent_emit r output
    · exact .done
  unfold publishOutput
  refine htransformed.bind fun text => ?_
  dsimp only
  split
  · refine (alike_modify fun _ _ => rfl).bind fun _ => ?_
    refine (alike_modify fun _ _ => rfl).bind fun _ => ?_
    exact (hemit r op _).alike (hemit r' op' _)
  · exact (hemit r op _).alike (hemit r' op' _)

section

variable {execute execute' : Operation → Strand Signal} (hr : r.SameAct r')
  (h : ∀ {op op' : Operation}, op'.plain = op.plain → op.Foreground →
    Alike (execute op) (execute' op'))

include hr h

theorem alike_handled (hop : Operation.SameAct op op') (handler : String) :
    Alike (r.handled execute op handler) (r'.handled execute' op' handler) := by
  unfold handled
  split
  · rw [ofOperation_eq hop]
    exact .done _
  · rw [ofOperation_eq hop]
    refine Alike.bind ?_ fun _ => .done _
    have hhandler := hr.handlers handler
    unfold follow
    cases hfound : r.handlers.get? handler with
    | none =>
      rw [hfound, Option.map_none, Option.map_eq_none_iff] at hhandler
      rw [hhandler]
      exact .done _
    | some target =>
      rw [hfound] at hhandler
      obtain ⟨target', hfound', htarget⟩ := Option.map_eq_some_iff.1 hhandler
      rw [hfound']
      exact h htarget (hr.foreground handler target hfound)

theorem alike_succeeded (hop : Operation.SameAct op op') (id raw : String) :
    Alike (r.succeeded execute op id raw) (r'.succeeded execute' op' id raw) := by
  unfold succeeded
  rw [hop.onSuccess]
  exact (alike_publishOutput r r' hop id raw).bind fun _ => alike_handled hr h hop _

theorem alike_failed (hop : Operation.SameAct op op') (id : String) (failure : Error) :
    Alike (r.failed execute op id failure) (r'.failed execute' op' id failure) := by
  unfold failed
  refine (alike_setResult id false).bind fun _ => (alike_setVar _ _).bind fun _ => ?_
  rw [hop.onFailure, label_eq hop, ofOperation_eq hop]
  split
  · exact alike_handled hr h hop _
  · refine ((Strand.silent_write _).alike (Strand.silent_write _)).bind fun _ => ?_
    refine (alike_goesOn _ _).bind fun goesOn => ?_
    cases goesOn <;> exact .done _

theorem alike_copyOutcome (hop : Operation.SameAct op op') (source id : String) :
    Alike (r.copyOutcome execute op source id) (r'.copyOutcome execute' op' source id) := by
  unfold copyOutcome
  rw [hop.onSuccess, hop.onFailure, ofOperation_eq hop]
  have houtcome : Alike
      (Strand.update (fun s => if id.isEmpty then s else s.copyOutcome source id)
        fun s => pure (s.results.get? source))
      (Strand.update (fun s => if id.isEmpty then s else s.copyOutcome source id)
        fun s => pure (s.results.get? source)) := by
    refine .update (fun s on => ?_) fun _ _ => .done _
    split
    · rfl
    · exact Store.copyOutcome_setProgress s on source id
  refine houtcome.bind fun outcome => ?_
  match outcome with
  | some true => exact alike_handled hr h hop _
  | some false => exact alike_handled hr h hop _
  | none => exact .done _

theorem alike_command (hop : Operation.SameAct op op') (hmode : op.mode ≠ .background)
    (id : String) (room : Nat) :
    Alike (r.command execute op id room) (r'.command execute' op' id room) := by
  unfold command
  rw [hop.command, hop.mode, hop.format, hr.input]
  refine (alike_render _).bind fun command => ?_
  refine ((Strand.silent_write _).alike (Strand.silent_write _)).bind fun _ => ?_
  rw [if_neg hmode, if_neg hmode]
  refine Alike.bind (.command _ fun _ => .done _) fun execution => ?_
  split
  · exact alike_succeeded hr h hop _ _
  · split
    · exact alike_failed hr h hop _ _
    · exact .done _

omit hr in
theorem alike_inOrder {ops ops' : List Operation} (hops : plainAll ops' = plainAll ops)
    (hforeground : ∀ op ∈ ops, op.Foreground) :
    Alike (inOrder execute ops) (inOrder execute' ops') := by
  induction ops generalizing ops' with
  | nil =>
    cases ops' with
    | nil => exact .done _
    | cons op' ops' => cases hops
  | cons op ops ih =>
    cases ops' with
    | nil => cases hops
    | cons op' ops' =>
      obtain ⟨hop, hrest⟩ := List.cons.inj hops
      have hall := List.forall_mem_cons.1 hforeground
      exact alike_orElse (h hop hall.1) (ih hrest hall.2)

theorem alike_perform (hop : op'.plain = op.plain) (hforeground : op.Foreground) (id : String)
    (room : Nat) : Alike (r.perform execute (inOrder execute) op id room)
      (r'.perform execute' (inOrder execute') op' id room) := by
  have hsame := plain_eq_iff.1 hop
  have hflow := hsame.controlFlow
  unfold perform
  rw [hsame.copyFrom, hsame.command, hr.maxDepth]
  cases hcontrol : op.controlFlow with
  | some flow =>
    rw [hcontrol] at hflow
    obtain ⟨flow', hcontrol', hplain⟩ := Option.map_eq_some_iff.1 hflow
    rw [hcontrol']
    exact alike_loop hr hsame hplain _ _
      (alike_inOrder h hsame.operations hforeground.of_mem_operations)
  | none =>
    rw [hcontrol, Option.map_none, Option.map_eq_none_iff] at hflow
    rw [hflow]
    cases op.copyFrom with
    | some source => exact alike_copyOutcome hr h hsame source id
    | none =>
      dsimp only
      split
      · rw [ofOperation_eq hsame]
        exact (alike_setResult id true).bind fun _ => .done _
      · exact alike_command hr h hsame hforeground.mode_ne id room

end

theorem alike_idOf (h : Operation.SameAct op op') : Alike (idOf op) (idOf op') := by
  unfold idOf
  rw [h.id]
  split
  · exact (alike_render _).continueWith fun result => by
      cases result <;> exact .done _
  · exact .done _

theorem alike_noted {body body' : Strand (Option Signal)} (h : Alike body body')
    (op op' : Operation) (room : Nat) :
    Alike (Strand.noted op room body) (Strand.noted op' room body') := by
  refine .note _ _ (h.continueWith fun result => ?_)
  match result with
  | .ok none => exact .note _ _ (.done _)
  | .ok (some signal) => exact .note _ _ (.done _)
  | .error e => exact .note _ _ (.done _)

/-- Operations that differ only in their presentation do alike, and so do all those inside them
and all those that their handlers refer to. -/
theorem alike_execute (hr : r.SameAct r') (room : Nat) (hop : op'.plain = op.plain)
    (hforeground : op.Foreground) : Alike (r.execute room op) (r'.execute room op') := by
  induction room generalizing op op' with
  | zero =>
    rw [execute, execute, hr.maxDepth]
    exact .done _
  | succ room ih =>
    have hsame := plain_eq_iff.1 hop
    have hperform : ∀ id, Alike
        (r.perform (r.execute room) (inOrder (r.execute room)) op id room)
        (r'.perform (r'.execute room) (inOrder (r'.execute room)) op' id room) :=
      fun id => alike_perform hr ih hop hforeground id room
    refine alike_noted ?_ ..
    rw [hsame.condition, hsame.prompts]
    refine (alike_idOf hsame).bind fun id => (alike_holds _).bind fun holds => ?_
    cases holds with
    | false => exact .done _
    | true =>
      refine (alike_askAll _).bind fun stops => ?_
      cases stops with
      | true => exact .done _
      | false =>
        exact (hperform id).bind fun _ => .done _

theorem alike_recipeStrand (hr : r.SameAct r') {ops ops' : List Operation}
    (hops : plainAll ops' = plainAll ops) (hforeground : ∀ op ∈ ops, op.Foreground) :
    Alike (r.recipeStrand ops) (r'.recipeStrand ops') := by
  induction ops generalizing ops' with
  | nil =>
    cases ops' with
    | nil => exact .done _
    | cons op' ops' => cases hops
  | cons op ops ih =>
    cases ops' with
    | nil => cases hops
    | cons op' ops' =>
      obtain ⟨hop, hrest⟩ := List.cons.inj hops
      have hall := List.forall_mem_cons.1 hforeground
      unfold recipeStrand
      rw [hr.maxDepth]
      refine (alike_execute hr _ hop hall.1).bind fun signal => ?_
      cases signal with
      | exit => exact .done _
      | next => exact ih hrest hall.2
      | stop => exact ih hrest hall.2

theorem alike_mainStrand (hr : r.SameAct r') {ops ops' : List Operation}
    (hops : plainAll ops' = plainAll ops) (hforeground : ∀ op ∈ ops, op.Foreground) :
    Alike (r.mainStrand ops) (r'.mainStrand ops') :=
  (alike_recipeStrand hr hops hforeground).continueWith fun _ => .await (.done _)

end Run

end RecipeRunner
