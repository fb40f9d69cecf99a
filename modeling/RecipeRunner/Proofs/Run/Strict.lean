import RecipeRunner.Proofs.Condition.Faults
import RecipeRunner.Proofs.Run.Occurrences
import RecipeRunner.Proofs.Run.Unwinding
/-!
# Errors in what operations are put together from

Strands in a row stop at the first error, apart from what is cleaned up behind a loop.  A property
that only has to pass to strands in a row in this way may be about errors.  It is a property of
everything that operations are put together from, but for commands, what is asked behind their
failures, and launches.

* `Strand.Strict`: the properties that pass to strands in a row up to an error.
* `Strict.perform`: what an operation is for has such a property, if commands, refusals and launches
  have it.
* `Strict.recipeStrand`, `Strict.mainStrand`: so have the strands of a run, if operations have it.
-/

namespace RecipeRunner.Strand

/-- A property of strands that nodes have and that passes to strands in a row up to an error, which
is none of a command. -/
structure Strict (P : (α : Type) → Strand α → Prop) : Prop where
  done : ∀ {α : Type} {result : Except Error α}, Innocent result → P α (done result)
  endless : ∀ {α : Type}, P α endless
  update : ∀ {α : Type} {change : Store → Store} {next : Store → Strand α},
    (∀ s, P α (next s)) → P α (update change next)
  prompt : ∀ spec, P Answer (ask spec ofExcept)
  report : ∀ {α : Type} {text : Streams} {next : Strand α}, P α next → P α (report text next)
  bind : ∀ {α β : Type} {s : Strand α} {k : α → Strand β},
    P α s → (∀ a, P β (k a)) → P β (s >>= k)
  always : ∀ {α : Type} {s : Strand α} {cleanup : Strand Unit},
    P α s → cleanup.Unwinds (fun _ => True) [] → P α (s.always cleanup)

namespace Strict

variable {P : (α : Type) → Strand α → Prop} {α : Type}

section

variable (hP : Strict P)

include hP

theorem pure (a : α) : P α (pure a) :=
  hP.done (innocent_ok a)

theorem fail {e : Error} (h : e.isCommandFailure = false) : P α (fail e) :=
  hP.done (innocent_error h)

theorem modify (change : Store → Store) : P Unit (Strand.modify change) :=
  hP.update fun _ => hP.pure _

theorem write (text : Streams) : P Unit (Strand.write text) :=
  hP.report (hP.pure _)

/-! ## Parts of operations -/

theorem render (template : String) : P String (Run.render template) :=
  hP.update fun s => hP.done (Template.innocent_render s.bindings template)

theorem holds (condition : String) : P Bool (Run.holds condition) :=
  hP.update fun s => hP.done (Condition.innocent_evaluate s.scope condition)

theorem idOf (op : Operation) : P String (Run.idOf op) := by
  unfold Run.idOf
  split
  · exact hP.bind (hP.render _) fun _ => hP.pure _
  · exact hP.pure _

theorem setResult (id : String) (success : Bool) : P Unit (Run.setResult id success) := by
  unfold Run.setResult
  split
  · exact hP.pure _
  · exact hP.modify _

theorem transformed (op : Operation) (raw : String) : P String (Run.transformed op raw) := by
  unfold Run.transformed
  split
  · exact hP.pure _
  · exact hP.update fun s => hP.done (Template.innocent_render _ _)

theorem publishOutput (r : Run) (op : Operation) (id raw : String) :
    P Unit (r.publishOutput op id raw) := by
  have hemit : ∀ output : String, P Unit
      (if !op.isSilent && !output.isEmpty && !op.mode.isAttached then r.emit output
        else Pure.pure ()) := by
    intro output
    split
    · exact hP.update fun _ => hP.write _
    · exact hP.pure _
  unfold Run.publishOutput
  refine hP.bind (hP.transformed op raw) fun text => ?_
  dsimp only
  split
  · exact hP.bind (hP.modify _) fun _ => hP.bind (hP.modify _) fun _ => hemit _
  · exact hemit _

theorem askAll (specs : List PromptSpec) : P Bool (Run.askAll specs) := by
  induction specs with
  | nil => exact hP.pure _
  | cons spec rest ih =>
    have hmessage : P String (Run.messageOf spec) := by
      unfold Run.messageOf
      split
      · exact hP.render _
      · exact hP.pure _
    have hone : P Bool (Run.askOne spec) := by
      refine hP.bind hmessage fun message => hP.bind (hP.prompt _) fun answer => ?_
      cases answer with
      | exit => exact hP.pure _
      | value v => exact hP.bind (hP.modify _) fun _ => hP.pure _
    refine hP.bind hone fun stops => ?_
    split
    · exact hP.pure _
    · exact ih

/-! ## Loops -/

theorem inLoop {kind : String} {depth : Nat} {names : List String} {body : Strand α}
    (h : P α body) : P α (Run.inLoop kind depth names body) :=
  hP.bind (hP.update fun _ => hP.pure _) fun _ => hP.bind (hP.update fun _ => hP.pure _) fun _ =>
    hP.always h fun _ _ => unwinds_pure trivial

theorem condensed (r : Run) (on : Bool) {body : Strand α} (h : P α body) :
    P α (r.condensed on body) := by
  unfold Run.condensed
  split
  · refine hP.bind (hP.update fun _ => hP.pure _) fun before => hP.always h fun _ => ?_
    cases before with
    | true => exact unwinds_pure trivial
    | false => exact unwinds_pure trivial
  · exact h

/-- A signal to go on is followed by what is next. -/
theorem orElse {s next : Strand Signal} (h : P Signal s) (hnext : P Signal next) :
    P Signal (do
      match ← s with
      | .next => next
      | signal => Pure.pure signal) := by
  refine hP.bind h fun signal => ?_
  split
  · exact hnext
  · exact hP.pure _

theorem passes {pass : Nat → Strand Signal} (h : ∀ number, P Signal (pass number))
    (left number : Nat) : P Signal (Run.passes pass left number) := by
  induction left generalizing number with
  | zero => exact hP.pure _
  | succ left ih => exact hP.orElse (h number) (ih _)

theorem passesOver {pass : String → Nat → Strand Signal}
    (h : ∀ item number, P Signal (pass item number)) (items : List String) (number : Nat) :
    P Signal (Run.passesOver pass items number) := by
  induction items generalizing number with
  | nil => exact hP.pure _
  | cons item rest ih => exact hP.orElse (h item number) (ih _)

theorem passesWhile {otherwise : Strand Signal} {pass : Nat → Strand Signal}
    (hotherwise : P Signal otherwise) (h : ∀ number, P Signal (pass number)) (condition : String)
    (left number : Nat) :
    P Signal (Run.passesWhile (Run.holds condition) otherwise pass left number) := by
  induction left generalizing number with
  | zero =>
    refine hP.bind (hP.holds condition) fun on => ?_
    split
    · exact hotherwise
    · exact hP.pure _
  | succ left ih =>
    refine hP.bind (hP.holds condition) fun on => ?_
    split
    · exact hP.orElse (h number) (ih _)
    · exact hP.pure _

theorem numbered {body : Strand Signal} (h : P Signal body) (number : Nat) :
    P Signal (Run.numbered body number) :=
  hP.bind (hP.modify _) fun _ => h

theorem repeated (r : Run) (flow : ControlFlow) (depth : Nat) {body : Strand Signal}
    (h : P Signal body) : P Signal (r.repeated flow depth body) := by
  cases flow with
  | counted times name progress bar =>
    have hcount : ∀ text, Innocent (Run.passCount text) := by
      intro text
      unfold Run.passCount
      split
      · exact innocent_ok _
      · exact innocent_error rfl
    refine hP.bind (hP.render times) fun text => hP.bind (hP.done (hcount _)) fun count =>
      hP.inLoop (hP.passes (fun number => ?_) count 1)
    refine hP.bind (hP.modify _) fun _ => hP.bind (hP.numbered h number) fun signal => ?_
    split
    · exact hP.bind (hP.write _) fun _ => hP.pure _
    · exact hP.pure _
  | each collection name progress =>
    refine hP.bind (hP.render collection) fun text =>
      hP.inLoop (hP.passesOver (fun item number => ?_) _ 1)
    exact hP.bind (hP.modify _) fun _ => hP.numbered h number
  | whileHolds condition progress =>
    simp only [Run.repeated]
    split
    · exact hP.inLoop (hP.passesWhile hP.endless (hP.numbered h) ..)
    · exact hP.inLoop (hP.passesWhile (hP.fail rfl) (hP.numbered h) ..)

theorem loop (r : Run) (flow : ControlFlow) (op : Operation) (id : String) (depth : Nat)
    {body : Strand Signal} (h : P Signal body) : P Signal (r.loop flow op id depth body) := by
  refine hP.condensed r _ (hP.bind (hP.repeated r flow depth h) fun signal => ?_)
  split
  · exact hP.pure _
  · exact hP.bind (hP.setResult id true) fun _ => hP.pure _

/-! ## Operations -/

theorem startUnit (hlaunch : ∀ unit (signal : Signal), P Signal (.launch unit (Pure.pure signal)))
    (op : Operation) (id command : String) (room : Nat) :
    P Signal (Run.startUnit op id command room) := by
  unfold Run.startUnit
  split
  · exact hP.fail rfl
  · exact hP.bind (hP.update fun _ => hP.pure _) fun _ => hP.bind (hP.modify _) fun _ =>
      hP.bind (hP.modify _) fun _ => hlaunch _ _

variable {r : Run} {execute : Operation → Strand Signal} (h : ∀ op, P Signal (execute op))

include h

theorem handled (op : Operation) (handler : String) : P Signal (r.handled execute op handler) := by
  unfold Run.handled
  split
  · exact hP.pure _
  · refine hP.bind ?_ fun _ => hP.pure _
    unfold Run.follow
    split
    · exact h _
    · exact hP.fail rfl

theorem copyOutcome (op : Operation) (source id : String) :
    P Signal (r.copyOutcome execute op source id) := by
  unfold Run.copyOutcome
  refine hP.bind (hP.update fun _ => hP.pure _) fun outcome => ?_
  split
  · exact hP.handled h op _
  · exact hP.handled h op _
  · exact hP.pure _

theorem succeeded (op : Operation) (id raw : String) :
    P Signal (r.succeeded execute op id raw) :=
  hP.bind (hP.publishOutput r op id raw) fun _ => hP.handled h op _

theorem inOrder (ops : List Operation) : P Signal (Run.inOrder execute ops) := by
  induction ops with
  | nil => exact hP.pure _
  | cons op rest ih => exact hP.orElse (h op) ih

section

variable (hcall : ∀ call, P Execution (.command call Pure.pure))
  (hgoesOn : ∀ label failure (signal : Signal), P Signal (do
    if ← Run.goesOn label failure then Pure.pure signal else Strand.fail .userAborted))
  (hlaunch : ∀ unit (signal : Signal), P Signal (.launch unit (Pure.pure signal)))

include hgoesOn

theorem failed (op : Operation) (id : String) (failure : Error) :
    P Signal (r.failed execute op id failure) := by
  unfold Run.failed
  refine hP.bind (hP.setResult id false) fun _ => hP.bind (hP.modify _) fun _ => ?_
  split
  · exact hP.handled h op _
  · exact hP.bind (hP.write _) fun _ => hgoesOn _ _ _

include hcall hlaunch

theorem command (op : Operation) (id : String) (room : Nat) :
    P Signal (r.command execute op id room) := by
  unfold Run.command
  refine hP.bind (hP.render op.command) fun command => hP.bind (hP.write _) fun _ => ?_
  split
  · exact hP.startUnit hlaunch op id command room
  · refine hP.bind (hcall _) fun execution => ?_
    split
    · exact hP.succeeded h op id _
    · split
      · exact hP.failed h hgoesOn op id _
      · next hother => exact hP.fail (Bool.not_eq_true _ ▸ hother)

theorem perform (op : Operation) (id : String) (room : Nat) :
    P Signal (r.perform execute (Run.inOrder execute) op id room) := by
  unfold Run.perform
  split
  · exact hP.loop r _ op id _ (hP.inOrder h _)
  · exact hP.copyOutcome h op _ id
  · split
    · exact hP.bind (hP.setResult id true) fun _ => hP.pure _
    · exact hP.command h hcall hgoesOn hlaunch op id room

end

end

/-! ## Strands of a run -/

section

variable {r : Run} (hP : Strict P)

include hP

theorem body {room : Nat} {op : Operation}
    (hperform : ∀ id, P Signal
      (r.perform (r.execute room) (Run.inOrder (r.execute room)) op id room)) :
    P (Option Signal) (r.body room op) := by
  refine hP.bind (hP.idOf op) fun id => hP.bind (hP.holds _) fun on => ?_
  split
  · refine hP.bind (hP.askAll op.prompts) fun stops => ?_
    split
    · exact hP.pure _
    · exact hP.bind (hperform id) fun _ => hP.pure _
  · exact hP.pure _

theorem recipeStrand (h : ∀ op, P Signal (r.execute (r.maxDepth + 1) op)) (ops : List Operation) :
    P Bool (r.recipeStrand ops) := by
  induction ops with
  | nil => exact hP.pure _
  | cons op rest ih =>
    refine hP.bind (h op) fun signal => ?_
    split
    · exact hP.pure _
    · exact ih

theorem mainStrand (h : ∀ op, P Signal (r.execute (r.maxDepth + 1) op)) (ops : List Operation) :
    P Bool (r.mainStrand ops) :=
  hP.always (hP.recipeStrand h ops) (unwinds_pure trivial)

end

end Strict

end RecipeRunner.Strand
