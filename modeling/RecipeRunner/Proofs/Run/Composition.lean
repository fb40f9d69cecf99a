import RecipeRunner.Run.Operation
/-!
# What operations are put together from

A property of strands that the nodes of a strand have and that passes to strands in a row is a
property of everything that operations are put together from.  What remains to be shown of such a
property is how it passes from what an operation is for to the operation with its notes, that a
launch has it, and, in a run that does not limit its loops, that a loop without end has it.

* `Store.Local`: the changes of the store that neither publish nor launch anything.
* `Strand.Compositional`: the properties that pass to strands in a row.
* `Compositional.perform`: what an operation is for has such a property.
* `Compositional.mainStrand`, `Compositional.unitStrand`: so do the strands of a run, if operations
  have it.
-/

namespace RecipeRunner

namespace Store

/-- No outcome, no task and no count is changed, and keys are only taken. -/
structure Local (s t : Store) : Prop where
  outputs : t.outputs = s.outputs
  results : t.results = s.results
  tasks : t.tasks = s.tasks
  inFlight : t.inFlight = s.inFlight
  nextKey : s.nextKey ≤ t.nextKey

/-- Outcomes may be published under an id. -/
structure Permits (R : Store → Store → Prop) (id : String) : Prop where
  output : ∀ s output, R s (s.setOutput id output)
  result : ∀ s success, R s (s.setResult id success)

end Store

namespace Strand

/-- A property of strands that nodes have, if the changes of the store are as `R` says, and that
passes to strands in a row. -/
structure Compositional (R : Store → Store → Prop) (P : (α : Type) → Strand α → Prop) : Prop where
  aside : ∀ {s t : Store}, s.Local t → R s t
  done : ∀ {α : Type} (result : Except Error α), P α (done result)
  update : ∀ {α : Type} {change : Store → Store} {next : Store → Strand α},
    (∀ s, R s (change s)) → (∀ s, P α (next s)) → P α (update change next)
  call : ∀ {α : Type} {call : Call} {next : Execution → Strand α},
    (∀ execution, P α (next execution)) → P α (command call next)
  prompt : ∀ {α : Type} {spec : PromptSpec} {next : Except Error Answer → Strand α},
    (∀ answer, P α (next answer)) → P α (ask spec next)
  question : ∀ {α : Type} {label failure : String} {next : Except Error Bool → Strand α},
    (∀ reply, P α (next reply)) → P α (confirm label failure next)
  report : ∀ {α : Type} {text : Streams} {next : Strand α}, P α next → P α (report text next)
  row : ∀ {α β : Type} {s : Strand α} {k : Except Error α → Strand β},
    P α s → (∀ result, P β (k result)) → P β (s.continueWith k)

namespace Compositional

variable {R : Store → Store → Prop} {P : (α : Type) → Strand α → Prop} {α β : Type}

section

variable (hP : Compositional R P)

include hP

theorem bind {s : Strand α} {k : α → Strand β} (hs : P α s) (hk : ∀ a, P β (k a)) :
    P β (s >>= k) := by
  refine hP.row hs fun result => ?_
  cases result with
  | ok a => exact hk a
  | error e => exact hP.done _

theorem always {s : Strand α} {cleanup : Strand Unit} (hs : P α s) (hcleanup : P Unit cleanup) :
    P α (s.always cleanup) :=
  hP.row hs fun _ => hP.row hcleanup fun _ => hP.done _

theorem modify {change : Store → Store} (h : ∀ s, R s (change s)) :
    P Unit (Strand.modify change) :=
  hP.update h fun _ => hP.done _

theorem write (text : Streams) : P Unit (Strand.write text) :=
  hP.report (hP.done _)

/-- Looking at the store changes nothing. -/
theorem look {next : Store → Strand α} (h : ∀ s, P α (next s)) : P α (Strand.update id next) :=
  hP.update (fun _ => hP.aside ⟨rfl, rfl, rfl, rfl, Nat.le_refl _⟩) h

theorem store : P Store Strand.store :=
  hP.look fun _ => hP.done _

/-- An evaluation only uses up random numbers. -/
theorem evaluation {result : Store → Except Error α} :
    P α (Strand.drawn >>= fun s => Strand.ofExcept (result s)) :=
  hP.bind (hP.update (fun _ => hP.aside ⟨rfl, rfl, rfl, rfl, Nat.le_refl _⟩) fun _ => hP.done _)
    fun _ => hP.done _

theorem modifyLocal {change : Store → Store} (h : ∀ s : Store, s.Local (change s)) :
    P Unit (Strand.modify change) :=
  hP.modify fun s => hP.aside (h s)

/-! ## Parts of operations -/

theorem render (template : String) : P String (Run.render template) :=
  hP.evaluation

theorem holds (condition : String) : P Bool (Run.holds condition) :=
  hP.evaluation

theorem idOf (op : Operation) : P String (Run.idOf op) := by
  unfold Run.idOf
  split
  · exact hP.bind (hP.render _) fun _ => hP.done _
  · exact hP.done _

theorem setVar (name : String) (value : Value) : P Unit (Run.setVar name value) :=
  hP.modifyLocal fun _ => ⟨rfl, rfl, rfl, rfl, Nat.le_refl _⟩

theorem setResult {id : String} (hid : Store.Permits R id) (success : Bool) :
    P Unit (Run.setResult id success) := by
  unfold Run.setResult
  split
  · exact hP.done _
  · exact hP.modify fun s => hid.result s success

theorem emit (r : Run) (text : String) : P Unit (r.emit text) :=
  hP.bind hP.store fun _ => hP.write _

theorem transformed (op : Operation) (raw : String) : P String (Run.transformed op raw) := by
  unfold Run.transformed
  split
  · exact hP.done _
  · exact hP.evaluation

theorem publishOutput (r : Run) {id : String} (hid : Store.Permits R id) (op : Operation)
    (raw : String) : P Unit (r.publishOutput op id raw) := by
  have hemit : ∀ output : String, P Unit
      (if !op.isSilent && !output.isEmpty && !op.mode.isAttached then r.emit output
        else pure ()) := by
    intro output
    split
    · exact hP.emit r output
    · exact hP.done _
  unfold Run.publishOutput
  refine hP.bind (hP.transformed op raw) fun text => ?_
  dsimp only
  split
  · refine hP.bind (hP.modify fun s => hid.output s _) fun _ => ?_
    exact hP.bind (hP.modify fun s => hid.result s _) fun _ => hemit _
  · exact hemit _

theorem askAll (specs : List PromptSpec) : P Bool (Run.askAll specs) := by
  induction specs with
  | nil => exact hP.done _
  | cons spec rest ih =>
    have hmessage : P String (Run.messageOf spec) := by
      unfold Run.messageOf
      split
      · exact hP.render _
      · exact hP.done _
    have hone : P Bool (Run.askOne spec) := by
      refine hP.bind hmessage fun message => hP.bind (hP.prompt fun _ => hP.done _) fun answer => ?_
      cases answer with
      | exit => exact hP.done _
      | value v => exact hP.bind (hP.setVar _ v) fun _ => hP.done _
    refine hP.bind hone fun stops => ?_
    split
    · exact hP.done _
    · exact ih

/-! ## Loops -/

theorem inLoop {kind : String} {depth : Nat} {names : List String} {body : Strand α}
    (h : P α body) : P α (Run.inLoop kind depth names body) := by
  have hpush : ∀ s : Store, s.Local (s.pushLoop kind depth) :=
    fun _ => ⟨rfl, rfl, rfl, rfl, Nat.le_succ _⟩
  refine hP.bind (hP.update (fun s => hP.aside (hpush s)) fun _ => hP.done _) fun key => ?_
  refine hP.bind (hP.look fun _ => hP.done _) fun values => hP.always h ?_
  refine hP.bind (hP.modifyLocal fun _ => ?_) fun _ => hP.modifyLocal fun _ => ?_
  · exact ⟨rfl, rfl, rfl, rfl, Nat.le_refl _⟩
  · exact ⟨rfl, rfl, rfl, rfl, Nat.le_refl _⟩

theorem condensed (r : Run) (on : Bool) {body : Strand α} (h : P α body) :
    P α (r.condensed on body) := by
  have hprogress : ∀ (on : Bool) (s : Store), s.Local (s.setProgress on) :=
    fun _ _ => ⟨rfl, rfl, rfl, rfl, Nat.le_refl _⟩
  unfold Run.condensed
  split
  · refine hP.bind (hP.update (fun s => hP.aside (hprogress true s)) fun _ => hP.done _)
      fun before => hP.always h (hP.bind (hP.modifyLocal (hprogress before)) fun _ => ?_)
    split
    · exact hP.done _
    · exact hP.write _
  · exact h

/-- A signal to go on is followed by what is next. -/
theorem orElse {s next : Strand Signal} (h : P Signal s) (hnext : P Signal next) :
    P Signal (do
      match ← s with
      | .next => next
      | signal => pure signal) := by
  refine hP.bind h fun signal => ?_
  split
  · exact hnext
  · exact hP.done _

theorem passes {pass : Nat → Strand Signal} (h : ∀ number, P Signal (pass number))
    (left number : Nat) : P Signal (Run.passes pass left number) := by
  induction left generalizing number with
  | zero => exact hP.done _
  | succ left ih => exact hP.orElse (h number) (ih _)

theorem passesOver {pass : String → Nat → Strand Signal}
    (h : ∀ item number, P Signal (pass item number)) (items : List String) (number : Nat) :
    P Signal (Run.passesOver pass items number) := by
  induction items generalizing number with
  | nil => exact hP.done _
  | cons item rest ih => exact hP.orElse (h item number) (ih _)

theorem passesWhile {condition : Strand Bool} {otherwise : Strand Signal}
    {pass : Nat → Strand Signal} (hcondition : P Bool condition) (hotherwise : P Signal otherwise)
    (h : ∀ number, P Signal (pass number)) (left number : Nat) :
    P Signal (Run.passesWhile condition otherwise pass left number) := by
  induction left generalizing number with
  | zero =>
    refine hP.bind hcondition fun on => ?_
    split
    · exact hotherwise
    · exact hP.done _
  | succ left ih =>
    refine hP.bind hcondition fun on => ?_
    split
    · exact hP.orElse (h number) (ih _)
    · exact hP.done _

theorem numbered {body : Strand Signal} (h : P Signal body) (number : Nat) :
    P Signal (Run.numbered body number) :=
  hP.bind (hP.setVar _ _) fun _ => h

/-- Only a run without a limit repeats a loop without end. -/
theorem repeated {r : Run} (hendless : r.maxRepeats = 0 → P Signal endless) (flow : ControlFlow)
    (depth : Nat) {body : Strand Signal} (h : P Signal body) :
    P Signal (r.repeated flow depth body) := by
  cases flow with
  | counted times name progress bar =>
    simp only [Run.repeated]
    refine hP.bind (hP.render times) fun text => hP.bind (hP.done _) fun count =>
      hP.inLoop (hP.passes (fun number => ?_) count 1)
    refine hP.bind (hP.setVar _ _) fun _ => hP.bind (hP.numbered h number) fun signal => ?_
    split
    · exact hP.bind (hP.write _) fun _ => hP.done _
    · exact hP.done _
  | each collection name progress =>
    refine hP.bind (hP.render collection) fun text =>
      hP.inLoop (hP.passesOver (fun item number => ?_) _ 1)
    exact hP.bind (hP.setVar _ _) fun _ => hP.numbered h number
  | whileHolds condition progress =>
    simp only [Run.repeated]
    split
    · next hunlimited =>
      exact hP.inLoop (hP.passesWhile (hP.holds _) (hendless hunlimited) (hP.numbered h) _ 1)
    · exact hP.inLoop (hP.passesWhile (hP.holds _) (hP.done _) (hP.numbered h) _ 1)

theorem loop {r : Run} (hendless : r.maxRepeats = 0 → P Signal endless) {id : String}
    (hid : Store.Permits R id) (flow : ControlFlow) (op : Operation) (depth : Nat)
    {body : Strand Signal} (h : P Signal body) : P Signal (r.loop flow op id depth body) := by
  refine hP.condensed r _ (hP.bind (hP.repeated hendless flow depth h) fun signal => ?_)
  split
  · exact hP.done _
  · exact hP.bind (hP.setResult hid true) fun _ => hP.done _

/-! ## Operations -/

section

variable {r : Run} {execute : Operation → Strand Signal}
  (hhandler : ∀ {handler op}, r.handlers.get? handler = some op → P Signal (execute op))

include hhandler

theorem follow (handler : String) : P Signal (r.follow execute handler) := by
  unfold Run.follow
  split
  · next hop => exact hhandler hop
  · exact hP.done _

theorem handled (op : Operation) (handler : String) : P Signal (r.handled execute op handler) := by
  unfold Run.handled
  split
  · exact hP.done _
  · exact hP.bind (hP.follow hhandler handler) fun _ => hP.done _

theorem failed {id : String} (hid : Store.Permits R id) (op : Operation) (failure : Error) :
    P Signal (r.failed execute op id failure) := by
  unfold Run.failed
  refine hP.bind (hP.setResult hid false) fun _ => hP.bind (hP.setVar _ _) fun _ => ?_
  split
  · exact hP.handled hhandler op _
  · refine hP.bind (hP.write _) fun _ => hP.bind (hP.question fun _ => hP.done _) fun on => ?_
    split
    · exact hP.done _
    · exact hP.done _

theorem copyOutcome {source id : String} (hcopy : ∀ s : Store, R s (s.copyOutcome source id))
    (op : Operation) : P Signal (r.copyOutcome execute op source id) := by
  unfold Run.copyOutcome
  refine hP.bind (hP.update (fun s => ?_) fun _ => hP.done _) fun outcome => ?_
  · split
    · exact hP.aside ⟨rfl, rfl, rfl, rfl, Nat.le_refl _⟩
    · exact hcopy s
  · split
    · exact hP.handled hhandler op _
    · exact hP.handled hhandler op _
    · exact hP.done _

theorem command {op : Operation} {id : String} {room : Nat} (hid : Store.Permits R id)
    (hstart : ∀ command, P Signal (Run.startUnit op id command room)) :
    P Signal (r.command execute op id room) := by
  unfold Run.command
  refine hP.bind (hP.render op.command) fun command => hP.bind (hP.write _) fun _ => ?_
  split
  · exact hstart command
  · refine hP.bind (hP.call fun _ => hP.done _) fun execution => ?_
    split
    · exact hP.bind (hP.publishOutput r hid op _) fun _ => hP.handled hhandler op _
    · split
      · exact hP.failed hhandler hid op _
      · exact hP.done _

omit hhandler in
theorem inOrder {ops : List Operation} (h : ∀ op ∈ ops, P Signal (execute op)) :
    P Signal (Run.inOrder execute ops) := by
  induction ops with
  | nil => exact hP.done _
  | cons op rest ih =>
    obtain ⟨hop, hrest⟩ := List.forall_mem_cons.1 h
    exact hP.orElse hop (ih hrest)

/-- An operation runs what is inside it and what handlers refer to. -/
theorem perform (hendless : r.maxRepeats = 0 → P Signal endless) {op : Operation} {id : String}
    {room : Nat} (hinside : ∀ child ∈ op.operations, P Signal (execute child))
    (hid : Store.Permits R id)
    (hcopy : ∀ source, op.copyFrom = some source → ∀ s : Store, R s (s.copyOutcome source id))
    (hstart : ∀ command, P Signal (Run.startUnit op id command room)) :
    P Signal (r.perform execute (Run.inOrder execute) op id room) := by
  unfold Run.perform
  split
  · exact hP.loop hendless hid _ op _ (hP.inOrder hinside)
  · next source _ hsource => exact hP.copyOutcome hhandler (hcopy source hsource) op
  · split
    · exact hP.bind (hP.setResult hid true) fun _ => hP.done _
    · exact hP.command hhandler hid hstart

end

/-- What an operation does once its condition holds. -/
theorem engaged {r : Run} {execute : Operation → Strand Signal} {op : Operation} {id : String}
    {room : Nat} (hperform : P Signal (r.perform execute (Run.inOrder execute) op id room)) :
    P (Option Signal) (do
      if ← Run.askAll op.prompts then pure (some .exit)
      else some <$> r.perform execute (Run.inOrder execute) op id room) := by
  refine hP.bind (hP.askAll op.prompts) fun stops => ?_
  split
  · exact hP.done _
  · exact hP.bind hperform fun _ => hP.done _

end

/-! ## Strands of a run -/

section

variable {r : Run} (hP : Compositional R P)

include hP

theorem execute (h : ∀ room op, (∀ op, P Signal (r.execute room op)) →
    P Signal (r.execute (room + 1) op)) (room : Nat) (op : Operation) :
    P Signal (r.execute room op) := by
  induction room generalizing op with
  | zero => exact hP.done _
  | succ room ih => exact h room op ih

theorem startUnit {id : String} (op : Operation) (command : String) (room : Nat)
    (hrecord : ∀ s : Store, R s (s.recordLaunch id command))
    (hpending : ∀ s : Store, R s (s.publishPending id)) (hbegin : ∀ s : Store, R s s.beginUnit)
    (hlaunch : ∀ u : Launch, u.id = id → ∀ signal, P Signal (.launch u (.done signal))) :
    P Signal (Run.startUnit op id command room) := by
  unfold Run.startUnit
  split
  · exact hP.done _
  · refine hP.bind (hP.update hrecord fun _ => hP.done _) fun run => ?_
    refine hP.bind (hP.modify hpending) fun _ => hP.bind (hP.modify hbegin) fun _ => ?_
    exact hlaunch _ rfl _

theorem recipeStrand {ops : List Operation}
    (h : ∀ op ∈ ops, P Signal (r.execute (r.maxDepth + 1) op)) : P Bool (r.recipeStrand ops) := by
  induction ops with
  | nil => exact hP.done _
  | cons op rest ih =>
    obtain ⟨hop, hrest⟩ := List.forall_mem_cons.1 h
    refine hP.bind hop fun signal => ?_
    split
    · exact hP.done _
    · exact ih hrest

theorem mainStrand (hawait : ∀ {s : Strand Bool}, P Bool s → P Bool (.await s))
    {ops : List Operation} (h : ∀ op ∈ ops, P Signal (r.execute (r.maxDepth + 1) op)) :
    P Bool (r.mainStrand ops) :=
  hP.row (hP.recipeStrand h) fun _ => hawait (hP.done _)

theorem unitStrand (u : Launch)
    (hhandler : ∀ {handler op}, r.handlers.get? handler = some op →
      P Signal (r.execute u.room op))
    (hrecord : ∀ (s : Store) told, R s (s.recordOutcome u.id u.run told))
    (hpublish : ∀ (s : Store) told, R s (s.publishOutcome u.id told))
    (hend : ∀ s : Store, R s s.endUnit) : P Unit (r.unitStrand u) := by
  have hfollow : ∀ handler : String, P Unit
      (if handler.isEmpty then pure () else discard (r.follow (r.execute u.room) handler)) := by
    intro handler
    split
    · exact hP.done _
    · exact hP.bind (hP.follow hhandler handler) fun _ => hP.done _
  have hpublished : ∀ outcome, P (Option Bool) (r.publish u outcome) := by
    intro outcome
    refine hP.bind (hP.update (hrecord · _) fun _ => hP.done _) fun accepted => ?_
    split
    · refine hP.bind (hP.modify (hpublish · _)) fun _ => ?_
      split
      · split
        · exact hP.bind (hP.emit r _) fun _ => hP.done _
        · exact hP.done _
      · exact hP.done _
    · exact hP.done _
  refine hP.always (hP.bind (hP.call fun _ => hP.done _) fun execution => ?_) (hP.modify hend)
  refine hP.bind (hP.row (hP.bind (hP.done _) fun raw => hP.transformed _ raw) hpublished)
    fun published => ?_
  rcases published with _ | success
  · exact hP.done _
  · exact hfollow _

end

end Compositional

end Strand

end RecipeRunner
