import RecipeRunner.Proofs.Run.Among
import RecipeRunner.Run.Operation
/-!
# Outcomes that operations leave alone

An outcome is what the store has under an id: its output and its result.  An operation writes only
under its own id, so operations with other ids leave an outcome alone, and so do the operations
inside them and those that their handlers refer to.

* `Store.SameAt`: the outcomes of some ids are the same.
* `Run.Apart`: operations that do not have the ids, closed under children and handlers.
* `Run.spares_execute`: such operations leave the outcomes of the ids alone.
* `Run.spares_unitStrand`: and so do the background units that are launched for them.
-/

namespace RecipeRunner

/-- The outcomes of `ids` are the same. -/
structure Store.SameAt (ids : List String) (s t : Store) : Prop where
  outputs : ∀ id ∈ ids, t.outputs.get? id = s.outputs.get? id
  results : ∀ id ∈ ids, t.results.get? id = s.results.get? id

instance (ids : List String) : IsPreorder Store (Store.SameAt ids) where
  refl _ := ⟨fun _ _ => rfl, fun _ _ => rfl⟩
  trans _ _ _ h h' := ⟨fun id hid => (h'.outputs id hid).trans (h.outputs id hid),
    fun id hid => (h'.results id hid).trans (h.results id hid)⟩

namespace Store

variable {ids : List String} {id : String}

/-- Of no ids anything may happen to the outcomes. -/
theorem sameAt_nil (s t : Store) : SameAt [] s t :=
  ⟨nofun, nofun⟩

/-- The store with an output under an id, if there is one to put there. -/
def withOutput (s : Store) (id : String) : Option String → Store
  | some output => s.setOutput id output
  | none => s

/-- The store with a result under an id, if there is one to put there. -/
def withResult (s : Store) (id : String) : Option Bool → Store
  | some success => s.setResult id success
  | none => s

theorem SameAt.mono {ids' : List String} {s t : Store} (h : SameAt ids s t) (hids : ids' ⊆ ids) :
    SameAt ids' s t :=
  ⟨fun id hid => h.outputs id (hids hid), fun id hid => h.results id (hids hid)⟩

/-! ## Changes of the store -/

theorem sameAt_of_eq {s t : Store} (houtputs : t.outputs = s.outputs)
    (hresults : t.results = s.results) : SameAt ids s t :=
  ⟨fun _ _ => by rw [houtputs], fun _ _ => by rw [hresults]⟩

theorem sameAt_setOutput (s : Store) (h : id ∉ ids) (output : String) :
    SameAt ids s (s.setOutput id output) := by
  refine ⟨fun other hother => ?_, fun _ _ => rfl⟩
  have hne : other ≠ id := fun heq => h (heq ▸ hother)
  rw [setOutput, Table.get?_set, if_neg hne]

theorem sameAt_setResult (s : Store) (h : id ∉ ids) (success : Bool) :
    SameAt ids s (s.setResult id success) := by
  refine ⟨fun _ _ => rfl, fun other hother => ?_⟩
  have hne : other ≠ id := fun heq => h (heq ▸ hother)
  rw [setResult, Table.get?_set, if_neg hne]

theorem SameAt.setOutput {s t : Store} (h : SameAt ids s t) (id output : String) :
    SameAt ids (s.setOutput id output) (t.setOutput id output) := by
  refine ⟨fun other hother => ?_, h.results⟩
  rw [Store.setOutput, Store.setOutput, Table.get?_set, Table.get?_set, h.outputs other hother]

theorem SameAt.setResult {s t : Store} (h : SameAt ids s t) (id : String) (success : Bool) :
    SameAt ids (s.setResult id success) (t.setResult id success) := by
  refine ⟨h.outputs, fun other hother => ?_⟩
  rw [Store.setResult, Store.setResult, Table.get?_set, Table.get?_set, h.results other hother]

theorem copyOutcome_eq (s : Store) (source target : String) : s.copyOutcome source target =
    (s.withOutput target (s.outputs.get? source)).withResult target (s.results.get? source) := by
  unfold copyOutcome
  cases s.outputs.get? source with
  | none =>
    dsimp only
    cases s.results.get? source <;> rfl
  | some output =>
    have hresults : (s.setOutput target output).results = s.results := rfl
    dsimp only
    rw [hresults]
    cases s.results.get? source <;> rfl

theorem SameAt.copyOutcome {s t : Store} {source : String} (h : SameAt ids s t)
    (hsource : source ∈ ids) (id : String) :
    SameAt ids (s.copyOutcome source id) (t.copyOutcome source id) := by
  rw [copyOutcome_eq, copyOutcome_eq, h.outputs source hsource, h.results source hsource]
  have houtput : SameAt ids (s.withOutput id (s.outputs.get? source))
      (t.withOutput id (s.outputs.get? source)) := by
    cases s.outputs.get? source with
    | none => exact h
    | some output => exact h.setOutput id output
  cases s.results.get? source with
  | none => exact houtput
  | some success => exact houtput.setResult id success

theorem sameAt_copyOutcome (s : Store) (source : String) (h : id ∉ ids) :
    SameAt ids s (s.copyOutcome source id) := by
  rw [copyOutcome_eq]
  have houtput : SameAt ids s (s.withOutput id (s.outputs.get? source)) := by
    cases s.outputs.get? source with
    | none => exact refl s
    | some output => exact sameAt_setOutput s h output
  cases s.results.get? source with
  | none => exact houtput
  | some success => exact IsTrans.trans _ _ _ houtput (sameAt_setResult _ h success)

theorem sameAt_publishOutcome (s : Store) (h : id ∉ ids) (outcome : Except String String) :
    SameAt ids s (s.publishOutcome id outcome) := by
  cases outcome with
  | ok output =>
    exact IsTrans.trans _ _ _ (sameAt_setOutput s h output) (sameAt_setResult _ h true)
  | error error =>
    have hresult := IsTrans.trans _ _ _ (sameAt_setOutput s h "")
      (sameAt_setResult (s.setOutput id "") h false)
    exact ⟨hresult.outputs, hresult.results⟩

end Store

namespace Strand

variable {α : Type}

/-- No step of the strand changes the outcomes of `ids`. -/
def Spares (ids : List String) (s : Strand α) : Prop :=
  s.Does (fun _ => True) (Store.SameAt ids)

end Strand

namespace Run

open Store (SameAt)
open Strand (Spares)

variable {E : Event → Prop} {ids : List String} {id : String} {α : Type}

/-! ## Parts of operations -/

theorem does_store : Strand.store.Does E (SameAt ids) :=
  ⟨fun s => refl s, fun _ => trivial⟩

/-- An evaluation only uses up random numbers. -/
theorem does_drawn : Strand.drawn.Does E (SameAt ids) :=
  ⟨fun _ => Store.sameAt_of_eq rfl rfl, fun _ => trivial⟩

theorem does_render (template : String) : (render template).Does E (SameAt ids) :=
  Strand.does_bind does_drawn fun _ => Strand.does_ofExcept _

theorem does_holds (condition : String) : (holds condition).Does E (SameAt ids) :=
  Strand.does_bind does_drawn fun _ => Strand.does_ofExcept _

theorem does_idOf (op : Operation) : (idOf op).Does E (SameAt ids) := by
  unfold idOf
  split
  · exact Strand.does_bind (does_render _) fun _ => Strand.does_pure _
  · exact Strand.does_pure _

theorem does_setVar (name : String) (value : Value) : (setVar name value).Does E (SameAt ids) :=
  Strand.does_modify fun _ => Store.sameAt_of_eq rfl rfl

theorem does_setResult (h : id ∉ ids) (success : Bool) :
    (setResult id success).Does E (SameAt ids) := by
  unfold setResult
  split
  · exact Strand.does_pure ()
  · exact Strand.does_modify fun s => s.sameAt_setResult h success

theorem does_emit (r : Run) (hE : ∀ text, E (.reported text)) (text : String) :
    (r.emit text).Does E (SameAt ids) :=
  Strand.does_bind does_store fun _ => Strand.does_write (hE _)

theorem does_transformed (op : Operation) (raw : String) :
    (transformed op raw).Does E (SameAt ids) := by
  unfold transformed
  split
  · exact Strand.does_pure raw
  · exact Strand.does_bind does_drawn fun _ => Strand.does_ofExcept _

theorem does_publishOutput (r : Run) (hE : ∀ text, E (.reported text)) (h : id ∉ ids)
    (op : Operation) (raw : String) : (r.publishOutput op id raw).Does E (SameAt ids) := by
  have hemit : ∀ output : String, Strand.Does E (SameAt ids)
      (if !op.isSilent && !output.isEmpty && !op.mode.isAttached then r.emit output
        else pure ()) := by
    intro output
    split
    · exact does_emit r hE output
    · exact Strand.does_pure ()
  unfold publishOutput
  refine Strand.does_bind (does_transformed op raw) fun text => ?_
  dsimp only
  split
  · exact Strand.does_bind (Strand.does_modify fun s => s.sameAt_setOutput h _) fun _ =>
      Strand.does_bind (Strand.does_modify fun s => s.sameAt_setResult h _) fun _ => hemit _
  · exact hemit _

theorem does_askAll (hE : ∀ spec answer, E (.asked spec answer)) (specs : List PromptSpec) :
    (askAll specs).Does E (SameAt ids) := by
  induction specs with
  | nil => exact Strand.does_pure false
  | cons spec rest ih =>
    have hmessage : (messageOf spec).Does E (SameAt ids) := by
      unfold messageOf
      split
      · exact does_render _
      · exact Strand.does_pure _
    have hone : (askOne spec).Does E (SameAt ids) := by
      refine Strand.does_bind hmessage fun message =>
        Strand.does_bind (fun answer => ⟨hE _ _, Strand.does_ofExcept _⟩) fun answer => ?_
      cases answer with
      | exit => exact Strand.does_pure true
      | value v => exact Strand.does_bind (does_setVar _ v) fun _ => Strand.does_pure false
    refine Strand.does_bind hone fun stops => ?_
    split
    · exact Strand.does_pure true
    · exact ih

theorem spares_startUnit (h : id ∉ ids) (op : Operation) (command : String) (room : Nat) :
    (startUnit op id command room).Spares ids := by
  unfold startUnit
  split
  · exact Strand.does_fail _
  · refine Strand.does_bind ⟨fun _ => Store.sameAt_of_eq rfl rfl, fun _ => trivial⟩ fun run =>
      Strand.does_bind (Strand.does_modify fun s => ?_) fun _ =>
      Strand.does_bind (Strand.does_modify fun _ => Store.sameAt_of_eq rfl rfl) fun _ =>
      ⟨trivial, trivial⟩
    exact IsTrans.trans _ _ _ (s.sameAt_setOutput h _) (Store.sameAt_setResult _ h _)

/-! ## Loops -/

theorem spares_inLoop {kind : String} {depth : Nat} {names : List String} {body : Strand α}
    (h : body.Spares ids) : (inLoop kind depth names body).Spares ids :=
  Strand.does_bind ⟨fun _ => Store.sameAt_of_eq rfl rfl, fun _ => trivial⟩ fun _ =>
    Strand.does_bind ⟨fun s => refl s, fun _ => trivial⟩ fun _ =>
    Strand.does_always h <|
    Strand.does_bind (Strand.does_modify fun _ => Store.sameAt_of_eq rfl rfl) fun _ =>
    Strand.does_modify fun _ => Store.sameAt_of_eq rfl rfl

theorem spares_condensed (r : Run) (on : Bool) {body : Strand α} (h : body.Spares ids) :
    (r.condensed on body).Spares ids := by
  unfold condensed
  split
  · refine Strand.does_bind ⟨fun _ => Store.sameAt_of_eq rfl rfl, fun _ => trivial⟩ fun before =>
      Strand.does_always h <|
      Strand.does_bind (Strand.does_modify fun _ => Store.sameAt_of_eq rfl rfl) fun _ => ?_
    split
    · exact Strand.does_pure ()
    · exact Strand.does_write trivial
  · exact h

theorem spares_orElse {s next : Strand Signal} (h : s.Spares ids) (hnext : next.Spares ids) :
    Spares ids (do
      match ← s with
      | .next => next
      | signal => pure signal) := by
  refine Strand.does_bind h fun signal => ?_
  split
  · exact hnext
  · exact Strand.does_pure _

theorem spares_passes {pass : Nat → Strand Signal} (h : ∀ number, (pass number).Spares ids)
    (left number : Nat) : (passes pass left number).Spares ids := by
  induction left generalizing number with
  | zero => exact Strand.does_pure _
  | succ left ih => exact spares_orElse (h number) (ih _)

theorem spares_passesOver {pass : String → Nat → Strand Signal}
    (h : ∀ item number, (pass item number).Spares ids) (items : List String) (number : Nat) :
    (passesOver pass items number).Spares ids := by
  induction items generalizing number with
  | nil => exact Strand.does_pure _
  | cons item rest ih => exact spares_orElse (h item number) (ih _)

theorem spares_passesWhile {condition : Strand Bool} {otherwise : Strand Signal}
    {pass : Nat → Strand Signal} (hcondition : condition.Spares ids)
    (hotherwise : otherwise.Spares ids) (h : ∀ number, (pass number).Spares ids)
    (left number : Nat) : (passesWhile condition otherwise pass left number).Spares ids := by
  induction left generalizing number with
  | zero =>
    refine Strand.does_bind hcondition fun on => ?_
    split
    · exact hotherwise
    · exact Strand.does_pure _
  | succ left ih =>
    refine Strand.does_bind hcondition fun on => ?_
    split
    · exact spares_orElse (h number) (ih _)
    · exact Strand.does_pure _

theorem spares_numbered {body : Strand Signal} (h : body.Spares ids) (number : Nat) :
    (numbered body number).Spares ids :=
  Strand.does_bind (does_setVar _ _) fun _ => h

theorem spares_repeated (r : Run) (flow : ControlFlow) (depth : Nat) {body : Strand Signal}
    (h : body.Spares ids) : (r.repeated flow depth body).Spares ids := by
  cases flow with
  | counted times name progress bar =>
    simp only [repeated]
    refine Strand.does_bind (does_render times) fun text => ?_
    generalize passCount (Text.trimmed text) = found
    refine Strand.does_bind (Strand.does_ofExcept found) fun count =>
      spares_inLoop (spares_passes (fun number => ?_) count 1)
    refine Strand.does_bind (does_setVar _ _) fun _ =>
      Strand.does_bind (spares_numbered h number) fun signal => ?_
    split
    · exact Strand.does_bind (Strand.does_write trivial) fun _ => Strand.does_pure signal
    · exact Strand.does_pure signal
  | each collection name progress =>
    refine Strand.does_bind (does_render collection) fun text =>
      spares_inLoop (spares_passesOver (fun item number => ?_) _ 1)
    exact Strand.does_bind (does_setVar _ _) fun _ => spares_numbered h number
  | whileHolds condition progress =>
    simp only [repeated]
    split
    · exact spares_inLoop (spares_passesWhile (does_holds _) Strand.does_endless
        (spares_numbered h) _ 1)
    · exact spares_inLoop (spares_passesWhile (does_holds _) (Strand.does_fail _)
        (spares_numbered h) _ 1)

theorem spares_loop (r : Run) (h : id ∉ ids) (flow : ControlFlow) (op : Operation) (depth : Nat)
    {body : Strand Signal} (hbody : body.Spares ids) :
    (r.loop flow op id depth body).Spares ids := by
  refine spares_condensed r _ ?_
  refine Strand.does_bind (spares_repeated r flow depth hbody) fun signal => ?_
  split
  · exact Strand.does_pure _
  · exact Strand.does_bind (does_setResult h true) fun _ => Strand.does_pure _

/-! ## Operations -/

/-- Operations with other ids than `ids`, together with those inside them and those that their
handlers refer to. -/
structure Apart (r : Run) (ids : List String) (P : Operation → Prop) : Prop where
  plain : ∀ op, P op → Template.hasTemplate op.id = false
  notMem : ∀ op, P op → op.id ∉ ids
  inside : ∀ op, P op → ∀ child ∈ op.operations, P child
  success : ∀ op, P op → ∀ target, r.handlers.get? op.onSuccess = some target → P target
  failure : ∀ op, P op → ∀ target, r.handlers.get? op.onFailure = some target → P target

section

variable {r : Run} {execute : Operation → Strand Signal}

theorem spares_follow {handler : String}
    (h : ∀ target, r.handlers.get? handler = some target → (execute target).Spares ids) :
    (r.follow execute handler).Spares ids := by
  unfold follow
  split
  · next target htarget => exact h target htarget
  · exact Strand.does_fail _

theorem spares_handled {op : Operation} {handler : String}
    (h : ∀ target, r.handlers.get? handler = some target → (execute target).Spares ids) :
    (r.handled execute op handler).Spares ids := by
  unfold handled
  split
  · exact Strand.does_pure _
  · exact Strand.does_bind (spares_follow h) fun _ => Strand.does_pure _

variable {P : Operation → Prop} {op : Operation}

theorem spares_failed (happart : r.Apart ids P) (h : ∀ op, P op → (execute op).Spares ids)
    (hop : P op) (hid : id ∉ ids) (failure : Error) :
    (r.failed execute op id failure).Spares ids := by
  unfold failed
  refine Strand.does_bind (does_setResult hid false) fun _ =>
    Strand.does_bind (does_setVar _ _) fun _ => ?_
  split
  · exact spares_handled fun target htarget => h target (happart.failure op hop target htarget)
  · refine Strand.does_bind (Strand.does_write trivial) fun _ =>
      Strand.does_bind (fun _ => ⟨trivial, Strand.does_ofExcept _⟩) fun on => ?_
    split
    · exact Strand.does_pure _
    · exact Strand.does_fail _

theorem spares_copyOutcome (happart : r.Apart ids P) (h : ∀ op, P op → (execute op).Spares ids)
    (hop : P op) (hid : id ∉ ids) (source : String) :
    (r.copyOutcome execute op source id).Spares ids := by
  unfold copyOutcome
  refine Strand.does_bind ⟨fun s => ?_, fun _ => trivial⟩ fun outcome => ?_
  · dsimp only
    split
    · exact refl s
    · exact s.sameAt_copyOutcome source hid
  · split
    · exact spares_handled fun target htarget => h target (happart.success op hop target htarget)
    · exact spares_handled fun target htarget => h target (happart.failure op hop target htarget)
    · exact Strand.does_pure _

theorem spares_command (happart : r.Apart ids P) (h : ∀ op, P op → (execute op).Spares ids)
    (hop : P op) (hid : id ∉ ids) (room : Nat) :
    (r.command execute op id room).Spares ids := by
  unfold command
  refine Strand.does_bind (does_render op.command) fun command =>
    Strand.does_bind (Strand.does_write trivial) fun _ => ?_
  split
  · exact spares_startUnit hid op command room
  · refine Strand.does_bind (fun execution => ⟨trivial, Strand.does_pure _⟩) fun execution => ?_
    split
    · refine Strand.does_bind (does_publishOutput r (fun _ => trivial) hid op _) fun _ => ?_
      exact spares_handled fun target htarget => h target (happart.success op hop target htarget)
    · split
      · exact spares_failed happart h hop hid _
      · exact Strand.does_fail _

theorem spares_inOrder {ops : List Operation} (h : ∀ op ∈ ops, (execute op).Spares ids) :
    (inOrder execute ops).Spares ids := by
  induction ops with
  | nil => exact Strand.does_pure _
  | cons op rest ih =>
    exact spares_orElse (h op List.mem_cons_self)
      (ih fun op hop => h op (List.mem_cons_of_mem _ hop))

theorem spares_perform (happart : r.Apart ids P) (h : ∀ op, P op → (execute op).Spares ids)
    (hop : P op) (hid : id ∉ ids) (room : Nat) :
    (r.perform execute (inOrder execute) op id room).Spares ids := by
  unfold perform
  split
  · exact spares_loop r hid _ op _
      (spares_inOrder fun child hchild => h child (happart.inside op hop child hchild))
  · exact spares_copyOutcome happart h hop hid _
  · split
    · exact Strand.does_bind (does_setResult hid true) fun _ => Strand.does_pure _
    · exact spares_command happart h hop hid room

end

/-- Operations with other ids leave the outcomes of `ids` alone, whatever they come to. -/
theorem spares_execute {r : Run} {P : Operation → Prop} (h : r.Apart ids P) (room : Nat)
    {op : Operation} (hop : P op) : (r.execute room op).Spares ids := by
  induction room generalizing op with
  | zero => exact Strand.does_fail _
  | succ room ih =>
    have hplain : idOf op = pure op.id := by rw [idOf, if_neg (by simp [h.plain op hop])]
    rw [execute, Strand.noted_eq]
    refine ⟨trivial, Strand.does_continueWith ?_ fun result => ⟨trivial, trivial⟩⟩
    rw [hplain, Strand.pure_bind]
    refine Strand.does_bind (does_holds _) fun on => ?_
    split
    · refine Strand.does_bind (does_askAll (fun _ _ => trivial) op.prompts) fun stops => ?_
      split
      · exact Strand.does_pure _
      · exact Strand.does_bind
          (spares_perform h (fun _ => ih) hop (h.notMem op hop) room) fun _ => Strand.does_pure _
    · exact Strand.does_pure _

theorem spares_publish (r : Run) {unit : Launch} (h : unit.id ∉ ids)
    (outcome : Except Error String) : (r.publish unit outcome).Spares ids := by
  unfold publish
  refine Strand.does_bind ⟨fun _ => Store.sameAt_of_eq rfl rfl, fun _ => trivial⟩ fun accepted => ?_
  split
  · refine Strand.does_bind (Strand.does_modify fun s => s.sameAt_publishOutcome h _) fun _ => ?_
    split
    · split
      · exact Strand.does_bind (does_emit r (fun _ => trivial) _) fun _ => Strand.does_pure _
      · exact Strand.does_pure _
    · exact Strand.does_pure _
  · exact Strand.does_pure none

/-- A background unit that was launched under another id leaves the outcomes of `ids` alone, and so
does the handler behind it. -/
theorem spares_unitStrand {r : Run} {P : Operation → Prop} (h : r.Apart ids P) {unit : Launch}
    (hop : P unit.operation) (hid : unit.id ∉ ids) : (r.unitStrand unit).Spares ids := by
  have hfollow : ∀ handler, (∀ target, r.handlers.get? handler = some target → P target) →
      Strand.Spares ids (if handler.isEmpty then pure ()
        else discard (r.follow (r.execute unit.room) handler)) := by
    intro handler htarget
    split
    · exact Strand.does_pure ()
    · exact Strand.does_bind
        (spares_follow fun target hget => spares_execute h unit.room (htarget target hget))
        fun _ => Strand.does_pure ()
  refine Strand.does_always (Strand.does_bind (fun _ => ⟨trivial, Strand.does_pure _⟩)
    fun execution => Strand.does_bind (Strand.does_continueWith
      (Strand.does_bind (Strand.does_ofExcept _) fun raw => does_transformed _ raw)
      (spares_publish r hid)) fun published => ?_)
    (Strand.does_modify fun _ => Store.sameAt_of_eq rfl rfl)
  rcases published with - | success
  · exact Strand.does_pure ()
  · cases success with
    | true => exact hfollow _ (h.success _ hop)
    | false => exact hfollow _ (h.failure _ hop)

end Run

end RecipeRunner
