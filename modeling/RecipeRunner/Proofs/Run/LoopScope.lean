import RecipeRunner.Proofs.Run.Parts
/-!
# The scope of loops

What a loop binds and pushes is undone when it ends, in whatever way it ends.  No operation changes
the stack of loops or the condensing of output for good: each pops what it pushed, so a loop finds
its own entry on top again when its body has ended, and the values that it saved are put back over
those that its body left.

* `execute_keepsLoops`: an operation leaves the stack of loops and the condensing as they were.
* `loop_restores`: a loop leaves these and the variables that it binds as they were.
-/

namespace RecipeRunner

/-- The variables that a loop binds. -/
def ControlFlow.boundNames : ControlFlow → List String
  | counted _ name _ _ => [name, Run.passName]
  | each _ name _ => [name, Run.passName]
  | whileHolds _ _ => [Run.passName]

namespace Store

theorem get?_restoreVars_of_notMem {values : List (String × Option Value)} {name : String}
    (h : name ∉ values.map Prod.fst) (t : Store) :
    (t.restoreVars values).vars.get? name = t.vars.get? name := by
  induction values generalizing t with
  | nil => rfl
  | cons entry rest ih =>
    obtain ⟨other, value⟩ := entry
    simp only [List.map_cons, List.mem_cons, not_or] at h
    have hrest := ih h.2 { t with vars := t.vars.restore other value }
    rw [show (t.restoreVars ((other, value) :: rest)) =
      ({ t with vars := t.vars.restore other value } : Store).restoreVars rest from rfl, hrest,
      Table.get?_restore, if_neg h.1]

/-- Names that were saved get back the values that they had then. -/
theorem get?_restoreVars_saved (s t : Store) {names : List String} {name : String}
    (h : name ∈ names) : (t.restoreVars (s.saved names)).vars.get? name = s.vars.get? name := by
  induction names generalizing t with
  | nil => exact absurd h List.not_mem_nil
  | cons other rest ih =>
    rw [show t.restoreVars (s.saved (other :: rest)) =
      ({ t with vars := t.vars.restore other (s.vars.get? other) } : Store).restoreVars
        (s.saved rest) from rfl]
    by_cases hrest : name ∈ rest
    · exact ih _ hrest
    · have hname : name = other := (List.mem_cons.1 h).resolve_right hrest
      have hsaved : (s.saved rest).map Prod.fst = rest := by
        rw [saved, List.map_map]
        exact List.map_id' rest
      rw [get?_restoreVars_of_notMem (by rwa [hsaved]), Table.get?_restore, if_pos hname, hname]

/-- What was pushed is popped again, and what was saved is put back. -/
theorem kept_popLoop_restoreVars (s : Store) (kind : String) (depth : Nat) {names : List String}
    {t : Store} (h : Kept [] (s.pushLoop kind depth) t) :
    Kept names s ((t.restoreVars ((s.pushLoop kind depth).saved names)).popLoop s.nextKey) := by
  refine ⟨?_, h.progress, fun name hname => ?_⟩
  · change t.loops.eraseP (·.key = s.nextKey) = s.loops
    rw [h.loops]
    exact List.eraseP_cons_of_pos (by simp)
  · exact get?_restoreVars_saved (s.pushLoop kind depth) t hname

end Store

namespace Run

open Store (Kept)
open Strand (Keeps)

variable {α : Type} {names : List String}

/-! ## Loops -/

/-- Everything that a loop does to the stack of loops and to its variables is undone at its end,
if its body keeps the stack. -/
theorem keeps_inLoop {kind : String} {depth : Nat} {body : Strand α} (h : Keeps (Kept []) body) :
    Keeps (Kept names) (inLoop kind depth names body) := by
  intro s
  simp only [inLoop, Strand.modify, Strand.ends_bind, Strand.ends_always, Strand.ends_update,
    Strand.ends_pure]
  exact (h _).mono fun _ _ _ hbody => s.kept_popLoop_restoreVars kind depth hbody

theorem keeps_condensed (r : Run) (on : Bool) {body : Strand α} (h : Keeps (Kept names) body) :
    Keeps (Kept names) (r.condensed on body) := by
  unfold condensed
  cases on with
  | false => exact h
  | true =>
    intro s
    simp only [if_true, Strand.modify, Strand.ends_bind, Strand.ends_always, Strand.ends_update,
      Strand.ends_pure]
    refine (h _).mono fun _ _ t hbody => ?_
    have hlast : Kept names s (t.setProgress s.progress) :=
      ⟨hbody.loops, rfl, hbody.vars⟩
    split
    · exact (Strand.ends_pure _).2 hlast
    · exact (Strand.ends_report _ _).2 ((Strand.ends_pure _).2 hlast)

/-- Passes and operations go on only behind a signal to go on. -/
theorem keeps_orElse {s next : Strand Signal} (h : Keeps (Kept names) s)
    (hnext : Keeps (Kept names) next) :
    Keeps (Kept names) (do
      match ← s with
      | .next => next
      | signal => pure signal) := by
  refine Strand.keeps_bind h fun signal => ?_
  cases signal with
  | next => exact hnext
  | stop => exact Strand.keeps_pure _
  | exit => exact Strand.keeps_pure _

theorem keeps_passes {pass : Nat → Strand Signal} (h : ∀ number, Keeps (Kept names) (pass number))
    (left number : Nat) : Keeps (Kept names) (passes pass left number) := by
  induction left generalizing number with
  | zero => exact Strand.keeps_pure _
  | succ left ih => exact keeps_orElse (h number) (ih _)

theorem keeps_passesOver {pass : String → Nat → Strand Signal}
    (h : ∀ item number, Keeps (Kept names) (pass item number)) (items : List String)
    (number : Nat) : Keeps (Kept names) (passesOver pass items number) := by
  induction items generalizing number with
  | nil => exact Strand.keeps_pure _
  | cons item rest ih => exact keeps_orElse (h item number) (ih _)

theorem keeps_passesWhile {condition : Strand Bool} {otherwise : Strand Signal}
    {pass : Nat → Strand Signal} (hcondition : Keeps (Kept names) condition)
    (hotherwise : Keeps (Kept names) otherwise)
    (h : ∀ number, Keeps (Kept names) (pass number)) (left number : Nat) :
    Keeps (Kept names) (passesWhile condition otherwise pass left number) := by
  induction left generalizing number with
  | zero =>
    refine Strand.keeps_bind hcondition fun on => ?_
    cases on with
    | true => exact hotherwise
    | false => exact Strand.keeps_pure _
  | succ left ih =>
    refine Strand.keeps_bind hcondition fun on => ?_
    cases on with
    | false => exact Strand.keeps_pure _
    | true => exact keeps_orElse (h number) (ih _)

theorem keeps_numbered {body : Strand Signal} (h : Keeps (Kept []) body) (number : Nat) :
    Keeps (Kept []) (numbered body number) :=
  Strand.keeps_bind (plain_setVar _ _).keeps fun _ => h

theorem keeps_repeated (r : Run) (flow : ControlFlow) (depth : Nat) {body : Strand Signal}
    (h : Keeps (Kept []) body) : Keeps (Kept flow.boundNames) (r.repeated flow depth body) := by
  cases flow with
  | counted times name progress bar =>
    simp only [repeated]
    refine Strand.keeps_bind (plain_render times).keeps fun text =>
      Strand.keeps_bind (Strand.plain_ofExcept _).keeps fun count =>
      keeps_inLoop (keeps_passes (fun number => ?_) count 1)
    refine Strand.keeps_bind (plain_setVar _ _).keeps fun _ =>
      Strand.keeps_bind (keeps_numbered h number) fun signal => ?_
    split
    · exact Strand.keeps_bind (plain_write _).keeps fun _ => Strand.keeps_pure signal
    · exact Strand.keeps_pure signal
  | each collection name progress =>
    simp only [repeated]
    refine Strand.keeps_bind (plain_render collection).keeps fun text =>
      keeps_inLoop (keeps_passesOver (fun item number => ?_) _ 1)
    exact Strand.keeps_bind (plain_setVar _ _).keeps fun _ => keeps_numbered h number
  | whileHolds condition progress =>
    simp only [repeated]
    split
    · exact keeps_inLoop (keeps_passesWhile (plain_holds _).keeps Strand.keeps_endless
        (keeps_numbered h) _ 1)
    · exact keeps_inLoop (keeps_passesWhile (plain_holds _).keeps (Strand.keeps_fail _)
        (keeps_numbered h) _ 1)

/-- A loop keeps the stack of loops and the values of the variables that it binds, if its body
keeps the stack. -/
theorem keeps_loop (r : Run) (flow : ControlFlow) (op : Operation) (id : String) (depth : Nat)
    {body : Strand Signal} (h : Keeps (Kept []) body) :
    Keeps (Kept flow.boundNames) (r.loop flow op id depth body) := by
  refine keeps_condensed r _ (Strand.keeps_bind (keeps_repeated r flow depth h) fun signal => ?_)
  have hown : Keeps (Kept flow.boundNames)
      (setResult id true >>= fun _ => pure (Signal.ofOperation op)) :=
    Strand.keeps_bind (plain_setResult id true).keeps fun _ => Strand.keeps_pure _
  cases signal with
  | exit => exact Strand.keeps_pure _
  | next => exact hown
  | stop => exact hown

/-! ## Operations -/

theorem keeps_askAll (specs : List PromptSpec) : Keeps (Kept []) (askAll specs) := by
  induction specs with
  | nil => exact Strand.keeps_pure false
  | cons spec rest ih =>
    have hone : Keeps (Kept []) (askOne spec) :=
      Strand.keeps_bind (plain_messageOf spec).keeps fun message =>
        Strand.keeps_bind (Strand.keeps_ask fun _ => Strand.keeps_done _)
          fun answer => (plain_keepAnswer spec answer).keeps
    refine Strand.keeps_bind hone fun stops => ?_
    cases stops with
    | true => exact Strand.keeps_pure true
    | false => exact ih

section

variable {r : Run} {execute : Operation → Strand Signal}

theorem keeps_handled (h : ∀ op, Keeps (Kept []) (execute op)) (op : Operation)
    (handler : String) : Keeps (Kept []) (r.handled execute op handler) := by
  unfold handled
  split
  · exact Strand.keeps_pure _
  · refine Strand.keeps_bind ?_ fun _ => Strand.keeps_pure _
    unfold follow
    split
    · exact h _
    · exact Strand.keeps_fail _

theorem keeps_failed (h : ∀ op, Keeps (Kept []) (execute op)) (op : Operation)
    (id : String) (failure : Error) : Keeps (Kept []) (r.failed execute op id failure) := by
  unfold failed
  refine Strand.keeps_bind (plain_setResult id false).keeps fun _ =>
    Strand.keeps_bind (plain_setVar _ _).keeps fun _ => ?_
  split
  · exact keeps_handled h op _
  · refine Strand.keeps_bind (plain_write _).keeps fun _ =>
      Strand.keeps_bind (plain_goesOn _ _).keeps fun on => ?_
    split
    · exact Strand.keeps_pure _
    · exact Strand.keeps_fail _

theorem keeps_copyOutcome (h : ∀ op, Keeps (Kept []) (execute op)) (op : Operation)
    (source id : String) : Keeps (Kept []) (r.copyOutcome execute op source id) := by
  refine Strand.keeps_bind (Strand.keeps_update (fun s => ?_) fun _ => Strand.keeps_pure _)
    fun outcome => ?_
  · split
    · exact refl s
    · exact s.kept_copyOutcome source id
  · cases outcome with
    | none => exact Strand.keeps_pure _
    | some success =>
      cases success with
      | true => exact keeps_handled h op _
      | false => exact keeps_handled h op _

theorem keeps_command (h : ∀ op, Keeps (Kept []) (execute op)) (op : Operation)
    (id : String) (room : Nat) : Keeps (Kept []) (r.command execute op id room) := by
  refine Strand.keeps_bind (plain_render op.command).keeps fun command =>
    Strand.keeps_bind (plain_write _).keeps fun _ => ?_
  split
  · exact (plain_startUnit op id command room).keeps
  · refine Strand.keeps_bind (Strand.keeps_command fun _ => Strand.keeps_pure _) fun execution => ?_
    split
    · exact Strand.keeps_bind (plain_publishOutput r op id _).keeps fun _ => keeps_handled h op _
    · split
      · exact keeps_failed h op id _
      · exact Strand.keeps_fail _

theorem keeps_inOrder (h : ∀ op, Keeps (Kept []) (execute op)) (ops : List Operation) :
    Keeps (Kept []) (inOrder execute ops) := by
  induction ops with
  | nil => exact Strand.keeps_pure _
  | cons op rest ih => exact keeps_orElse (h op) ih

theorem keeps_perform (h : ∀ op, Keeps (Kept []) (execute op))
    (op : Operation) (id : String) (room : Nat) :
    Keeps (Kept []) (r.perform execute (inOrder execute) op id room) := by
  unfold perform
  split
  · next _ _ flow _ =>
    intro s
    refine (keeps_loop r flow op id _ (keeps_inOrder h op.operations) s).mono fun _ _ t ht => ?_
    exact ⟨ht.loops, ht.progress, nofun⟩
  · exact keeps_copyOutcome h op _ id
  · split
    · exact Strand.keeps_bind (plain_setResult id true).keeps fun _ => Strand.keeps_pure _
    · exact keeps_command h op id room

end

/-- An operation, with everything inside it, leaves the stack of loops and the condensing of output
as they were, whatever it comes to. -/
theorem execute_keepsLoops (r : Run) (room : Nat) (op : Operation) :
    Keeps (Kept []) (r.execute room op) := by
  induction room generalizing op with
  | zero => exact Strand.keeps_fail _
  | succ room ih =>
    refine Strand.keeps_note (Strand.keeps_continueWith ?_ fun result => ?_)
    · refine Strand.keeps_bind (plain_idOf op).keeps fun id =>
        Strand.keeps_bind (plain_holds _).keeps fun on => ?_
      split
      · refine Strand.keeps_bind (keeps_askAll op.prompts) fun stops => ?_
        split
        · exact Strand.keeps_pure _
        · exact Strand.keeps_bind (keeps_perform ih op id room) fun _ => Strand.keeps_pure _
      · exact Strand.keeps_pure _
    · split
      · exact Strand.keeps_note (Strand.keeps_done _)
      · exact Strand.keeps_note (Strand.keeps_done _)
      · exact Strand.keeps_note (Strand.keeps_done _)

/-- However a loop ends that runs alone, the stack of loops and the condensing of output are what
they were before it, and so are the variables that it binds, even if its body binds them again. -/
theorem loop_restores (r : Run) (flow : ControlFlow) (op : Operation) (id : String)
    (depth room : Nat) {store last : Store} {events : List Event} {result : Except Error Signal}
    (h : Strand.Moves Strand.nobody
      (r.loop flow op id depth (inOrder (r.execute room) op.operations))
      store events (.done result) last) :
    last.loops = store.loops ∧ last.progress = store.progress ∧
      ∀ name ∈ flow.boundNames, last.vars.get? name = store.vars.get? name := by
  have hbody : Keeps (Kept []) (inOrder (r.execute room) op.operations) :=
    keeps_inOrder (execute_keepsLoops r room) op.operations
  have hkept := keeps_loop r flow op id depth hbody store events result last h
  exact ⟨hkept.loops, hkept.progress, hkept.vars⟩

/-- A loop over `i` that asks for `i` in each pass. -/
def askingLoop : Operation where
  controlFlow := some (.counted "2" "i" true false)
  operations := [{ prompts := [{ id := "i" }] }]

/-- The answers do not outlast the loop. -/
theorem loop_restores_askingLoop :
    ∃ events last, Strand.Moves Strand.nobody
      (loop ⟨1, 0, 0, .empty, "", {}⟩ (.counted "2" "i" true false) askingLoop "" 0
        (inOrder (execute ⟨1, 0, 0, .empty, "", {}⟩ 1) askingLoop.operations))
      { vars := .ofList [("i", .str "kept")] } events (.done (.ok .next)) last ∧
    .asked { id := "i" } (.ok (.value (.str "new"))) ∈ events ∧
    last.loops = [] ∧ last.progress = false ∧ last.vars.get? "i" = some (.str "kept") ∧
    last.vars.get? passName = none := by
  obtain ⟨events, last, h, hasked⟩ : ∃ events last, Strand.Moves Strand.nobody
      (loop ⟨1, 0, 0, .empty, "", {}⟩ (.counted "2" "i" true false) askingLoop "" 0
        (inOrder (execute ⟨1, 0, 0, .empty, "", {}⟩ 1) askingLoop.operations))
      { vars := .ofList [("i", .str "kept")] } events (.done (.ok .next)) last ∧
      .asked { id := "i" } (.ok (.value (.str "new"))) ∈ events :=
    ⟨_, _, .own (.update _ _ _) <| .own (.update _ _ _) <| .own (.update _ _ _) <|
      .own (.update _ _ _) <| .own (.update _ _ _) <| .own (.update _ _ _) <|
      .own (.note _ _ _) <| .own (.update _ _ _) <|
      .own (.ask _ _ _ (.ok (.value (.str "new")))) <| .own (.update _ _ _) <|
      .own (.note _ _ _) <| .own (.update _ _ _) <| .own (.update _ _ _) <|
      .own (.note _ _ _) <| .own (.update _ _ _) <|
      .own (.ask _ _ _ (.ok (.value (.str "newer")))) <| .own (.update _ _ _) <|
      .own (.note _ _ _) <| .own (.update _ _ _) <| .own (.update _ _ _) <|
      .own (.update _ _ _) <| .own (.report _ _ _) <| .refl _ _, by simp⟩
  obtain ⟨hloops, hprogress, hvars⟩ := loop_restores _ _ _ _ _ _ h
  exact ⟨events, last, h, hasked, hloops, hprogress, hvars "i" List.mem_cons_self,
    hvars passName (List.mem_cons_of_mem _ List.mem_cons_self)⟩

end Run

end RecipeRunner
