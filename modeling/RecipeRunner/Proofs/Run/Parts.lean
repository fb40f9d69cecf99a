import RecipeRunner.Proofs.Run.Alone
import RecipeRunner.Run.Operation
/-!
# Parts of operations

What operations are made of, except for loops, prompts and further operations, is plain: it comes to
an end and changes neither the stack of loops nor the condensing of output.
-/

namespace RecipeRunner

/-- The stack of loops, the condensing of output and the values of `names` are the same. -/
structure Store.Kept (names : List String) (s t : Store) : Prop where
  loops : t.loops = s.loops
  progress : t.progress = s.progress
  vars : ∀ name ∈ names, t.vars.get? name = s.vars.get? name

instance (names : List String) : IsPreorder Store (Store.Kept names) where
  refl _ := ⟨rfl, rfl, fun _ _ => rfl⟩
  trans _ _ _ h h' := ⟨h'.loops.trans h.loops, h'.progress.trans h.progress,
    fun name hname => (h'.vars name hname).trans (h.vars name hname)⟩

namespace Store

/-! ## Changes of the store -/

theorem kept_of_eq {s t : Store} {names : List String} (hloops : t.loops = s.loops)
    (hprogress : t.progress = s.progress) (hvars : t.vars = s.vars) : Kept names s t :=
  ⟨hloops, hprogress, fun name _ => by rw [hvars]⟩

theorem kept_setVar (s : Store) (name : String) (value : Value) :
    Kept [] s (s.setVar name value) :=
  ⟨rfl, rfl, nofun⟩

theorem kept_setResult (s : Store) (names : List String) (id : String) (success : Bool) :
    Kept names s (s.setResult id success) :=
  kept_of_eq rfl rfl rfl

theorem kept_copyOutcome (s : Store) (source target : String) :
    Kept [] s (s.copyOutcome source target) := by
  unfold copyOutcome
  cases s.outputs.get? source with
  | none =>
    dsimp only
    split
    · exact kept_of_eq rfl rfl rfl
    · exact kept_of_eq rfl rfl rfl
  | some output =>
    dsimp only
    split
    · exact kept_of_eq rfl rfl rfl
    · exact kept_of_eq rfl rfl rfl

end Store

namespace Run

open Store (Kept)

variable {names : List String}

/-! ## Plain parts -/

theorem plain_store : Strand.store.Plain (Kept names) :=
  ⟨fun s => refl s, fun _ => trivial⟩

/-- An evaluation only uses up random numbers. -/
theorem plain_drawn : Strand.drawn.Plain (Kept names) :=
  ⟨fun _ => Store.kept_of_eq rfl rfl rfl, fun _ => trivial⟩

theorem plain_modify {change : Store → Store} (h : ∀ s, Kept names s (change s)) :
    (Strand.modify change).Plain (Kept names) :=
  ⟨h, fun _ => trivial⟩

theorem plain_write (text : Streams) : (Strand.write text).Plain (Kept names) :=
  trivial

theorem plain_render (template : String) : (render template).Plain (Kept names) :=
  Strand.plain_bind plain_drawn fun _ => Strand.plain_ofExcept _

theorem plain_holds (condition : String) : (holds condition).Plain (Kept names) :=
  Strand.plain_bind plain_drawn fun _ => Strand.plain_ofExcept _

theorem plain_setVar (name : String) (value : Value) : (setVar name value).Plain (Kept []) :=
  plain_modify fun s => s.kept_setVar name value

theorem plain_setResult (id : String) (success : Bool) :
    (setResult id success).Plain (Kept names) := by
  unfold setResult
  split
  · exact Strand.plain_pure ()
  · exact plain_modify fun s => s.kept_setResult names id success

theorem plain_emit (r : Run) (text : String) : (r.emit text).Plain (Kept names) :=
  Strand.plain_bind plain_store fun _ => plain_write _

theorem plain_transformed (op : Operation) (raw : String) :
    (transformed op raw).Plain (Kept names) := by
  unfold transformed
  split
  · exact Strand.plain_pure raw
  · exact Strand.plain_bind plain_drawn fun _ => Strand.plain_ofExcept _

theorem plain_publishOutput (r : Run) (op : Operation) (id raw : String) :
    (r.publishOutput op id raw).Plain (Kept names) := by
  unfold publishOutput
  refine Strand.plain_bind (plain_transformed op raw) fun text => ?_
  dsimp only
  split
  · refine Strand.plain_bind (plain_modify fun s => Store.kept_of_eq rfl rfl rfl) fun _ => ?_
    refine Strand.plain_bind (plain_modify fun s => Store.kept_of_eq rfl rfl rfl) fun _ => ?_
    split
    · exact plain_emit r _
    · exact Strand.plain_pure ()
  · split
    · exact plain_emit r _
    · exact Strand.plain_pure ()

theorem plain_goesOn (label failure : String) : (goesOn label failure).Plain (Kept names) :=
  fun _ => Strand.plain_ofExcept _

theorem plain_messageOf (spec : PromptSpec) : (messageOf spec).Plain (Kept names) := by
  unfold messageOf
  split
  · exact plain_render _
  · exact Strand.plain_pure _

theorem plain_keepAnswer (spec : PromptSpec) (answer : Answer) :
    (keepAnswer spec answer).Plain (Kept []) := by
  cases answer with
  | exit => exact Strand.plain_pure true
  | value v => exact Strand.plain_bind (plain_setVar _ v) fun _ => Strand.plain_pure false

theorem plain_idOf (op : Operation) : (idOf op).Plain (Kept names) := by
  unfold idOf
  split
  · exact Strand.plain_bind (plain_render _) fun _ => Strand.plain_pure _
  · exact Strand.plain_pure _

theorem plain_startUnit (op : Operation) (id command : String) (room : Nat) :
    (startUnit op id command room).Plain (Kept []) := by
  unfold startUnit
  split
  · exact Strand.plain_fail _
  · refine Strand.plain_bind ⟨fun s => Store.kept_of_eq rfl rfl rfl, fun _ => trivial⟩ fun run => ?_
    refine Strand.plain_bind (plain_modify fun s => Store.kept_of_eq rfl rfl rfl) fun _ => ?_
    exact Strand.plain_bind (plain_modify fun s => Store.kept_of_eq rfl rfl rfl) fun _ => trivial

/-! ## Parts that read the store -/

/-- The id of an operation in a store. -/
def idIn (s : Store) (op : Operation) : Except Error String :=
  if Template.hasTemplate op.id then (Template.render s.bindings op.id).map Text.trimmed
  else .ok op.id

theorem comesTo_drawn (s : Store) : Strand.drawn.ComesTo s [] (.ok s) s.drawn :=
  .update (Strand.comesTo_done _ s.drawn)

theorem comesTo_render (s : Store) (template : String) :
    (render template).ComesTo s [] (Template.render s.bindings template) s.drawn :=
  (comesTo_drawn s).bind (Strand.comesTo_done _ s.drawn)

theorem comesTo_holds (s : Store) (condition : String) :
    (holds condition).ComesTo s [] (Condition.evaluate s.scope condition) s.drawn :=
  (comesTo_drawn s).bind (Strand.comesTo_done _ s.drawn)

theorem comesTo_idOf_of_hasTemplate (s : Store) {op : Operation}
    (h : Template.hasTemplate op.id = true) : (idOf op).ComesTo s [] (idIn s op) s.drawn := by
  have hrender := comesTo_render s op.id
  rw [idOf, idIn, if_pos h, if_pos h]
  cases hid : Template.render s.bindings op.id with
  | error e =>
    rw [hid] at hrender
    exact hrender.bind_error _
  | ok id =>
    rw [hid] at hrender
    exact hrender.bind (Strand.comesTo_done _ s.drawn)

/-- An id without templates draws nothing. -/
theorem comesTo_idOf (s : Store) (op : Operation) :
    ∃ c, (idOf op).ComesTo s [] (idIn s op) (s.drawing c) := by
  cases h : Template.hasTemplate op.id with
  | true => exact ⟨_, comesTo_idOf_of_hasTemplate s h⟩
  | false =>
    rw [idOf, idIn, h]
    exact ⟨s.chance, Strand.comesTo_done _ s⟩

end Run

end RecipeRunner
