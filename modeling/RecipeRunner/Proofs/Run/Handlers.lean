import RecipeRunner.Proofs.Recipe.Handlers
import RecipeRunner.Proofs.Run.Monitor
import RecipeRunner.Proofs.Run.Occurrences
import RecipeRunner.Run.Outcome
/-!
# What a run gets to by handlers

An operation runs nothing but what is inside it and what handlers refer to.  So a run of an expanded
recipe stays among the operations in its trees, where no references are left.

* `Strand.KeepsTo`: strands that bring no other events than some.
* `Run.Closed`: operations that are not left by going inside them or by following handlers.
* `Crew.History.keepsTo`: a run of operations that are not left starts no others.
* `Expansion.handlers_of_expand`: the handlers of an expanded recipe.
-/

namespace RecipeRunner

/-! ## Strands that keep to some events -/

/-- Lets a strand bring the events that are allowed, in any order. -/
def Monitor.allowing (allowed : Event → Prop) : Monitor Unit where
  step _ event _ := allowed event
  waits _ := True
  loops _ := True

namespace Strand

variable {α : Type} {allowed : Event → Prop} {s t : Strand α}

/-- A strand brings no events but those that are allowed. -/
def KeepsTo (allowed : Event → Prop) (s : Strand α) : Prop :=
  s.Obeys (.allowing allowed) (fun _ _ => True) ()

theorem keepsTo_compositional (hexchange : ∀ event : Event, event.IsExchange → allowed event) :
    Compositional (fun _ _ => True) fun _ s => s.KeepsTo allowed where
  aside _ := trivial
  done _ := trivial
  update _ hnext := hnext
  call hnext execution := ⟨(), hexchange _ trivial, hnext execution⟩
  prompt hnext answer := ⟨(), hexchange _ trivial, hnext answer⟩
  question hnext reply := ⟨(), hexchange _ trivial, hnext reply⟩
  report hnext := ⟨(), hexchange _ trivial, hnext⟩
  row hs hk := hs.continueWith fun result _ _ => hk result

theorem KeepsTo.move {store last : Store} {new : List Event} (h : s.KeepsTo allowed)
    (hmove : Move s store new t last) : (∀ event ∈ new, allowed event) ∧ t.KeepsTo allowed := by
  obtain ⟨mid, hpath, hnext⟩ := Obeys.move h hmove
  refine ⟨fun event hevent => ?_, hnext⟩
  obtain ⟨front, back, rfl⟩ := List.append_of_mem hevent
  obtain ⟨before, behind, -, hstep, -⟩ := hpath.exists_of_append_cons
  exact hstep

end Strand

namespace Crew

variable {r : Run} {allowed : Event → Prop} {c d : Crew} {who : Option Nat} {act : Act}

/-- All strands of a crew bring no events but those that are allowed. -/
structure KeepsTo (allowed : Event → Prop) (c : Crew) : Prop where
  main : c.main.KeepsTo allowed
  unit : ∀ entry ∈ c.units, entry.2.KeepsTo allowed

section

variable (hunit : ∀ u : Launch, allowed (.launched u) → (r.unitStrand u).KeepsTo allowed)

include hunit

theorem keepsTo_launched {events : List Event} (h : ∀ event ∈ events, allowed event) :
    ∀ entry ∈ launched r events, entry.2.KeepsTo allowed := by
  intro entry hentry
  obtain ⟨hlaunched, hstrand⟩ := exists_of_mem_launched hentry
  rw [hstrand]
  exact hunit entry.1 (h _ hlaunched)

theorem KeepsTo.step (h : c.KeepsTo allowed) (hstep : Step r c who act d) :
    (∀ event ∈ act.events, allowed event) ∧ d.KeepsTo allowed := by
  cases hstep with
  | main hmove =>
    obtain ⟨hnew, hmain⟩ := h.main.move hmove
    have hlaunched := keepsTo_launched hunit hnew
    exact ⟨hnew, hmain, List.forall_mem_append.2 ⟨h.unit, hlaunched⟩⟩
  | unit hunits hmove =>
    have hold := h.unit
    rw [hunits, List.forall_mem_append, List.forall_mem_cons] at hold
    obtain ⟨hbefore, hs, hbehind⟩ := hold
    obtain ⟨hnew, ht⟩ := hs.move hmove
    refine ⟨hnew, h.main, List.forall_mem_append.2 ⟨?_, keepsTo_launched hunit hnew⟩⟩
    exact List.forall_mem_append.2 ⟨hbefore, List.forall_mem_cons.2 ⟨ht, hbehind⟩⟩

/-- What all strands keep to is kept to in all that they do. -/
theorem History.keepsTo {acts : List (Option Nat × Act)} (h : History r c acts d)
    (hc : c.KeepsTo allowed) :
    (∀ entry ∈ acts, ∀ event ∈ entry.2.events, allowed event) ∧ d.KeepsTo allowed := by
  induction h with
  | nil => exact ⟨List.forall_mem_nil _, hc⟩
  | snoc _ hstep ih =>
    obtain ⟨hacts, hmid⟩ := ih
    obtain ⟨hact, hd⟩ := hmid.step hunit hstep
    exact ⟨List.forall_mem_append.2 ⟨hacts, List.forall_mem_singleton.2 hact⟩, hd⟩

end

end Crew

/-! ## Operations that are not left -/

/-- What starts and what is launched is among some operations. -/
def Event.Among (among : Operation → Prop) : Event → Prop
  | noted (.started op _) => among op
  | launched unit => among unit.operation
  | _ => True

theorem Event.IsExchange.among {event : Event} (h : event.IsExchange) (among : Operation → Prop) :
    event.Among among := by
  cases event with
  | launched | noted => exact h.elim
  | _ => trivial

theorem Event.among_ending (among : Operation → Prop) (op : Operation)
    (result : Except Error (Option Signal)) : (noted (.ending op result)).Among among := by
  rcases result with e | _ | signal <;> trivial

namespace Run

open Strand (KeepsTo keepsTo_compositional)

variable {r : Run} {among : Operation → Prop}

/-- Operations with all that is inside them, and with all that handlers refer to. -/
structure Closed (r : Run) (among : Operation → Prop) : Prop where
  inside : ∀ {op child : Operation}, among op → child ∈ op.operations → among child
  handler : ∀ {name : String} {op : Operation}, r.handlers.get? name = some op → among op

theorem keepsTo_startUnit {op : Operation} (hop : among op) (id command : String) (room : Nat) :
    (startUnit op id command room).KeepsTo (Event.Among among) := by
  unfold startUnit
  split
  · exact trivial
  · exact fun _ _ _ => ⟨(), hop, trivial⟩

theorem Closed.execute (h : r.Closed among) {room : Nat} {op : Operation} (hop : among op) :
    (r.execute room op).KeepsTo (Event.Among among) := by
  have hP := keepsTo_compositional fun _ hevent => hevent.among among
  induction room generalizing op with
  | zero => trivial
  | succ room ih =>
    have hbody : (r.body room op).KeepsTo (Event.Among among) :=
      hP.body (fun _ _ => trivial) (fun htarget => ih (h.handler htarget))
        (fun child hchild => ih (h.inside hop hchild)) (fun _ => trivial)
        fun id command => keepsTo_startUnit hop id command room
    rw [execute_succ]
    exact ⟨(), hop, hbody.continueWith fun result _ _ => ⟨(), Event.among_ending .., trivial⟩⟩

theorem Closed.unitStrand (h : r.Closed among) (u : Launch) :
    (r.unitStrand u).KeepsTo (Event.Among among) :=
  (keepsTo_compositional fun _ hevent => hevent.among among).unitStrand u
    (fun htarget => h.execute (h.handler htarget)) (fun _ _ => trivial) (fun _ _ => trivial)
    fun _ => trivial

theorem Closed.start (h : r.Closed among) {ops : List Operation} (hops : ∀ op ∈ ops, among op)
    (store : Store) : (Crew.start r ops store).KeepsTo (Event.Among among) := by
  have hP := keepsTo_compositional fun _ hevent => hevent.among among
  refine ⟨hP.mainStrand (fun hs => ⟨trivial, hs⟩) fun op hop => h.execute (hops op hop), ?_⟩
  exact List.forall_mem_nil _

/-- A run starts nothing but operations in its trees. -/
theorem mem_preorderIn_of_starts {ops : List Operation} {store : Store}
    {acts : List (Option Nat × Act)} {c : Crew} (hhandlers : r.handlers = Operation.handlers ops)
    (h : Crew.History r (.start r ops store) acts c) {entry : Option Nat × Act}
    (hentry : entry ∈ acts) {op : Operation} {room : Nat} (hstarts : entry.2.Starts op room) :
    op ∈ Operation.preorderIn ops := by
  have hclosed : r.Closed (· ∈ Operation.preorderIn ops) := by
    refine ⟨Operation.mem_preorderIn_of_inside, fun htarget => ?_⟩
    rw [hhandlers] at htarget
    exact Operation.mem_preorderIn_of_handlers htarget
  have hstart := hclosed.start (fun _ => Operation.mem_preorderIn_of_mem) store
  exact (h.keepsTo (fun u _ => hclosed.unitStrand u) hstart).1 entry hentry _ hstarts

end Run

/-! ## Expanded recipes -/

namespace Expansion

open Operation (preorderIn handlers)

/-- In an expanded recipe every id refers to the last operation that has it, at any depth, and
nothing else is referred to.  No reference is left there, nor in anything that a run starts. -/
theorem handlers_of_expand {registry : Registry} {ops expanded : List Operation}
    (h : expand registry ops = .ok expanded) :
    (∀ id, (∃ op, (handlers expanded).get? id = some op) ↔
        id ≠ "" ∧ ∃ op ∈ preorderIn expanded, op.id = id) ∧
      (∀ id op, (handlers expanded).get? id = some op ↔
        id ≠ "" ∧ op.id = id ∧ ∃ before after, preorderIn expanded = before ++ op :: after ∧
          ∀ later ∈ after, later.id ≠ id) ∧
      (∀ id op, (handlers expanded).get? id = some op →
        ∀ inner ∈ op.preorder, inner.uses.isEmpty = true) ∧
      ∀ (o : Order) (store : Store) (acts : List (Option Nat × Act)) (c : Crew),
        Crew.History (Recipe.runOf o expanded) (.start (Recipe.runOf o expanded) expanded store)
          acts c →
        ∀ entry ∈ acts, ∀ op room, entry.2.Starts op room →
          op ∈ preorderIn expanded ∧ op.uses.isEmpty = true := by
  have huses : ∀ op ∈ preorderIn expanded, op.uses.isEmpty = true := fun op hop =>
    (expanded_of_expandWithin h).uses_of_mem hop
  refine ⟨fun id => Operation.exists_handler_iff, fun id op => Operation.get?_handlers_eq_some_iff,
    fun id op hop inner hinner => ?_, fun o store acts c hhistory entry hentry op room hop => ?_⟩
  · have htree := Operation.mem_preorderIn_of_handlers hop
    exact huses inner (Operation.preorder_subset_preorderIn expanded htree hinner)
  · have htree := Run.mem_preorderIn_of_starts rfl hhistory hentry hop
    exact ⟨htree, huses op htree⟩

/-- A reference to a component that a loop refers to as well. -/
def secondBuild : Operation where
  uses := "build"
  condition := "$again"

/-- The id in the component refers to the operation behind the loop, and the id of the reference in
the loop to the copy step there. -/
theorem handlers_of_expand_secondBuild : ∃ expanded before artifact compile,
    expand packaging [packagingLoop, secondBuild] = .ok expanded ∧
      preorderIn expanded = before ++ [artifact, compile] ∧
      before.map (·.id) = ["each", "compile", "sources", "archive"] ∧
      (handlers expanded).get? "artifact" = some artifact ∧
      artifact.copyFrom = some "archive" ∧
      (handlers expanded).get? "compile" = some compile ∧ compile.condition = "$again" := by
  obtain ⟨expanded, before, artifact, compile, hexpand, hpreorder, hbefore, hcopy, hagain,
      hartifact, hcompile⟩ : ∃ expanded before artifact compile,
      expand packaging [packagingLoop, secondBuild] = .ok expanded ∧
        preorderIn expanded = before ++ [artifact, compile] ∧
        before.map (·.id) = ["each", "compile", "sources", "archive"] ∧
        artifact.copyFrom = some "archive" ∧ compile.condition = "$again" ∧
        artifact.id = "artifact" ∧ compile.id = "compile" :=
    ⟨_, [_, _, _, _], _, _, rfl, rfl, rfl, rfl, rfl, rfl, rfl⟩
  have hhandlers := (handlers_of_expand hexpand).2.1
  have hinside : (handlers expanded).get? "artifact" = some artifact := by
    refine (hhandlers _ _).2 ⟨by decide, hartifact, before, [compile], hpreorder, ?_⟩
    rw [List.forall_mem_singleton, hcompile]
    decide
  have hlast : (handlers expanded).get? "compile" = some compile := by
    refine (hhandlers _ _).2 ⟨by decide, hcompile, before ++ [artifact], [], ?_, ?_⟩
    · rw [hpreorder, List.append_assoc]
      rfl
    · exact List.forall_mem_nil _
  exact ⟨expanded, before, artifact, compile, hexpand, hpreorder, hbefore, hinside, hcopy, hlast,
    hagain⟩

end Expansion

end RecipeRunner
