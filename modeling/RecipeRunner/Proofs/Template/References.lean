import Mathlib
import RecipeRunner.Template.Evaluation
/-!
# References to data

A template whose pipelines are single operands refers to data and calls nothing.  What it refers to
may be absent, so there is nothing in it that can fail; and of the data it sees no more than the
values of the names that stand in it, whichever branches they choose and however often a body is
repeated.

* `Pipeline.evalPipeline_alike`: a single operand has the same value under data that agree.
* `Node.renderNodes_alike`: so has a tree in which all pipelines do.
* `render_operands`: rendering succeeds, and depends on the names that are mentioned.
-/

namespace RecipeRunner.Template

/-! ## What trees are made of -/

/-- An operand: a datum, the current element or a literal, in any number of parentheses. -/
inductive Arg.IsOperand : Arg → Prop
  | field (name : String) : IsOperand (.field name)
  | dot : IsOperand .dot
  | literal (value : Value) : IsOperand (.literal value)
  | group {arg : Arg} : arg.IsOperand → IsOperand (.group [[arg]])

/-- A pipeline of one command, which is a single operand. -/
def Pipeline.IsOperand (p : Pipeline) : Prop :=
  ∃ arg : Arg, p = [[arg]] ∧ arg.IsOperand

namespace Arg

mutual

/-- The names of data in an argument. -/
def names : Arg → List String
  | .field name => [name]
  | .dot | .call _ | .literal _ => []
  | .group commands => commandsNames commands

/-- The names of data in the commands of a pipeline. -/
def commandsNames : List (List Arg) → List String
  | [] => []
  | command :: rest => argsNames command ++ commandsNames rest

/-- The names of data in the arguments of a command. -/
def argsNames : List Arg → List String
  | [] => []
  | arg :: rest => arg.names ++ argsNames rest

end

end Arg

/-- The names of data in a pipeline. -/
def Pipeline.names (p : Pipeline) : List String :=
  Arg.commandsNames p

namespace Node

mutual

/-- The pipelines in a node: those of actions, of conditions and of ranges. -/
def pipelines : Node → List Pipeline
  | .text _ => []
  | .action p => [p]
  | .choice branches otherwise => branchesPipelines branches ++ listPipelines otherwise
  | .range p body otherwise => p :: (listPipelines body ++ listPipelines otherwise)

/-- The pipelines in branches with their conditions. -/
def branchesPipelines : List (Pipeline × List Node) → List Pipeline
  | [] => []
  | (condition, body) :: rest => condition :: (listPipelines body ++ branchesPipelines rest)

/-- The pipelines in nodes. -/
def listPipelines : List Node → List Pipeline
  | [] => []
  | node :: rest => node.pipelines ++ listPipelines rest

end

end Node

/-! ## Results that are alike -/

/-- Two computations succeed, with the same result. -/
def Alike {α : Type} (x y : Except Error α) : Prop :=
  ∃ a, x = .ok a ∧ y = .ok a

section

variable {α β : Type} {x y : Except Error α}

theorem alike_ok (a : α) : Alike (.ok a) (.ok a) :=
  ⟨a, rfl, rfl⟩

theorem Alike.eq (h : Alike x y) : x = y := by
  obtain ⟨a, rfl, rfl⟩ := h
  rfl

theorem Alike.bind {f g : α → Except Error β} (h : Alike x y) (hf : ∀ a, Alike (f a) (g a)) :
    Alike (x >>= f) (y >>= g) := by
  obtain ⟨a, rfl, rfl⟩ := h
  exact hf a

end

variable {b b' : Bindings}

/-! ## Pipelines -/

/-- An operand in parentheses is the operand. -/
theorem evalPipeline_singleton (b : Bindings) (element : Operand) {arg : Arg}
    (h : arg.IsOperand) : evalPipeline b element [[arg]] = evalArg (b.part 0) element arg := by
  have hcommand : evalCommand (b.part 0) element none [arg] = evalArg (b.part 0) element arg := by
    cases h <;> rfl
  rw [evalPipeline, evalCommands, hcommand]
  cases evalArg (b.part 0) element arg <;> rfl

theorem evalArg_alike (element : Operand) {arg : Arg} (h : arg.IsOperand)
    (hnames : ∀ name ∈ arg.names, b.lookup name = b'.lookup name) :
    Alike (evalArg b element arg) (evalArg b' element arg) := by
  induction h generalizing b b' with
  | field name =>
    refine ⟨b.lookup name, rfl, ?_⟩
    rw [evalArg, hnames name (List.mem_singleton_self name)]
  | dot => exact alike_ok element
  | literal value => exact alike_ok (some value)
  | @group arg harg ih =>
    have hgroup : ∀ b : Bindings,
        evalArg b element (.group [[arg]]) = evalArg (b.part 0) element arg :=
      fun b => evalPipeline_singleton b element harg
    rw [hgroup, hgroup]
    refine ih fun name hname => hnames name ?_
    simpa [Arg.names, Arg.commandsNames, Arg.argsNames] using hname

theorem Pipeline.evalPipeline_alike (element : Operand) {p : Pipeline} (h : p.IsOperand)
    (hnames : ∀ name ∈ p.names, b.lookup name = b'.lookup name) :
    Alike (evalPipeline b element p) (evalPipeline b' element p) := by
  obtain ⟨arg, rfl, harg⟩ := h
  rw [evalPipeline_singleton b element harg, evalPipeline_singleton b' element harg]
  refine evalArg_alike element harg fun name hname => hnames name ?_
  simpa [Pipeline.names, Arg.commandsNames, Arg.argsNames] using hname

/-! ## Trees -/

theorem writeEach_alike {write write' : Bindings → Value → Except Error String}
    (h : ∀ c c' v, Alike (write (b.drawing c) v) (write' (b'.drawing c') v)) (items : List String) :
    Alike (writeEach write b items) (writeEach write' b' items) := by
  induction items generalizing b b' with
  | nil => exact alike_ok ""
  | cons x items ih =>
    have hrest : Alike (writeEach write (b.part 1) items) (writeEach write' (b'.part 1) items) :=
      ih h
    exact (h _ _ _).bind fun _ => hrest.bind fun _ => alike_ok _

namespace Node

/-- Whatever the current element is and whatever is drawn, the pipelines succeed, with the same
operands. -/
def PipelinesAlike (b b' : Bindings) (ps : List Pipeline) : Prop :=
  ∀ p ∈ ps, ∀ element c c',
    Alike (evalPipeline (b.drawing c) element p) (evalPipeline (b'.drawing c') element p)

theorem PipelinesAlike.drawing {ps : List Pipeline} (h : PipelinesAlike b b' ps)
    (c c' : Chance) : PipelinesAlike (b.drawing c) (b'.drawing c') ps :=
  h

theorem PipelinesAlike.part {ps : List Pipeline} (h : PipelinesAlike b b' ps) (i : Nat) :
    PipelinesAlike (b.part i) (b'.part i) ps :=
  h

theorem PipelinesAlike.left {ps qs : List Pipeline} (h : PipelinesAlike b b' (ps ++ qs)) :
    PipelinesAlike b b' ps :=
  fun p hp => h p (List.mem_append_left qs hp)

theorem PipelinesAlike.right {ps qs : List Pipeline} (h : PipelinesAlike b b' (ps ++ qs)) :
    PipelinesAlike b b' qs :=
  fun p hp => h p (List.mem_append_right ps hp)

theorem PipelinesAlike.head {p : Pipeline} {ps : List Pipeline}
    (h : PipelinesAlike b b' (p :: ps)) (element : Operand) :
    Alike (evalPipeline b element p) (evalPipeline b' element p) :=
  h p List.mem_cons_self element b.chance b'.chance

theorem PipelinesAlike.tail {p : Pipeline} {ps : List Pipeline}
    (h : PipelinesAlike b b' (p :: ps)) : PipelinesAlike b b' ps :=
  fun q hq => h q (List.mem_cons_of_mem p hq)

-- The current element changes inside a range, and each part has a chance of its own, so neither is
-- fixed along the trees.
mutual

theorem renderNode_alike {b b' : Bindings} (element : Operand) : (node : Node) →
    PipelinesAlike b b' node.pipelines →
      Alike (renderNode b element node) (renderNode b' element node)
  | .text t, _ => alike_ok t
  | .action p, h => by
    rw [renderNode, renderNode]
    refine (h.head element).bind fun o => ?_
    cases o with
    | some v => exact alike_ok v.render
    | none => exact alike_ok noValue
  | .choice branches otherwise, h => by
    rw [renderNode, renderNode]
    refine (renderBranches_alike element branches (h.left.part 0)).bind fun taken => ?_
    cases taken with
    | some text => exact alike_ok text
    | none => exact renderNodes_alike element otherwise (h.right.part 1)
  | .range p body otherwise, h => by
    have hitems : ∀ items : List String,
        Alike
          (if items.isEmpty then renderNodes (b.part 1) element otherwise
            else writeEach (fun b x => renderNodes b (some x) body) (b.part 1) items)
          (if items.isEmpty then renderNodes (b'.part 1) element otherwise
            else writeEach (fun b x => renderNodes b (some x) body) (b'.part 1) items) := by
      intro items
      split
      · exact renderNodes_alike element otherwise (h.tail.right.part 1)
      · have hbody : ∀ c c' x, Alike (renderNodes ((b.part 1).drawing c) (some x) body)
            (renderNodes ((b'.part 1).drawing c') (some x) body) := fun c c' x =>
          renderNodes_alike (some x) body (h.tail.left.drawing c c')
        exact writeEach_alike hbody items
    rw [renderNode, renderNode]
    exact ((h.part 0).head element).bind fun o => hitems _

theorem renderBranches_alike {b b' : Bindings} (element : Operand) :
    (branches : List (Pipeline × List Node)) → PipelinesAlike b b' (branchesPipelines branches) →
      Alike (renderBranches b element branches) (renderBranches b' element branches)
  | [], _ => alike_ok none
  | (condition, body) :: rest, h => by
    rw [renderBranches, renderBranches]
    refine ((h.part 0).head element).bind fun o => ?_
    split
    · exact (renderNodes_alike element body (h.tail.left.part 1)).bind fun text =>
        alike_ok (some text)
    · exact renderBranches_alike element rest (h.tail.right.part 1)

theorem renderNodes_alike {b b' : Bindings} (element : Operand) : (nodes : List Node) →
    PipelinesAlike b b' (listPipelines nodes) →
      Alike (renderNodes b element nodes) (renderNodes b' element nodes)
  | [], _ => alike_ok ""
  | node :: rest, h => by
    rw [renderNodes, renderNodes]
    exact (renderNode_alike element node (h.left.part 0)).bind fun _ =>
      (renderNodes_alike element rest (h.right.part 1)).bind fun _ => alike_ok _

end

end Node

/-! ## Templates -/

theorem render_alike {template : String} {nodes : List Node} (hparse : parse template = .ok nodes)
    (h : Node.PipelinesAlike b b' (Node.listPipelines nodes)) :
    Alike (render b template) (render b' template) := by
  have hraw : Alike (renderRaw b template) (renderRaw b' template) := by
    rw [renderRaw, renderRaw, hparse]
    split
    · exact Node.renderNodes_alike none nodes h
    · exact alike_ok template
  obtain ⟨text, htext, htext'⟩ := hraw
  rw [render, render, htext, htext']
  exact alike_ok _

/-- A template in which all pipelines are single operands is rendered whatever the data are, absent
ones included, and data that agree on the names in it are rendered alike. -/
theorem render_operands {template : String} {nodes : List Node}
    (hparse : parse template = .ok nodes)
    (hoperands : ∀ p ∈ Node.listPipelines nodes, p.IsOperand) :
    (∀ b, ∃ text, render b template = .ok text) ∧
      ∀ b b' : Bindings,
        (∀ p ∈ Node.listPipelines nodes, ∀ name ∈ p.names, b.lookup name = b'.lookup name) →
          render b template = render b' template := by
  have halike : ∀ b b' : Bindings,
      (∀ p ∈ Node.listPipelines nodes, ∀ name ∈ p.names, b.lookup name = b'.lookup name) →
        Alike (render b template) (render b' template) := fun b b' hnames =>
    render_alike hparse fun p hp element c c' =>
      @Pipeline.evalPipeline_alike (b.drawing c) (b'.drawing c') element p (hoperands p hp)
        (hnames p hp)
  refine ⟨fun b => ?_, fun b b' hnames => (halike b b' hnames).eq⟩
  obtain ⟨text, htext, -⟩ := halike b b fun _ _ _ _ => rfl
  exact ⟨text, htext⟩

/-- The items that `flag` chooses, or what `spare` says where there are none. -/
def chosen : String :=
  "\x7b\x7b if (.flag) \x7d\x7d\x7b\x7b range .items \x7d\x7d\x7b\x7b . \x7d\x7d," ++
    "\x7b\x7b else \x7d\x7d\x7b\x7b .spare \x7d\x7d\x7b\x7b end \x7d\x7d\x7b\x7b end \x7d\x7d"

/-- The nodes of `chosen`. -/
def chosenNodes : List Node :=
  [.choice [([[.group [[.field "flag"]]]],
    [.range [[.field "items"]] [.action [[.dot]], .text ","] [.action [[.field "spare"]]]])] []]

/-- Data with these values for `flag` and `items`, and nothing for `spare`. -/
def chosenFrom (other : Option Value) : Bindings where
  lookup name :=
    if name = "flag" then some (.bool true)
    else if name = "items" then some (.list ["a", "b"])
    else if name = "spare" then none
    else other

/-- Data that differ in another name are rendered alike, and absent ones do not matter. -/
theorem render_operands_chosen :
    parse chosen = .ok chosenNodes ∧ (∀ p ∈ Node.listPipelines chosenNodes, p.IsOperand) ∧
      (∃ text, render { lookup := fun _ => none } chosen = .ok text) ∧
      render (chosenFrom none) chosen = render (chosenFrom (some (.int 1))) chosen ∧
      render (chosenFrom none) chosen = .ok "a,b," := by
  have hparse : parse chosen = .ok chosenNodes := by cbv
  have hoperands : ∀ p ∈ Node.listPipelines chosenNodes, p.IsOperand := by
    intro p hp
    have hmem : p = [[.group [[.field "flag"]]]] ∨ p = [[.field "items"]] ∨ p = [[.dot]] ∨
        p = [[.field "spare"]] := by
      simpa [chosenNodes, Node.listPipelines, Node.pipelines, Node.branchesPipelines] using hp
    rcases hmem with rfl | rfl | rfl | rfl
    · exact ⟨_, rfl, .group (.field "flag")⟩
    · exact ⟨_, rfl, .field "items"⟩
    · exact ⟨_, rfl, .dot⟩
    · exact ⟨_, rfl, .field "spare"⟩
  have hnames : ∀ p ∈ Node.listPipelines chosenNodes, ∀ name ∈ p.names,
      (chosenFrom none).lookup name = (chosenFrom (some (.int 1))).lookup name := by
    have hmentioned : ∀ p ∈ Node.listPipelines chosenNodes, ∀ name ∈ p.names,
        name = "flag" ∨ name = "items" ∨ name = "spare" := by decide
    intro p hp name hname
    rcases hmentioned p hp name hname with rfl | rfl | rfl
    · rfl
    · rfl
    · rfl
  obtain ⟨hsucceeds, hdepends⟩ := render_operands hparse hoperands
  exact ⟨hparse, hoperands, hsucceeds _, hdepends _ _ hnames, by cbv⟩

end RecipeRunner.Template
