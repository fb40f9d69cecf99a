import RecipeRunner.CommandLine.Program
import RecipeRunner.Proofs.Decimal.Integer
import RecipeRunner.Proofs.Except
import RecipeRunner.Proofs.Template.Missing
import RecipeRunner.Proofs.Text.Search
/-!
# Variables of the command line

A variable given by an argument is typed as the output of a command is.  It is rendered as the text
that was given, unless that text is a whole number spelled in another way than it is written.  An
action that is the name of a variable is as good as the text of the variable in its place.

* `Value.render_ofOutput_eq_iff`: which texts are kept.
* `Template.render_inline`: in a template the text of a variable can stand for its name.
* `CommandLine.assignedVars_eq`: the variables that arguments give.
* `CommandLine.assigned_reaches`: what becomes of the text of an argument.
-/

namespace RecipeRunner

open Decimal (Spells fits)
open Text (trimmed)

/-! ## Values -/

namespace Value

variable {raw : String}

/-- A text is rendered as the whole number that it spells, or else as it is without the blanks around
it. -/
theorem render_ofOutput (raw : String) : (ofOutput raw).render =
    ((Decimal.readBounded? (trimmed raw).toList).map toString).getD (trimmed raw) := by
  unfold ofOutput
  split
  · next htrue =>
    rw [htrue]
    rfl
  · next hfalse =>
    rw [hfalse]
    rfl
  · cases Decimal.readBounded? (trimmed raw).toList <;> rfl

theorem render_ofOutput_of_spells {n : Int} (hspells : Spells n (trimmed raw).toList)
    (hfits : fits n = true) : (ofOutput raw).render = toString n := by
  rw [render_ofOutput, Decimal.readBounded?_eq_some_iff.2 ⟨hspells, hfits⟩]
  rfl

/-- What is kept of a text is all but the spelling of a whole number. -/
theorem render_ofOutput_eq_iff : (ofOutput raw).render = trimmed raw ↔
    ∀ n, fits n = true → Spells n (trimmed raw).toList → toString n = trimmed raw := by
  constructor
  · intro h n hfits hspells
    rw [← h, render_ofOutput_of_spells hspells hfits]
  · intro h
    rw [render_ofOutput]
    cases hread : Decimal.readBounded? (trimmed raw).toList with
    | none => rfl
    | some n =>
      obtain ⟨hspells, hfits⟩ := Decimal.readBounded?_eq_some_iff.1 hread
      exact h n hfits hspells

end Value

/-! ## Templates -/

namespace Template

/-- What stands for an action if a text stands for a name. -/
def Pipeline.inline (name text : String) : Pipeline → Node
  | [[.field other]] => if other = name then .text text else .action [[.field other]]
  | p => .action p

namespace Node

mutual

/-- A node with a text in place of the actions that are a name. -/
def inline (name text : String) : Node → Node
  | .text t => .text t
  | .action p => p.inline name text
  | .choice branches otherwise =>
    .choice (inlineBranches name text branches) (inlineAll name text otherwise)
  | .range p body otherwise =>
    .range p (inlineAll name text body) (inlineAll name text otherwise)

/-- Branches with a text in place of the actions that are a name. -/
def inlineBranches (name text : String) :
    List (Pipeline × List Node) → List (Pipeline × List Node)
  | [] => []
  | (condition, body) :: rest =>
    (condition, inlineAll name text body) :: inlineBranches name text rest

/-- Nodes with a text in place of the actions that are a name. -/
def inlineAll (name text : String) : List Node → List Node
  | [] => []
  | node :: rest => node.inline name text :: inlineAll name text rest

end

variable {name : String} {value : Value}

theorem renderNode_inline_action {b : Bindings} (h : b.lookup name = some value) (element : Operand)
    (p : Pipeline) : renderNode b element (p.inline name value.render) =
      renderNode b element (.action p) := by
  unfold Pipeline.inline
  split
  · next other =>
    split
    · next heq =>
      subst heq
      have hfield : evalPipeline b element [[.field other]] = .ok (some value) := by
        rw [← h]
        rfl
      rw [renderNode, renderNode, hfield]
      rfl
    · rfl
  · rfl

theorem writeEach_congr {write write' : Bindings → Value → Except Error String} {b : Bindings}
    (h : ∀ c v, write (b.drawing c) v = write' (b.drawing c) v) (items : List String) :
    writeEach write b items = writeEach write' b items := by
  induction items generalizing b with
  | nil => rfl
  | cons x items ih =>
    have hfirst : write (b.part 0) (.str x) = write' (b.part 0) (.str x) := h _ _
    have hrest : writeEach write (b.part 1) items = writeEach write' (b.part 1) items := ih h
    rw [writeEach, writeEach, hfirst, hrest]

-- The text of the variable is the same inside a range, whatever the current element is, and in every
-- part, whatever is drawn there.
mutual

/-- The text of a variable can stand for its name. -/
theorem renderNode_inline (b : Bindings) (h : b.lookup name = some value) (element : Operand) :
    (node : Node) → renderNode b element (node.inline name value.render) = renderNode b element node
  | .text t => rfl
  | .action p => renderNode_inline_action h element p
  | .choice branches otherwise => by
    rw [inline, renderNode, renderNode,
      renderBranches_inlineBranches (b.part 0) h element branches,
      renderNodes_inlineAll (b.part 1) h element otherwise]
  | .range p body otherwise => by
    have hbody : ∀ items, writeEach
        (fun b x => renderNodes b (some x) (inlineAll name value.render body)) (b.part 1) items =
          writeEach (fun b x => renderNodes b (some x) body) (b.part 1) items :=
      writeEach_congr fun c x => renderNodes_inlineAll ((b.part 1).drawing c) h (some x) body
    rw [inline, renderNode, renderNode, renderNodes_inlineAll (b.part 1) h element otherwise]
    simp only [hbody]

theorem renderBranches_inlineBranches (b : Bindings) (h : b.lookup name = some value)
    (element : Operand) : (branches : List (Pipeline × List Node)) →
      renderBranches b element (inlineBranches name value.render branches) =
        renderBranches b element branches
  | [] => rfl
  | (condition, body) :: rest => by
    rw [inlineBranches, renderBranches, renderBranches,
      renderNodes_inlineAll (b.part 1) h element body,
      renderBranches_inlineBranches (b.part 1) h element rest]

theorem renderNodes_inlineAll (b : Bindings) (h : b.lookup name = some value) (element : Operand) :
    (nodes : List Node) →
    renderNodes b element (inlineAll name value.render nodes) = renderNodes b element nodes
  | [] => rfl
  | node :: rest => by
    rw [inlineAll, renderNodes, renderNodes, renderNode_inline (b.part 0) h element node,
      renderNodes_inlineAll (b.part 1) h element rest]

end

end Node

theorem renderRaw_of_parse (b : Bindings) {template : String} {nodes : List Node}
    (h : parse template = .ok nodes) : renderRaw b template = renderNodes b none nodes := by
  rw [renderRaw]
  split
  · rw [h]
  · next hplain =>
    rw [parse_of_not_hasTemplate (Bool.not_eq_true _ ▸ hplain)] at h
    obtain rfl := Except.ok.inj h
    split
    · next hempty =>
      rw [hempty]
      rfl
    · simp [renderNodes, renderNode, bind, Except.bind, pure, Except.pure]

/-- In a template the text of a variable can stand for its name. -/
theorem render_inline {b : Bindings} {name : String} {value : Value}
    (h : b.lookup name = some value) {template : String} {nodes : List Node}
    (hparse : parse template = .ok nodes) : render b template =
      (renderNodes b none (Node.inlineAll name value.render nodes)).map
        (Text.replaced noValue "false") := by
  rw [render, renderRaw_of_parse b hparse, Node.renderNodes_inlineAll b h]

end Template

/-! ## Stores -/

theorem Store.lookup_bindings {s : Store} {name : String} {value : Value}
    (h : s.vars.get? name = some value) : s.bindings.lookup name = some value := by
  have hlookup : s.bindings.lookup name = s.lookup name := rfl
  rw [hlookup, lookup, h, Option.some_or]

/-- A run starts with the last value that its caller gives a variable. -/
theorem Recipe.get?_storeOf (recipe : Recipe) {o : Order} {front back : List (String × Value)}
    {name : String} {value : Value} (hvars : o.vars = front ++ (name, value) :: back)
    (hlast : ∀ later ∈ back, later.1 ≠ name) (hname : name ≠ "input") :
    (recipe.storeOf o).vars.get? name = some value := by
  rw [storeOf, Store.seed, Table.get?_set, if_neg hname, hvars, Table.get?_setAll_of_last _ hlast]

/-! ## Arguments -/

namespace CommandLine

open Template (Node noValue parse render renderNodes)

/-- The argument that gives a variable a text. -/
def assignment (given : String × String) : String :=
  given.1 ++ "=" ++ given.2

/-- The variable that it gives. -/
def assigned (given : String × String) : String × Value :=
  (trimmed given.1, .ofOutput given.2)

/-- A name that an argument can give a text to. -/
def IsKey (key : String) : Prop :=
  '=' ∉ key.toList ∧ Text.isAllBlank key = false

instance (key : String) : Decidable (IsKey key) :=
  inferInstanceAs (Decidable (_ ∧ _))

theorem assignedVars_eq {givens : List (String × String)} (h : ∀ given ∈ givens, IsKey given.1) :
    assignedVars (givens.map assignment) = .ok (givens.map assigned) := by
  refine mapM_map_of_forall fun given hgiven => ?_
  obtain ⟨hmark, hblank⟩ := h given hgiven
  have hcut : Text.cutAt? ['='] (given.1.toList ++ '=' :: given.2.toList) =
      some (given.1.toList, given.2.toList) := Text.cutAt?_append [] _ hmark
  have hsplit : Text.splitOnce? "=" (assignment given) = some given := by
    simp [Text.splitOnce?, assignment, hcut]
  rw [hsplit]
  simp only [hblank]
  rfl

/-- The text of the last argument for a variable is typed as an output is: all of it is kept but the
blanks around it and the spelling of a whole number.  The run starts with that value, and in the
templates that it renders the text of the value can stand for the name, before the markers for
absent data are replaced. -/
theorem assigned_reaches {front back : List (String × String)} {key raw : String}
    (hkeys : ∀ given ∈ front ++ (key, raw) :: back, IsKey given.1)
    (hlast : ∀ later ∈ back, trimmed later.1 ≠ trimmed key) :
    ∃ vars, assignedVars ((front ++ (key, raw) :: back).map assignment) = .ok vars ∧
      (Table.ofList vars).get? (trimmed key) = some (.ofOutput raw) ∧
      ((Value.ofOutput raw).render = trimmed raw ↔
        ∀ n, fits n = true → Spells n (trimmed raw).toList → toString n = trimmed raw) ∧
      (∀ n, fits n = true → Spells n (trimmed raw).toList →
        (Value.ofOutput raw).render = toString n) ∧
      (∀ (recipe : Recipe) (o : Order), o.vars = vars → trimmed key ≠ "input" →
        (recipe.storeOf o).vars.get? (trimmed key) = some (.ofOutput raw)) ∧
      ∀ s : Store, s.vars.get? (trimmed key) = some (.ofOutput raw) →
        ∀ template nodes, parse template = .ok nodes →
          render s.bindings template = (renderNodes s.bindings none
            (Node.inlineAll (trimmed key) (Value.ofOutput raw).render nodes)).map
              (Text.replaced noValue "false") := by
  have hvars := assignedVars_eq hkeys
  have hlater : ∀ e ∈ back.map assigned, e.1 ≠ trimmed key := by
    intro e he
    obtain ⟨later, hlater, rfl⟩ := List.mem_map.1 he
    exact hlast later hlater
  rw [List.map_append (f := assigned), List.map_cons] at hvars
  exact ⟨_, hvars, Table.get?_setAll_of_last _ hlater, Value.render_ofOutput_eq_iff,
    fun n hfits hspells => Value.render_ofOutput_of_spells hspells hfits,
    fun recipe o ho hinput => recipe.get?_storeOf ho hlater hinput,
    fun s hs template nodes hparse => Template.render_inline (Store.lookup_bindings hs) hparse⟩

/-- Of two arguments for a variable the second one counts, with its text as it is. -/
theorem assigned_reaches_build : ∃ vars,
    assignedVars ["build=old", " build= 1.02 ", "replicas=+3"] = .ok vars ∧
      (Value.ofOutput " 1.02 ").render = "1.02" ∧
      ∀ (recipe : Recipe) (o : Order), o.vars = vars →
        render (recipe.storeOf o).bindings "make \x7b\x7b .build \x7d\x7d" =
          .ok "make 1.02" := by
  have hkeys : ∀ given ∈ [("build", "old")] ++ (" build", " 1.02 ") :: [("replicas", "+3")],
      IsKey given.1 := by decide
  have hlast : ∀ later ∈ [("replicas", "+3")], trimmed later.1 ≠ trimmed " build" := by decide
  obtain ⟨vars, hvars, -, hkept, -, hstart, hrender⟩ := assigned_reaches hkeys hlast
  have hspelled : Decimal.readBounded? (trimmed " 1.02 ").toList = none := by decide
  have htext : (Value.ofOutput " 1.02 ").render = trimmed " 1.02 " := by
    refine hkept.2 fun n hfits hspells => ?_
    rw [Decimal.readBounded?_eq_some_iff.2 ⟨hspells, hfits⟩] at hspelled
    cases hspelled
  have hparse : parse "make \x7b\x7b .build \x7d\x7d" =
      .ok [.text "make ", .action [[.field "build"]]] := by cbv
  refine ⟨vars, hvars, htext, fun recipe o ho => ?_⟩
  have hname : trimmed " build" ≠ "input" := by decide
  rw [hrender _ (hstart recipe o ho hname) _ _ hparse, htext]
  rfl

/-- Zeros before a number are lost, and so is the first of two texts for a variable.  A text that is
the marker for absent data is taken for it, and the variable of the input is not the argument's. -/
theorem assigned_changed :
    (assignedVars ["build=007"] = .ok [("build", .int 7)] ∧
        (Value.int 7).render ≠ trimmed "007") ∧
      (∃ vars, assignedVars ["build=old", "build=new"] = .ok vars ∧
        (Table.ofList vars).get? "build" = some (.str "new")) ∧
      (assignedVars ["note=<no value>"] = .ok [("note", .str "<no value>")] ∧
        ∀ (recipe : Recipe) (o : Order), o.vars = [("note", .str "<no value>")] →
          render (recipe.storeOf o).bindings "echo \x7b\x7b .note \x7d\x7d" =
            .ok "echo false") ∧
      (assignedVars ["input=mine"] = .ok [("input", .str "mine")] ∧
        ∀ (recipe : Recipe) (o : Order), o.vars = [("input", .str "mine")] →
          (recipe.storeOf o).vars.get? "input" = some (.str o.input)) := by
  refine ⟨⟨rfl, by decide⟩, ⟨_, rfl, rfl⟩, ⟨rfl, fun recipe o ho => ?_⟩, rfl,
    fun recipe o _ => ?_⟩
  · have hparse : parse "echo \x7b\x7b .note \x7d\x7d" =
        .ok [.text "echo ", .action [[.field "note"]]] := by cbv
    have hvars : o.vars = [] ++ ("note", .str "<no value>") :: [] := ho
    have hstart : (recipe.storeOf o).vars.get? "note" = some (.str "<no value>") :=
      recipe.get?_storeOf hvars (List.forall_mem_nil _) (by decide)
    rw [Template.render_inline (Store.lookup_bindings hstart) hparse]
    rfl
  · exact Table.get?_set_self _ _ _

end CommandLine

end RecipeRunner
