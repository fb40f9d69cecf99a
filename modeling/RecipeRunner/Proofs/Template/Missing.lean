import RecipeRunner.Proofs.Template.Joining
import Mathlib
/-!
# Missing values

Rendering writes a marker where an action has no value, and at the end replaces every marker in the
text.  It does not know which markers it has written itself, so a marker that stands in a text of
the template or in a value, or comes about where these meet, is replaced as well.  Here a template
is walked into pieces, which keep what is missing apart from what is written as it is.

* `renderNodes_eq`: rendering writes the pieces with markers for what is missing.
* `replaced_written`: a marker that was written is found again, whatever stands around it.
* `rewrites_missing`: what becomes of the pieces in the end.
-/

namespace RecipeRunner.Template

open Text (replaceAll replaced)

/-! ## Pieces -/

/-- What one part of a template writes. -/
inductive Piece where
  /-- A text of the template, or the text of a value. -/
  | verbatim (t : String)
  | missing
  deriving DecidableEq, Repr

namespace Piece

/-- The text of pieces with `mark` for what is missing. -/
def written (mark : String) : List Piece → String
  | [] => ""
  | verbatim t :: rest => t ++ written mark rest
  | missing :: rest => mark ++ written mark rest

/-- The texts before, between and behind what is missing. -/
def stretches : List Piece → List String
  | [] => [""]
  | verbatim t :: rest => (stretches rest).modifyHead (t ++ ·)
  | missing :: rest => "" :: stretches rest

@[simp] theorem written_append (mark : String) (ps qs : List Piece) :
    written mark (ps ++ qs) = written mark ps ++ written mark qs := by
  induction ps with
  | nil => exact String.empty_append.symm
  | cons p ps ih => cases p <;> simp [written, ih, String.append_assoc]

theorem stretches_ne_nil (ps : List Piece) : stretches ps ≠ [] := by
  induction ps with
  | nil => exact List.cons_ne_nil _ _
  | cons p ps ih =>
    cases p with
    | verbatim t => simpa [stretches] using ih
    | missing => exact List.cons_ne_nil _ _

theorem intercalate_modifyHead (mark t : String) {texts : List String} (h : texts ≠ []) :
    mark.intercalate (texts.modifyHead (t ++ ·)) = t ++ mark.intercalate texts := by
  match texts, h with
  | [s], _ => simp
  | s :: s' :: texts, _ => simp [String.append_assoc]

theorem intercalate_cons (mark t : String) {texts : List String} (h : texts ≠ []) :
    mark.intercalate (t :: texts) = t ++ mark ++ mark.intercalate texts := by
  match texts, h with
  | s :: texts, _ => exact String.intercalate_cons_cons

theorem written_eq (mark : String) (ps : List Piece) :
    written mark ps = mark.intercalate (stretches ps) := by
  induction ps with
  | nil => simp [written, stretches]
  | cons p ps ih =>
    cases p with
    | verbatim t => rw [written, stretches, ih, intercalate_modifyHead _ _ (stretches_ne_nil ps)]
    | missing => rw [written, stretches, ih, intercalate_cons _ _ (stretches_ne_nil ps),
        String.empty_append]

end Piece

open Piece

/-! ## Walking -/

/-- The pieces for each element, one after the other. -/
def walkEach (walk : Bindings → Value → Except Error (List Piece)) (b : Bindings) :
    List String → Except Error (List Piece)
  | [] => .ok []
  | x :: rest => do
    let first ← walk (b.part 0) (.str x)
    let others ← walkEach walk (b.part 1) rest
    return first ++ others

mutual

/-- The pieces that a node writes. -/
def walkNode (b : Bindings) (element : Operand) : Node → Except Error (List Piece)
  | .text t => .ok [.verbatim t]
  | .action p => do
    match ← evalPipeline b element p with
    | some v => return [.verbatim v.render]
    | none => return [.missing]
  | .choice branches otherwise => do
    match ← walkBranches (b.part 0) element branches with
    | some pieces => return pieces
    | none => walkNodes (b.part 1) element otherwise
  | .range p body otherwise => do
    let items := match ← evalPipeline (b.part 0) element p with
      | some v => v.toItems
      | none => []
    if items.isEmpty then walkNodes (b.part 1) element otherwise
    else walkEach (fun b x => walkNodes b (some x) body) (b.part 1) items

/-- The pieces of the first branch whose condition holds, if one does. -/
def walkBranches (b : Bindings) (element : Operand) :
    List (Pipeline × List Node) → Except Error (Option (List Piece))
  | [] => .ok none
  | (condition, body) :: rest => do
    if (← evalPipeline (b.part 0) element condition).isTruthy then
      return some (← walkNodes (b.part 1) element body)
    else walkBranches (b.part 1) element rest

/-- The pieces that nodes write, one after the other. -/
def walkNodes (b : Bindings) (element : Operand) : List Node → Except Error (List Piece)
  | [] => .ok []
  | node :: rest => do
    let first ← walkNode (b.part 0) element node
    let others ← walkNodes (b.part 1) element rest
    return first ++ others

end

/-- The pieces that a template writes. -/
def walk (b : Bindings) (template : String) : Except Error (List Piece) :=
  match parse template with
  | .error fault => .error (.templateSyntax fault)
  | .ok nodes => walkNodes b none nodes

theorem writeEach_eq {write : Bindings → Value → Except Error String}
    {pieces : Bindings → Value → Except Error (List Piece)}
    (h : ∀ b v, write b v = written noValue <$> pieces b v) (b : Bindings) (items : List String) :
    writeEach write b items = written noValue <$> walkEach pieces b items := by
  induction items generalizing b with
  | nil => rfl
  | cons x items ih => simp [writeEach, walkEach, h, ih, map_bind]

mutual

theorem renderNode_eq (b : Bindings) (element : Operand) : (node : Node) →
    renderNode b element node = written noValue <$> walkNode b element node
  | .text t => by
    rw [renderNode, walkNode]
    exact congrArg Except.ok String.append_empty.symm
  | .action p => by
    rw [renderNode, walkNode, map_bind]
    congr 1
    funext o
    cases o <;> simp [written]
  | .choice branches otherwise => by
    rw [renderNode, walkNode, map_bind, renderBranches_eq (b.part 0) element branches,
      bind_map_left]
    congr 1
    funext o
    cases o with
    | some pieces => rfl
    | none => exact renderNodes_eq (b.part 1) element otherwise
  | .range p body otherwise => by
    rw [renderNode, walkNode, map_bind]
    congr 1
    funext o
    have hbody := fun b x => renderNodes_eq b (some x) body
    simp only [writeEach_eq hbody, renderNodes_eq (b.part 1) element otherwise]
    exact (apply_ite (written noValue <$> ·) _ _ _).symm

theorem renderBranches_eq (b : Bindings) (element : Operand) :
    (branches : List (Pipeline × List Node)) →
      renderBranches b element branches =
        Option.map (written noValue) <$> walkBranches b element branches
  | [] => rfl
  | (condition, body) :: rest => by
    rw [renderBranches, walkBranches, map_bind]
    congr 1
    funext o
    split
    · simp [renderNodes_eq (b.part 1) element body]
    · exact renderBranches_eq (b.part 1) element rest

/-- Rendering writes the pieces with markers for what is missing. -/
theorem renderNodes_eq (b : Bindings) (element : Operand) : (nodes : List Node) →
    renderNodes b element nodes = written noValue <$> walkNodes b element nodes
  | [] => rfl
  | node :: rest => by
    rw [renderNodes, walkNodes]
    simp [renderNode_eq (b.part 0) element node, renderNodes_eq (b.part 1) element rest, map_bind]

end

/-! ## Templates without actions -/

theorem parse_of_not_hasTemplate {template : String} (h : hasTemplate template = false) :
    parse template = .ok (if template = "" then [] else [.text template]) := by
  have hsource : Source.ofChars template.toList = .text template.toList :=
    Source.ofChars_of_none (by simpa [hasTemplate, Text.occursIn] using h)
  rw [parse, items, hsource, Item.ofSource, Item.ofText]
  by_cases hempty : template = ""
  · subst hempty
    rfl
  · simp [hempty, bind, Except.bind, Node.ofItems, Node.read]

theorem walk_of_not_hasTemplate (b : Bindings) {template : String}
    (h : hasTemplate template = false) :
    ∃ ps, walk b template = .ok ps ∧ stretches ps = [template] := by
  rw [walk, parse_of_not_hasTemplate h]
  by_cases hempty : template = ""
  · subst hempty
    exact ⟨[], rfl, rfl⟩
  · rw [if_neg hempty]
    refine ⟨[.verbatim template], rfl, ?_⟩
    simp [stretches]

theorem renderRaw_eq (b : Bindings) (template : String) :
    renderRaw b template = written noValue <$> walk b template := by
  rw [renderRaw]
  split
  · rw [walk]
    cases parse template with
    | error fault => rfl
    | ok nodes => exact renderNodes_eq b none nodes
  · next h =>
    obtain ⟨ps, hwalk, hps⟩ := walk_of_not_hasTemplate b (Bool.not_eq_true _ ▸ h)
    rw [hwalk]
    exact congrArg Except.ok (by rw [written_eq, hps, String.intercalate_singleton])

/-! ## Markers -/

theorem replaced_append_noValue (substitute text rest : String) :
    replaced noValue substitute (text ++ noValue ++ rest) =
      replaced noValue substitute text ++ substitute ++ replaced noValue substitute rest := by
  have hmark := Text.replaceAll_append_mark (a := '<') (by decide : '<' ∉ "no value>".toList)
    substitute.toList text.toList rest.toList
  apply String.toList_injective
  simpa [replaced, noValue] using hmark

/-- A marker that was written is found again, whatever stands around it. -/
theorem replaced_written (substitute : String) (ps : List Piece) :
    replaced noValue substitute (written noValue ps) =
      substitute.intercalate ((stretches ps).map (replaced noValue substitute)) := by
  rw [written_eq]
  generalize stretches ps = texts
  induction texts with
  | nil => rfl
  | cons t texts ih =>
    match texts with
    | [] => simp
    | s :: texts =>
      rw [intercalate_cons _ _ (List.cons_ne_nil _ _), replaced_append_noValue, ih]
      simp [intercalate_cons, String.append_assoc]

theorem length_replaced_noValue (t : String) :
    (replaced noValue "false" t).length ≤ t.length ∧
      (replaced noValue "false" t = t ↔ Text.contains noValue t = false) := by
  have hshorter : "false".toList.length < noValue.toList.length := by decide
  have h := Text.length_replaceAll_of_lt hshorter t.toList
  rw [← String.toList_inj, ← String.length_toList, ← String.length_toList, Text.contains, replaced,
    String.toList_ofList]
  exact h

/-- The texts between what is missing stay as they are if no marker stands in them, and only then:
a replacement makes a text shorter. -/
theorem intercalate_replaced (texts : List String) :
    ("false".intercalate (texts.map (replaced noValue "false"))).length ≤
        ("false".intercalate texts).length ∧
      ("false".intercalate (texts.map (replaced noValue "false")) = "false".intercalate texts ↔
        ∀ t ∈ texts, Text.contains noValue t = false) := by
  induction texts with
  | nil => simp
  | cons t texts ih =>
    obtain ⟨hlength, hfixed⟩ := length_replaced_noValue t
    match texts with
    | [] => simpa using ⟨hlength, hfixed⟩
    | s :: texts =>
      obtain ⟨hlengths, hrest⟩ := ih
      have hcons := List.cons_ne_nil s texts
      have hmap : (s :: texts).map (replaced noValue "false") ≠ [] := by simp
      rw [List.map_cons, intercalate_cons _ _ hmap, intercalate_cons _ _ hcons,
        List.forall_mem_cons, ← hfixed, ← hrest]
      refine ⟨by simp only [String.length_append]; omega, fun heq => ?_, ?_⟩
      · have hsame : (replaced noValue "false" t).toList.length = t.toList.length := by
          have := congrArg String.length heq
          simp only [String.length_append] at this
          rw [String.length_toList, String.length_toList]
          omega
        simp only [← String.toList_inj, String.toList_append, List.append_assoc] at heq
        obtain ⟨ht, htexts⟩ := List.append_inj heq hsame
        exact ⟨String.toList_inj.1 ht, String.toList_inj.1 (List.append_cancel_left htexts)⟩
      · rintro ⟨ht, htexts⟩
        rw [ht, htexts]

/-! ## Rendering -/

theorem render_eq (b : Bindings) (template : String) :
    render b template = (fun ps =>
      "false".intercalate ((stretches ps).map (replaced noValue "false"))) <$> walk b template := by
  rw [render, renderRaw_eq]
  cases walk b template with
  | error e => rfl
  | ok ps => exact congrArg Except.ok (replaced_written "false" ps)

/-- Rendering writes `false` for what is missing, and what is there as it is but for the markers in
it.  So it writes what the walk writes if no marker stands between two missing values, and a text
without actions stays as it is if no marker stands in it. -/
theorem rewrites_missing {b : Bindings} {template text : String}
    (h : render b template = .ok text) :
    ∃ ps, walk b template = .ok ps ∧
      text = "false".intercalate ((stretches ps).map (replaced noValue "false")) ∧
      (text = written "false" ps ↔ ∀ t ∈ stretches ps, Text.contains noValue t = false) ∧
      (hasTemplate template = false →
        (text = template ↔ Text.contains noValue template = false)) := by
  rw [render_eq] at h
  match hwalk : walk b template with
  | .error e =>
    rw [hwalk] at h
    cases h
  | .ok ps =>
    rw [hwalk] at h
    obtain rfl := Except.ok.inj h
    refine ⟨ps, rfl, rfl, ?_, fun hplain => ?_⟩
    · rw [written_eq]
      exact (intercalate_replaced (stretches ps)).2
    · obtain ⟨qs, hqs, htexts⟩ := walk_of_not_hasTemplate b hplain
      obtain rfl := Except.ok.inj (hwalk.symm.trans hqs)
      dsimp only
      rw [htexts]
      simpa using (length_replaced_noValue template).2

/-- A value that ends a marker which the text before it starts. -/
def seam : Bindings where
  lookup name := if name = "y" then some (.str "value>") else none

/-- The marker at the seam is replaced like the one for the missing value behind it. -/
theorem rewrites_missing_seam :
    render seam "<no \x7b\x7b .y \x7d\x7d\x7b\x7b .z \x7d\x7d" = .ok "falsefalse" ∧
      ∃ ps, walk seam "<no \x7b\x7b .y \x7d\x7d\x7b\x7b .z \x7d\x7d" = .ok ps ∧
        stretches ps = ["<no value>", ""] ∧ "falsefalse" ≠ written "false" ps := by
  have hrender : render seam "<no \x7b\x7b .y \x7d\x7d\x7b\x7b .z \x7d\x7d" = .ok "falsefalse" := by
    cbv
  have hpieces : walk seam "<no \x7b\x7b .y \x7d\x7d\x7b\x7b .z \x7d\x7d" =
      .ok [.verbatim "<no ", .verbatim "value>", .missing] := by
    cbv
  obtain ⟨ps, hwalk, -, hiff, -⟩ := rewrites_missing hrender
  obtain rfl := Except.ok.inj (hpieces.symm.trans hwalk)
  refine ⟨hrender, _, hwalk, rfl, fun heq => ?_⟩
  have hnone := hiff.1 heq "<no value>" (by decide)
  exact absurd hnone (by decide)

/-- A text that reads like the marker is replaced, although nothing is missing. -/
theorem render_noValue :
    hasTemplate "<no value>" = false ∧ walk seam "<no value>" = .ok [.verbatim "<no value>"] ∧
      written "false" [.verbatim "<no value>"] = "<no value>" ∧
      render seam "<no value>" = .ok "false" := by
  refine ⟨by decide, ?_, rfl, rfl⟩
  rw [walk, parse_of_not_hasTemplate (by decide), if_neg (by decide)]
  rfl

end RecipeRunner.Template
