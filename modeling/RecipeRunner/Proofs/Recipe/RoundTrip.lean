import RecipeRunner.Proofs.Document.Record
import RecipeRunner.Recipe.Document
/-!
# Operations written and read

What an operation is written as reads back as the same operation, if the operation can be read from
a document at all.  Names of loops are never empty then, numbers fit, and nothing is a copy step.

* `slots`: what each kind of record holds in each of its fields.
* `Value.Fits`, `ControlFlow.IsNamed`, `PromptSpec.Fits`, `Operation.IsRead`: what is read from
  documents.
* `Operation.ofDocumentWithin_toDocument`: operations of that form read back, at any depth.
* `Operation.ofDocument_toDocument_of_eq_ok`: so do all operations that have been read.
-/

namespace RecipeRunner

namespace Document

/-- What a text field holds. -/
def textSlot (s : String) : Option Document :=
  if s.isEmpty then none else some (.str s)

/-- What a list field holds. -/
def itemsSlot (items : List Document) : Option Document :=
  if items.isEmpty then none else some (.seq items)

/-- The entry of a field that may be left out. -/
def slotEntry (name : String) : Option Document → List (Document × Document)
  | some d => entry name d
  | none => []

@[simp]
theorem slotEntry_none (name : String) : slotEntry name none = [] := rfl

theorem record_eq (slots : List (String × Option Document)) :
    record slots = .map (slots.flatMap fun slot => slotEntry slot.1 slot.2) := by
  rw [record]
  congr 1
  induction slots with
  | nil => rfl
  | cons slot rest ih =>
    obtain ⟨name, _ | d⟩ := slot
    · simpa [slotEntry] using ih
    · simpa [slotEntry, entry] using ih

theorem entry_eq (name : String) (d : Document) : entry name d = slotEntry name (some d) := rfl

theorem textEntry_eq (name s : String) : textEntry name s = slotEntry name (textSlot s) := by
  unfold textEntry textSlot
  split <;> rfl

theorem itemsEntry_eq (name : String) (items : List Document) :
    itemsEntry name items = slotEntry name (itemsSlot items) := by
  unfold itemsEntry itemsSlot
  split <;> rfl

theorem elim_textSlot (s : String) : (textSlot s).elim (.ok "") asText = .ok s := by
  unfold textSlot
  split
  · next h => rw [String.isEmpty_iff.1 h]; rfl
  · rfl

theorem elim_itemsSlot {α : Type} {encode : α → Document} {decode : Document → Decoded α}
    {items : List α} (h : ∀ item ∈ items, decode (encode item) = .ok item) :
    (itemsSlot (items.map encode)).elim (.ok []) (fun d => do (← d.asItems).mapM decode) =
      .ok items := by
  cases items with
  | nil => rfl
  | cons item rest => exact mapM_map_eq_ok h

end Document

open Document (mapM_map_eq_ok asFields_record field_entriesOf field?_entriesOf elim_itemsSlot
  elim_textSlot field?_eq_ok forall_mem_of_field)

namespace Value

/-- A whole number is one that variables hold. -/
def Fits : Value → Prop
  | .int n => Decimal.fits n = true
  | _ => True

theorem fits_of_ofDocument {d : Document} {v : Value} (h : ofDocument d = .ok v) : v.Fits := by
  cases d with
  | null | map => cases h
  | bool | float | str => cases h; trivial
  | int n =>
    cases h
    by_cases hfits : Decimal.fits n = true
    · simp [hfits, Fits]
    · simp [hfits, Fits]
  | seq items =>
    obtain ⟨texts, _, rfl⟩ := map_eq_ok.1 h
    trivial

theorem ofDocument_toDocument {v : Value} (h : v.Fits) : ofDocument v.toDocument = .ok v := by
  cases v with
  | bool | float | str => rfl
  | int n => simp [toDocument, ofDocument, show Decimal.fits n = true from h]
  | list items =>
    exact map_eq_ok.2 ⟨items, mapM_map_eq_ok fun _ _ => rfl, rfl⟩

theorem toDocument_ne_null (v : Value) : v.toDocument ≠ .null := by
  cases v <;> exact Document.noConfusion

end Value

namespace PromptSpec

/-- What the fields of a prompt hold. -/
def slots (spec : PromptSpec) : List (String × Option Document) :=
  [("id", some (.str spec.id)), ("name", some (.str spec.name)),
   ("type", some (.str spec.kind.name)), ("message", some (.str spec.message)),
   ("default", spec.fallback.map Value.toDocument),
   ("options", Document.itemsSlot (spec.options.map .str))]

theorem toDocument_eq (spec : PromptSpec) : spec.toDocument = .record spec.slots := by
  obtain ⟨id, name, kind, message, fallback, options⟩ := spec
  cases fallback <;>
    simp [toDocument, Document.record_eq, slots, Document.entry_eq, Document.itemsEntry_eq]

/-- The number that a prompt falls back on is one that variables hold. -/
def Fits (spec : PromptSpec) : Prop :=
  ∀ v ∈ spec.fallback, v.Fits

theorem ofDocument_toDocument {spec : PromptSpec} (h : spec.Fits) :
    ofDocument spec.toDocument = .ok spec := by
  have hnames : (spec.slots.map Prod.fst).Nodup := by simp [slots]
  have hkind : Document.asChoice PromptKind.names (.str spec.kind.name) = .ok spec.kind := by
    cases spec.kind <;> rfl
  rw [toDocument_eq]
  refine bind_eq_ok.2 ⟨_, asFields_record rfl (by decide), ?_⟩
  refine bind_eq_ok.2 ⟨spec.id, field_entriesOf hnames rfl rfl, ?_⟩
  refine bind_eq_ok.2 ⟨spec.name, field_entriesOf hnames rfl rfl, ?_⟩
  refine bind_eq_ok.2 ⟨spec.kind, field_entriesOf hnames rfl hkind, ?_⟩
  refine bind_eq_ok.2 ⟨spec.message, field_entriesOf hnames rfl rfl, ?_⟩
  refine bind_eq_ok.2 ⟨spec.fallback, field?_entriesOf hnames rfl fun v hv =>
    ⟨v.toDocument_ne_null, Value.ofDocument_toDocument (h v hv)⟩, ?_⟩
  refine bind_eq_ok.2 ⟨spec.options, field_entriesOf hnames rfl
    (elim_itemsSlot fun _ _ => rfl), ?_⟩
  rfl

theorem fits_of_ofDocument {d : Document} {spec : PromptSpec} (h : ofDocument d = .ok spec) :
    spec.Fits := by
  simp only [ofDocument, bind_eq_ok] at h
  obtain ⟨fields, -, id, -, name, -, kind, -, message, -, fallback, hfallback, options, -, h⟩ := h
  cases h
  intro v hv
  obtain ⟨_, hv⟩ := field?_eq_ok hfallback v hv
  exact Value.fits_of_ofDocument hv

end PromptSpec

namespace ControlFlow

/-- The name that a loop binds is not empty. -/
def IsNamed : ControlFlow → Prop
  | counted _ name _ _ | each _ name _ => name.isEmpty = false
  | whileHolds .. => True

theorem isEmpty_nameOr {other : String} (h : other.isEmpty = false) (name : Option String) :
    (nameOr name other).isEmpty = false := by
  cases name with
  | none => exact h
  | some name =>
    by_cases hname : name.isEmpty = true
    · simpa [nameOr, hname] using h
    · simp [nameOr, hname]

/-- Names that are left out or empty have become names that are not. -/
theorem isNamed_of_ofFields {f : Fields} {flow : ControlFlow} (h : ofFields f = .ok flow) :
    flow.IsNamed := by
  unfold ofFields at h
  split at h
  · obtain ⟨times, -, rfl⟩ := map_eq_ok.1 h
    exact isEmpty_nameOr (by decide) f.indexName
  · split at h
    · cases h
      exact isEmpty_nameOr (by decide) f.elementName
    · split at h
      · cases h
        trivial
      · cases h

theorem isNamed_of_ofDocument {d : Document} {flow : ControlFlow} (h : ofDocument d = .ok flow) :
    flow.IsNamed := by
  obtain ⟨f, -, h⟩ := bind_eq_ok.1 h
  split at h
  · next flow' hflow =>
    cases h
    exact isNamed_of_ofFields hflow
  · cases h

/-- What a loop gives for its fields; the fields of other loops are left out. -/
def fields : ControlFlow → Fields
  | counted times name progress progressBar =>
    { kind := "for", count := some (.str times), indexName := some name, progress, progressBar }
  | each collection name progress =>
    { kind := "foreach", collection := some collection, elementName := some name, progress }
  | whileHolds condition progress =>
    { kind := "while", condition := some condition, progress }

theorem Fields.ofDocument_toDocument (flow : ControlFlow) :
    ofDocument flow.toDocument = .ok flow.fields := by
  cases flow <;> rfl

theorem ofFields_fields {flow : ControlFlow} (h : flow.IsNamed) :
    ofFields flow.fields = .ok flow := by
  cases flow with
  | counted times name =>
    simp [fields, ofFields, countTemplate?, nameOr, Except.map, show name.isEmpty = false from h]
  | each collection name =>
    simp [fields, ofFields, nameOr, show name.isEmpty = false from h]
  | whileHolds => rfl

theorem ofDocument_toDocument {flow : ControlFlow} (h : flow.IsNamed) :
    ofDocument flow.toDocument = .ok flow := by
  refine bind_eq_ok.2 ⟨_, Fields.ofDocument_toDocument flow, ?_⟩
  rw [ofFields_fields h]
  rfl

theorem toDocument_ne_null (flow : ControlFlow) : flow.toDocument ≠ .null :=
  Document.noConfusion

end ControlFlow

namespace Operation

theorem toDocuments_eq (ops : List Operation) : toDocuments ops = ops.map toDocument := by
  induction ops with
  | nil => rfl
  | cons op rest ih => rw [toDocuments, ih, List.map_cons]

/-- What the fields of an operation hold. -/
def slots (op : Operation) : List (String × Option Document) :=
  [("name", some (.str op.name)), ("id", Document.textSlot op.id),
   ("command", Document.textSlot op.command),
   ("control_flow", op.controlFlow.map ControlFlow.toDocument),
   ("operations", Document.itemsSlot (op.operations.map toDocument)),
   ("execution_mode", some (.str op.mode.name)), ("output_format", some (.str op.format.name)),
   ("silent", some (.bool op.isSilent)), ("condition", Document.textSlot op.condition),
   ("on_success", Document.textSlot op.onSuccess), ("on_failure", Document.textSlot op.onFailure),
   ("transform", Document.textSlot op.transform),
   ("prompts", Document.itemsSlot (op.prompts.map PromptSpec.toDocument)),
   ("break", some (.bool op.breaksLoop)), ("exit", some (.bool op.exitsRecipe)),
   ("uses", Document.textSlot op.uses)]

theorem toDocument_eq (op : Operation) : op.toDocument = .record op.slots := by
  obtain ⟨name, id, command, controlFlow, operations, mode, format, isSilent, condition, onSuccess,
    onFailure, transform, prompts, breaksLoop, exitsRecipe, uses, copyFrom⟩ := op
  cases controlFlow with
  | none | some =>
    simp only [toDocument, Document.record_eq, slots, Document.entry_eq, Document.itemsEntry_eq,
      Document.textEntry_eq, toDocuments_eq, List.flatMap_cons, List.flatMap_nil,
      List.append_assoc, List.append_nil]
    rfl

/-- What documents describe: no copy steps, but loops with names and prompts whose numbers fit, at
any depth. -/
inductive IsRead : Operation → Prop
  | mk {op : Operation} : op.copyFrom = none → (∀ flow ∈ op.controlFlow, flow.IsNamed) →
    (∀ child ∈ op.operations, IsRead child) → (∀ spec ∈ op.prompts, spec.Fits) → IsRead op

theorem isRead_of_ofDocumentWithin {fuel : Nat} {d : Document} {op : Operation}
    (h : ofDocumentWithin fuel d = .ok op) : op.IsRead := by
  induction fuel generalizing d op with
  | zero => cases h
  | succ fuel ih =>
    simp only [ofDocumentWithin, bind_eq_ok] at h
    obtain ⟨fields, -, name, -, id, -, command, -, flow, hflow, operations, hoperations, mode, -,
      format, -, silent, -, condition, -, success, -, failure, -, transform, -, prompts, hprompts,
      breaks, -, exits, -, uses, -, h⟩ := h
    cases h
    refine .mk rfl (fun f hf => ?_) (fun child hchild => ?_) (fun spec hspec => ?_)
    · obtain ⟨_, hread⟩ := field?_eq_ok hflow f hf
      exact ControlFlow.isNamed_of_ofDocument hread
    · obtain ⟨_, hread⟩ := forall_mem_of_field hoperations child hchild
      exact ih hread
    · obtain ⟨_, hread⟩ := forall_mem_of_field hprompts spec hspec
      exact PromptSpec.fits_of_ofDocument hread

/-- An operation inside another one is written less deep. -/
theorem depth_lt_of_mem {op child : Operation} (h : child ∈ op.operations) :
    child.toDocument.depth < op.toDocument.depth := by
  have hseq : Document.itemsSlot (op.operations.map toDocument) =
      some (.seq (op.operations.map toDocument)) := by
    rw [Document.itemsSlot, if_neg]
    simpa using List.ne_nil_of_mem h
  have hslot : ("operations", some (.seq (op.operations.map toDocument))) ∈ op.slots := by
    simp [slots, hseq]
  rw [toDocument_eq op]
  exact Nat.lt_trans (Document.depth_lt_seq (List.mem_map_of_mem h))
    (Document.depth_lt_record hslot)

/-- Operations of the form that is read from documents are what is read back from them. -/
theorem ofDocumentWithin_toDocument {fuel : Nat} {op : Operation} (h : op.IsRead)
    (hdepth : op.toDocument.depth < fuel) : ofDocumentWithin fuel op.toDocument = .ok op := by
  induction fuel generalizing op with
  | zero => exact absurd hdepth (Nat.not_lt_zero _)
  | succ fuel ih =>
    obtain ⟨hcopy, hflow, hoperations, hprompts⟩ := h
    have hchildren : ∀ child ∈ op.operations,
        ofDocumentWithin fuel child.toDocument = .ok child := fun child hchild =>
      ih (hoperations child hchild) (by have := depth_lt_of_mem hchild; omega)
    have hnames : (op.slots.map Prod.fst).Nodup := by simp [slots]
    have hmode : Document.asChoice ExecutionMode.names (.str op.mode.name) = .ok op.mode := by
      cases op.mode <;> rfl
    have hformat : Document.asChoice OutputFormat.names (.str op.format.name) = .ok op.format := by
      cases op.format <;> rfl
    rw [toDocument_eq]
    refine bind_eq_ok.2 ⟨_, asFields_record rfl (by decide), ?_⟩
    refine bind_eq_ok.2 ⟨op.name, field_entriesOf hnames rfl rfl, ?_⟩
    refine bind_eq_ok.2 ⟨op.id, field_entriesOf hnames rfl (elim_textSlot _), ?_⟩
    refine bind_eq_ok.2 ⟨op.command, field_entriesOf hnames rfl (elim_textSlot _), ?_⟩
    refine bind_eq_ok.2 ⟨op.controlFlow, field?_entriesOf hnames rfl fun flow hmem =>
      ⟨flow.toDocument_ne_null, ControlFlow.ofDocument_toDocument (hflow flow hmem)⟩, ?_⟩
    refine bind_eq_ok.2 ⟨op.operations, field_entriesOf hnames rfl (elim_itemsSlot hchildren), ?_⟩
    refine bind_eq_ok.2 ⟨op.mode, field_entriesOf hnames rfl hmode, ?_⟩
    refine bind_eq_ok.2 ⟨op.format, field_entriesOf hnames rfl hformat, ?_⟩
    refine bind_eq_ok.2 ⟨op.isSilent, field_entriesOf hnames rfl rfl, ?_⟩
    refine bind_eq_ok.2 ⟨op.condition, field_entriesOf hnames rfl (elim_textSlot _), ?_⟩
    refine bind_eq_ok.2 ⟨op.onSuccess, field_entriesOf hnames rfl (elim_textSlot _), ?_⟩
    refine bind_eq_ok.2 ⟨op.onFailure, field_entriesOf hnames rfl (elim_textSlot _), ?_⟩
    refine bind_eq_ok.2 ⟨op.transform, field_entriesOf hnames rfl (elim_textSlot _), ?_⟩
    refine bind_eq_ok.2 ⟨op.prompts, field_entriesOf hnames rfl (elim_itemsSlot fun spec hmem =>
      PromptSpec.ofDocument_toDocument (hprompts spec hmem)), ?_⟩
    refine bind_eq_ok.2 ⟨op.breaksLoop, field_entriesOf hnames rfl rfl, ?_⟩
    refine bind_eq_ok.2 ⟨op.exitsRecipe, field_entriesOf hnames rfl rfl, ?_⟩
    refine bind_eq_ok.2 ⟨op.uses, field_entriesOf hnames rfl (elim_textSlot _), ?_⟩
    cases op
    cases hcopy
    rfl

/-- An operation that has been read from a document is read back from what it is written as. -/
theorem ofDocument_toDocument_of_eq_ok {d : Document} {op : Operation}
    (h : ofDocument d = .ok op) : ofDocument op.toDocument = .ok op :=
  ofDocumentWithin_toDocument (isRead_of_ofDocumentWithin h) (Nat.lt_succ_self _)

/-- A loop with a prompt in it, with most of its fields left out. -/
def loopDocument : Document :=
  .map [(.str "id", .str "loop"),
    (.str "control_flow", .map [(.str "type", .str "for"), (.str "count", .int 3),
      (.str "progress_bar", .bool true)]),
    (.str "operations", .seq [.map [(.str "command", .str "true"),
      (.str "prompts", .seq [.map [(.str "id", .str "n"), (.str "type", .str "number"),
        (.str "default", .int 5)]])]])]

/-- What the loop is read as. -/
def loopRead : Operation :=
  { id := "loop"
    controlFlow := some (.counted "3" "i" false true)
    operations :=
      [{ command := "true"
         prompts := [{ id := "n", kind := .number, fallback := some (.int 5) }] }] }

theorem loopRead_reads_back :
    ofDocument loopDocument = .ok loopRead ∧ ofDocument loopRead.toDocument = .ok loopRead :=
  have h : ofDocument loopDocument = .ok loopRead := by rfl
  ⟨h, ofDocument_toDocument_of_eq_ok h⟩

end Operation

end RecipeRunner
