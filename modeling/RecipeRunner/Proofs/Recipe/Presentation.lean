import RecipeRunner.Proofs.Recipe.Handlers
/-!
# Operations without their presentation

Whether the output of an operation is suppressed, and how a loop draws its progress, is how a run is
presented.  Operations that differ in nothing else are expanded to operations that differ in nothing
else, and handlers refer to such operations.

* `Operation.plain`: an operation without its presentation.
* `Expansion.agree_expandWithin`: expansion does not look at presentation.
* `Operation.map_plain_handlers`: nor do the names of handlers.
-/

namespace RecipeRunner

/-- A loop without its presentation. -/
def ControlFlow.plain : ControlFlow → ControlFlow
  | counted times name _ _ => counted times name false false
  | each collection name _ => each collection name false
  | whileHolds condition _ => whileHolds condition false

namespace Operation

mutual

/-- An operation and those inside it without their presentation. -/
def plain : Operation → Operation
  | op@{ operations, .. } =>
    { op with
      isSilent := false
      controlFlow := op.controlFlow.map ControlFlow.plain
      operations := plainAll operations }

/-- Operations without their presentation. -/
def plainAll : List Operation → List Operation
  | [] => []
  | op :: rest => op.plain :: plainAll rest

end

theorem plain_eq (op : Operation) : op.plain =
    { op with
      isSilent := false
      controlFlow := op.controlFlow.map ControlFlow.plain
      operations := plainAll op.operations } := by
  cases op
  rw [plain]

theorem plainAll_eq_map (ops : List Operation) : plainAll ops = ops.map plain := by
  induction ops with
  | nil => rfl
  | cons op ops ih => rw [plainAll, ih, List.map_cons]

theorem plainAll_append (ops others : List Operation) :
    plainAll (ops ++ others) = plainAll ops ++ plainAll others := by
  rw [plainAll_eq_map, plainAll_eq_map, plainAll_eq_map, List.map_append]

/-- What operations have in common that differ only in their presentation. -/
structure SameAct (op op' : Operation) : Prop where
  name : op'.name = op.name
  id : op'.id = op.id
  command : op'.command = op.command
  controlFlow : op'.controlFlow.map ControlFlow.plain = op.controlFlow.map ControlFlow.plain
  operations : plainAll op'.operations = plainAll op.operations
  mode : op'.mode = op.mode
  format : op'.format = op.format
  condition : op'.condition = op.condition
  onSuccess : op'.onSuccess = op.onSuccess
  onFailure : op'.onFailure = op.onFailure
  transform : op'.transform = op.transform
  prompts : op'.prompts = op.prompts
  breaksLoop : op'.breaksLoop = op.breaksLoop
  exitsRecipe : op'.exitsRecipe = op.exitsRecipe
  uses : op'.uses = op.uses
  copyFrom : op'.copyFrom = op.copyFrom

theorem plain_eq_iff {op op' : Operation} : op'.plain = op.plain ↔ SameAct op op' := by
  rw [plain_eq, plain_eq]
  constructor
  · intro h
    simp only [Operation.mk.injEq] at h
    obtain ⟨h1, h2, h3, h4, h5, h6, h7, -, h8, h9, h10, h11, h12, h13, h14, h15, h16⟩ := h
    exact ⟨h1, h2, h3, h4, h5, h6, h7, h8, h9, h10, h11, h12, h13, h14, h15, h16⟩
  · intro h
    simp only [Operation.mk.injEq]
    exact ⟨h.name, h.id, h.command, h.controlFlow, h.operations, h.mode, h.format, trivial,
      h.condition, h.onSuccess, h.onFailure, h.transform, h.prompts, h.breaksLoop, h.exitsRecipe,
      h.uses, h.copyFrom⟩

end Operation

/-- A component without the presentation of its operations. -/
def Component.plain (c : Component) : Component :=
  { c with operations := Operation.plainAll c.operations }

/-- A recipe without the presentation of its operations. -/
def Recipe.plain (recipe : Recipe) : Recipe :=
  { recipe with operations := Operation.plainAll recipe.operations }

/-! ## Expansion -/

namespace Operation

variable {op op' ref ref' : Operation} {ops ops' : List Operation}

theorem plain_guardedBy (hop : op'.plain = op.plain) (href : ref'.plain = ref.plain) :
    (op'.guardedBy ref').plain = (op.guardedBy ref).plain := by
  have h := plain_eq_iff.1 hop
  have hcondition := (plain_eq_iff.1 href).condition
  refine plain_eq_iff.2 { h with condition := ?_ }
  rw [condition_guardedBy, condition_guardedBy, hcondition, h.condition]

theorem plainAll_guardedBy (hops : plainAll ops' = plainAll ops) (href : ref'.plain = ref.plain) :
    plainAll (ops'.map (·.guardedBy ref')) = plainAll (ops.map (·.guardedBy ref)) := by
  induction ops generalizing ops' with
  | nil =>
    cases ops' with
    | nil => rfl
    | cons op' ops' => cases hops
  | cons op ops ih =>
    cases ops' with
    | nil => cases hops
    | cons op' ops' =>
      obtain ⟨hop, hrest⟩ := List.cons.inj hops
      exact congrArg₂ List.cons (plain_guardedBy hop href) (ih hrest)

theorem plain_takeFailureHandler (hop : op'.plain = op.plain) (href : ref'.plain = ref.plain) :
    (op'.takeFailureHandler ref').plain = (op.takeFailureHandler ref).plain := by
  have h := plain_eq_iff.1 hop
  have hfailure := (plain_eq_iff.1 href).onFailure
  rw [takeFailureHandler_eq, takeFailureHandler_eq, hfailure, h.onFailure]
  exact plain_eq_iff.2 { h with onFailure := rfl }

theorem plain_takeSignals (hop : op'.plain = op.plain) (href : ref'.plain = ref.plain) :
    (op'.takeSignals ref').plain = (op.takeSignals ref).plain := by
  have h := plain_eq_iff.1 hop
  have h' := plain_eq_iff.1 href
  rw [takeSignals, takeSignals, h.breaksLoop, h.exitsRecipe, h.onSuccess, h'.breaksLoop,
    h'.exitsRecipe, h'.onSuccess]
  exact plain_eq_iff.2 { h with breaksLoop := rfl, exitsRecipe := rfl, onSuccess := rfl }

theorem plain_copyStep (href : ref'.plain = ref.plain) (source : String) :
    (copyStep ref' source).plain = (copyStep ref source).plain := by
  have h := plain_eq_iff.1 href
  rw [copyStep, copyStep, h.name, h.id, h.condition]

theorem plainAll_endFor (hop : op'.plain = op.plain) (href : ref'.plain = ref.plain) :
    plainAll (endFor ref' op') = plainAll (endFor ref op) := by
  have hlast := plain_takeFailureHandler hop href
  have hid := (plain_eq_iff.1 href).id
  unfold endFor
  dsimp only
  rw [(plain_eq_iff.1 hlast).id, hid]
  split
  · exact congrArg (fun last => [last]) (plain_takeSignals hlast href)
  · split
    · refine congrArg (fun last => [last]) (plain_takeSignals ?_ href)
      exact plain_eq_iff.2 { plain_eq_iff.1 hlast with id := rfl }
    · simp only [plainAll, hlast, plain_takeSignals (plain_copyStep href _) href]

theorem plainAll_settle (hops : plainAll ops' = plainAll ops) (href : ref'.plain = ref.plain) :
    plainAll (settle ref' ops') = plainAll (settle ref ops) := by
  rw [plainAll_eq_map, plainAll_eq_map] at hops
  rcases List.eq_nil_or_concat ops with rfl | ⟨front, last, rfl⟩
  · rw [List.map_eq_nil_iff.1 hops]
    rfl
  · rw [List.concat_eq_append, List.map_append] at hops
    obtain ⟨front', back', rfl, hfront, hback⟩ := List.map_eq_append_iff.1 hops
    obtain ⟨last', rfl, hlast⟩ := List.map_eq_singleton_iff.1 hback
    rw [List.concat_eq_append, settle_append, settle_append, plainAll_append, plainAll_append,
      plainAll_endFor hlast href, plainAll_eq_map front', hfront, plainAll_eq_map front]

end Operation

namespace Expansion

open Operation (plainAll plain_eq_iff)

variable {registry registry' : Registry}

/-- Expansions that fail alike or come to operations that differ only in their presentation. -/
def Agree (x y : Except Error (List Operation)) : Prop :=
  y.map plainAll = x.map plainAll

theorem Agree.error_iff {x y : Except Error (List Operation)} (h : Agree x y) {e : Error} :
    y = .error e ↔ x = .error e := by
  cases x with
  | error e' =>
    cases y with
    | error e'' =>
      obtain rfl := Except.error.inj h
      exact Iff.rfl
    | ok ops' => cases h
  | ok ops =>
    cases y with
    | error e' => cases h
    | ok ops' => exact ⟨nofun, nofun⟩

theorem Agree.plainAll_eq {ops ops' : List Operation} (h : Agree (.ok ops) (.ok ops')) :
    plainAll ops' = plainAll ops :=
  Except.ok.inj h

theorem Agree.map {x y : Except Error (List Operation)} (h : Agree x y)
    {f g : List Operation → List Operation}
    (hfg : ∀ {ops ops'}, plainAll ops' = plainAll ops → plainAll (g ops') = plainAll (f ops)) :
    Agree (x.map f) (y.map g) := by
  cases x with
  | error e =>
    cases y with
    | error e' => exact h
    | ok ops' => cases h
  | ok ops =>
    cases y with
    | error e' => cases h
    | ok ops' => exact congrArg Except.ok (hfg (Except.ok.inj h))

theorem Agree.append {x x' y y' : Except Error (List Operation)} (h : Agree x y)
    (h' : Agree x' y') :
    Agree (do return (← x) ++ (← x')) (do return (← y) ++ (← y')) := by
  cases x with
  | error e =>
    cases y with
    | error e' => exact h
    | ok ops' => cases h
  | ok ops =>
    cases y with
    | error e' => cases h
    | ok ops' =>
      refine h'.map fun {others others'} hothers => ?_
      rw [Operation.plainAll_append, Operation.plainAll_append, hothers, Except.ok.inj h]

theorem agree_expandEach {expand expand' : Operation → Except Error (List Operation)}
    (h : ∀ {op op'}, op'.plain = op.plain → Agree (expand op) (expand' op'))
    {ops ops' : List Operation} (hops : plainAll ops' = plainAll ops) :
    Agree (expandEach expand ops) (expandEach expand' ops') := by
  induction ops generalizing ops' with
  | nil =>
    cases ops' with
    | nil => rfl
    | cons op' ops' => cases hops
  | cons op ops ih =>
    cases ops' with
    | nil => cases hops
    | cons op' ops' =>
      obtain ⟨hop, hrest⟩ := List.cons.inj hops
      exact (h hop).append (ih hrest)

variable (hregistry : ∀ id, (registry'.get? id).map Component.plain =
  (registry.get? id).map Component.plain)

include hregistry

theorem agree_expandOne {inner inner' : List Operation → Except Error (List Operation)}
    (h : ∀ {ops ops'}, plainAll ops' = plainAll ops → Agree (inner ops) (inner' ops'))
    {op op' : Operation} (hop : op'.plain = op.plain) :
    Agree (expandOne registry inner op) (expandOne registry' inner' op') := by
  have hsame := plain_eq_iff.1 hop
  have hempty : op'.operations.isEmpty = op.operations.isEmpty := by
    have hlength := congrArg List.isEmpty hsame.operations
    simpa only [Operation.plainAll_eq_map, List.isEmpty_map] using hlength
  unfold expandOne
  rw [hsame.uses, hempty]
  split
  · split
    · exact congrArg (fun op => Except.ok [op]) hop
    · refine (h hsame.operations).map fun hchildren => ?_
      refine congrArg (fun op => [op]) (plain_eq_iff.2 ?_)
      exact { hsame with operations := hchildren, uses := rfl }
  · have hcomponent := hregistry op.uses
    cases hfound : registry.get? op.uses with
    | none =>
      rw [hfound, Option.map_none, Option.map_eq_none_iff] at hcomponent
      rw [hcomponent]
      rfl
    | some component =>
      rw [hfound] at hcomponent
      obtain ⟨component', hfound', hplain⟩ := Option.map_eq_some_iff.1 hcomponent
      rw [hfound']
      have hoperations : plainAll component'.operations = plainAll component.operations :=
        congrArg Component.operations hplain
      have hguarded : plainAll (component'.operations.map (·.guardedBy op')) =
          plainAll (component.operations.map (·.guardedBy op)) :=
        Operation.plainAll_guardedBy hoperations hop
      exact (h hguarded).map fun hbody => Operation.plainAll_settle hbody hop

/-- Operations that differ only in their presentation are expanded to such operations, or their
expansions fail alike. -/
theorem agree_expandWithin (room : Nat) {ops ops' : List Operation}
    (hops : plainAll ops' = plainAll ops) :
    Agree (expandWithin registry room ops) (expandWithin registry' room ops') := by
  induction room generalizing ops ops' with
  | zero => rfl
  | succ room ih =>
    exact agree_expandEach (fun hop => agree_expandOne hregistry (fun hops => ih hops) hop) hops

end Expansion

/-! ## Handlers -/

namespace Operation

mutual

theorem preorder_plain : (op : Operation) → preorder op.plain = (preorder op).map plain
  | op@{ operations, .. } => by
    rw [preorder_eq, preorder_eq, List.map_cons, ← preorderIn_plainAll operations, plain_eq]

theorem preorderIn_plainAll : (ops : List Operation) →
    preorderIn (plainAll ops) = (preorderIn ops).map plain
  | [] => rfl
  | op :: rest => by
    rw [plainAll, preorderIn, preorderIn, List.map_append, preorder_plain op,
      preorderIn_plainAll rest]

end

/-- Operations that differ only in their presentation have handlers that do. -/
theorem map_plain_handlers {ops ops' : List Operation} (h : plainAll ops' = plainAll ops)
    (name : String) :
    ((handlers ops').get? name).map plain = ((handlers ops).get? name).map plain := by
  have hplain : ∀ ops, ((handlers ops).get? name).map plain =
      if name.isEmpty then none else (preorderIn (plainAll ops)).reverse.find? (·.id = name) := by
    intro ops
    have hid : ∀ op : Operation, op.plain.id = op.id := fun op => by rw [plain_eq]
    rw [get?_handlers, preorderIn_plainAll, ← List.map_reverse, List.find?_map]
    simp only [Function.comp_def, hid]
    split <;> rfl
  rw [hplain, hplain, h]

end Operation

end RecipeRunner
