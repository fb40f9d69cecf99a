import RecipeRunner.Proofs.Recipe.Handlers
/-!
# Expansion as unfolding in place

The unfolding of operations has, in place of every reference, the unfolding of its component.  It
says nothing of guards, ids and handlers.  Expansion gives the operations of the unfolding in their
order and with all that they do, and changes nothing else than it has to: roots of a component get
the guards of the references around them, the last operation of a component closes its reference,
and a copy step may follow it.

* `Unfolds`: the unfolding of operations.
* `Closes`, `InPlace`: what expansion makes of an unfolding, field by field.
* `bareIn_of_inPlace`: nothing of what operations do is lost, doubled or moved.
* `expand_in_place`: what is expanded is the unfolding, in place.
-/

namespace RecipeRunner

/-- Operations, and references with what stands in their place. -/
inductive Unfolding where
  | kept (op : Operation) (inside : List Unfolding)
  | inlined (ref : Operation) (body : List Unfolding)

namespace Unfolding

mutual

/-- The operations of an unfolding. -/
def operations : Unfolding → List Operation
  | kept op inside => [{ op with operations := operationsIn inside }]
  | inlined _ body => operationsIn body

/-- The operations of unfoldings in their order. -/
def operationsIn : List Unfolding → List Operation
  | [] => []
  | node :: rest => node.operations ++ operationsIn rest

end

end Unfolding

/-- The unfolding of operations: of each that is no reference with what stands inside it, and of the
component of each reference in its place. -/
inductive Unfolds (registry : Registry) : List Operation → List Unfolding → Prop
  | nil : Unfolds registry [] []
  | kept {op : Operation} {ops : List Operation} {inside rest : List Unfolding} :
    op.uses.isEmpty = true → Unfolds registry op.operations inside → Unfolds registry ops rest →
      Unfolds registry (op :: ops) (.kept op inside :: rest)
  | inlined {ref : Operation} {component : Component} {ops : List Operation}
      {body rest : List Unfolding} :
    ref.uses.isEmpty = false → registry.get? ref.uses = some component →
      Unfolds registry component.operations body → Unfolds registry ops rest →
        Unfolds registry (ref :: ops) (.inlined ref body :: rest)

theorem Unfolds.unique {registry : Registry} {ops : List Operation} {plan other : List Unfolding}
    (h : Unfolds registry ops plan) (hother : Unfolds registry ops other) : other = plan := by
  induction h generalizing other with
  | nil =>
    cases hother
    rfl
  | kept huses _ _ ihinside ihrest =>
    cases hother with
    | kept _ hinside hrest => rw [ihinside hinside, ihrest hrest]
    | inlined href => simp [huses] at href
  | inlined huses hcomponent _ _ ihbody ihrest =>
    cases hother with
    | kept hkept => simp [huses] at hkept
    | inlined _ hcomponent' hbody hrest =>
      obtain rfl := Option.some.inj (hcomponent.symm.trans hcomponent')
      rw [ihbody hbody, ihrest hrest]

namespace Operation

/-! ## Guards -/

/-- A condition behind those of references, the outermost first. -/
def guarded : List Operation → String → String
  | [], condition => condition
  | outer :: refs, condition =>
    (refs.map (·.condition) ++ [condition]).foldl Condition.conjoin outer.condition

/-- A root of a component behind the references around it, the outermost first. -/
def behind (refs : List Operation) (op : Operation) : Operation :=
  { op with
    condition := guarded refs op.condition
    isSilent := op.isSilent || refs.any (·.isSilent) }

theorem behind_nil (op : Operation) : op.behind [] = op := by
  cases op
  simp [behind, guarded]

theorem map_behind_nil (ops : List Operation) : ops.map (behind []) = ops := by
  rw [List.map_congr_left fun op _ => behind_nil op, List.map_id']

theorem guarded_append (refs : List Operation) (ref : Operation) (condition : String) :
    guarded (refs ++ [ref]) condition =
      Condition.conjoin (guarded refs ref.condition) condition := by
  cases refs with
  | nil => simp [guarded]
  | cons outer refs => simp [guarded]

/-- One more reference around a root is a guard of its own. -/
theorem behind_append (refs : List Operation) (ref root : Operation) :
    root.behind (refs ++ [ref]) = root.guardedBy (ref.behind refs) := by
  simp [behind, guardedBy, guarded_append, Bool.or_comm]

/-! ## Ends of references -/

/-- What the last operation of a component becomes in place of a reference. -/
inductive Ends (ref last : Operation) : List Operation → Prop
  | alone (id : String) :
    (if ref.id.isEmpty then id = last.id
      else (last.id.isEmpty = true ∨ last.id = ref.id) ∧ id = ref.id) →
    Ends ref last [{ last with
      id := id
      breaksLoop := last.breaksLoop || ref.breaksLoop
      exitsRecipe := last.exitsRecipe || ref.exitsRecipe
      onSuccess := if ref.onSuccess.isEmpty then last.onSuccess else ref.onSuccess
      onFailure := if ref.onFailure.isEmpty then last.onFailure else ref.onFailure }]
  | copied : ref.id.isEmpty = false → last.id.isEmpty = false → last.id ≠ ref.id →
    Ends ref last [{ last with
        onFailure := if ref.onFailure.isEmpty then last.onFailure else ref.onFailure },
      { name := ref.name
        id := ref.id
        isSilent := true
        condition := ref.condition
        onSuccess := ref.onSuccess
        breaksLoop := ref.breaksLoop
        exitsRecipe := ref.exitsRecipe
        copyFrom := some last.id }]

/-- What the operations of a component become in place of a reference: all but the last one stay as
they are. -/
inductive Closes (ref : Operation) : List Operation → List Operation → Prop
  | empty : Closes ref [] []
  | last {front : List Operation} {last : Operation} {ending : List Operation} :
    Ends ref last ending → Closes ref (front ++ [last]) (front ++ ending)

theorem ends_endFor (ref last : Operation) : Ends ref last (endFor ref last) := by
  have hid : (last.takeFailureHandler ref).id = last.id := by rw [takeFailureHandler_eq]
  unfold endFor
  dsimp only
  rw [hid]
  by_cases href : ref.id.isEmpty = true
  · rw [if_pos href, takeFailureHandler_eq]
    exact .alone last.id (by rw [if_pos href])
  · rw [if_neg href]
    by_cases hlast : last.id.isEmpty = true ∨ last.id = ref.id
    · rw [if_pos (by simpa using hlast), takeFailureHandler_eq]
      exact .alone ref.id (by rw [if_neg href]; exact ⟨hlast, rfl⟩)
    · have hcopy : (copyStep ref last.id).takeSignals ref =
          { name := ref.name
            id := ref.id
            isSilent := true
            condition := ref.condition
            onSuccess := ref.onSuccess
            breaksLoop := ref.breaksLoop
            exitsRecipe := ref.exitsRecipe
            copyFrom := some last.id } := by
        by_cases hsuccess : ref.onSuccess.isEmpty = true
        · simp [copyStep, takeSignals, String.isEmpty_iff.1 hsuccess]
        · simp [copyStep, takeSignals, hsuccess]
      rw [if_neg (by simpa using hlast), takeFailureHandler_eq, hcopy]
      obtain ⟨hempty, hne⟩ := not_or.1 hlast
      exact .copied (by simpa using href) (by simpa using hempty) hne

theorem closes_settle (ref : Operation) (ops : List Operation) :
    Closes ref ops (settle ref ops) := by
  rcases List.eq_nil_or_concat ops with rfl | ⟨front, last, rfl⟩
  · exact .empty
  · rw [List.concat_eq_append, settle_append]
    exact .last (ends_endFor ref last)

theorem Ends.unique {ref last : Operation} {ending ending' : List Operation}
    (h : Ends ref last ending) (h' : Ends ref last ending') : ending' = ending := by
  cases h with
  | alone id hid =>
    cases h' with
    | alone id' hid' =>
      split at hid
      · next href =>
        rw [if_pos href] at hid'
        rw [hid, hid']
      · next href =>
        rw [if_neg href] at hid'
        rw [hid.2, hid'.2]
    | copied href hlast hne =>
      rw [if_neg (by simp [href])] at hid
      rcases hid.1 with hempty | heq
      · simp [hlast] at hempty
      · exact absurd heq hne
  | copied href hlast hne =>
    cases h' with
    | alone id' hid' =>
      rw [if_neg (by simp [href])] at hid'
      rcases hid'.1 with hempty | heq
      · simp [hlast] at hempty
      · exact absurd heq hne
    | copied => rfl

theorem Closes.unique {ref : Operation} {segment closed closed' : List Operation}
    (h : Closes ref segment closed) (h' : Closes ref segment closed') : closed' = closed := by
  generalize hsegment : segment = other at h'
  cases h with
  | empty =>
    cases h' with
    | empty => rfl
    | last => simp at hsegment
  | last hends =>
    cases h' with
    | empty => simp at hsegment
    | last hends' =>
      obtain ⟨rfl, hlast⟩ := List.append_inj' hsegment rfl
      obtain rfl := List.singleton_inj.1 hlast
      rw [hends.unique hends']

/-! ## What operations do -/

/-- What an operation does, apart from what stands inside it and from all that expansion may
change. -/
def core (op : Operation) : Operation :=
  { op with
    id := ""
    operations := []
    isSilent := false
    condition := ""
    onSuccess := ""
    onFailure := ""
    breaksLoop := false
    exitsRecipe := false }

mutual

/-- What an operation does, with what the operations inside it do.  Copy steps do nothing. -/
def bare : Operation → List Operation
  | op@{ operations, .. } =>
    if op.copyFrom.isSome then [] else [{ op.core with operations := bareIn operations }]

/-- What operations do in their order. -/
def bareIn : List Operation → List Operation
  | [] => []
  | op :: rest => op.bare ++ bareIn rest

end

theorem bare_eq (op : Operation) : op.bare =
    if op.core.copyFrom.isSome then []
    else [{ op.core with operations := bareIn op.operations }] := by
  cases op
  rw [bare]
  rfl

theorem bare_congr {op op' : Operation} (hcore : op'.core = op.core)
    (hinside : bareIn op'.operations = bareIn op.operations) : op'.bare = op.bare := by
  rw [bare_eq, bare_eq, hcore, hinside]

theorem bareIn_append (ops others : List Operation) :
    bareIn (ops ++ others) = bareIn ops ++ bareIn others := by
  induction ops with
  | nil => rfl
  | cons op ops ih => rw [List.cons_append, bareIn, bareIn, ih, List.append_assoc]

theorem bareIn_cons_congr {op op' : Operation} {ops ops' : List Operation}
    (hop : op'.bare = op.bare) (hops : bareIn ops' = bareIn ops) :
    bareIn (op' :: ops') = bareIn (op :: ops) := by
  rw [bareIn, bareIn, hop, hops]

theorem Ends.bareIn_eq {ref last : Operation} {ending : List Operation}
    (h : Ends ref last ending) : bareIn ending = bareIn [last] := by
  cases h with
  | alone id hid => exact bareIn_cons_congr (bare_congr rfl rfl) rfl
  | copied =>
    -- What is left of the copy step is nothing.
    exact bareIn_cons_congr (bare_congr rfl rfl) rfl

theorem Closes.bareIn_eq {ref : Operation} {segment closed : List Operation}
    (h : Closes ref segment closed) : bareIn closed = bareIn segment := by
  cases h with
  | empty => rfl
  | last hends => rw [bareIn_append, bareIn_append, hends.bareIn_eq]

/-! ## In place -/

/-- The operations of an unfolding behind the references around them, as they stand after expansion:
what is no reference keeps all but what stands inside it and, as a root, its guard. -/
inductive InPlace : List Operation → List Unfolding → List Operation → Prop
  | nil {refs : List Operation} : InPlace refs [] []
  | kept {refs : List Operation} {op : Operation} {inside rest : List Unfolding}
      {children out : List Operation} :
    InPlace [] inside children → InPlace refs rest out →
      InPlace refs (.kept op inside :: rest) ({ op.behind refs with operations := children } :: out)
  | inlined {refs : List Operation} {ref : Operation} {body rest : List Unfolding}
      {segment closed out : List Operation} :
    InPlace (refs ++ [ref]) body segment → Closes (ref.behind refs) segment closed →
      InPlace refs rest out → InPlace refs (.inlined ref body :: rest) (closed ++ out)

theorem InPlace.unique {refs : List Operation} {plan : List Unfolding} {out out' : List Operation}
    (h : InPlace refs plan out) (h' : InPlace refs plan out') : out' = out := by
  induction h generalizing out' with
  | nil =>
    cases h'
    rfl
  | kept _ _ ihinside ihrest =>
    cases h' with
    | kept hinside hrest => rw [ihinside hinside, ihrest hrest]
  | inlined _ hcloses _ ihbody ihrest =>
    cases h' with
    | inlined hbody hcloses' hrest =>
      obtain rfl := ihbody hbody
      rw [hcloses.unique hcloses', ihrest hrest]

/-- In place, operations do what those of the unfolding do, in the same order. -/
theorem bareIn_of_inPlace {refs : List Operation} {plan : List Unfolding} {out : List Operation}
    (h : InPlace refs plan out) : bareIn out = bareIn (Unfolding.operationsIn plan) := by
  induction h with
  | nil => rfl
  | kept _ _ ihinside ihrest =>
    rw [Unfolding.operationsIn, Unfolding.operations, List.singleton_append]
    exact bareIn_cons_congr (bare_congr rfl ihinside) ihrest
  | inlined _ hcloses _ ihbody ihrest =>
    rw [Unfolding.operationsIn, Unfolding.operations, bareIn_append, bareIn_append,
      hcloses.bareIn_eq, ihbody, ihrest]

end Operation

namespace Expansion

open Operation (InPlace behind bareIn)

variable {registry : Registry} {ops expanded : List Operation}

theorem map_guardedBy_behind (component : Component) (refs : List Operation) (ref : Operation) :
    component.operations.map (·.guardedBy (ref.behind refs)) =
      component.operations.map (behind (refs ++ [ref])) :=
  List.map_congr_left fun root _ => (Operation.behind_append refs ref root).symm

/-- What is expanded behind references has an unfolding and is that in place. -/
theorem exists_unfolding_of_expandWithin {room : Nat} {refs : List Operation}
    (h : expandWithin registry room (ops.map (behind refs)) = .ok expanded) :
    ∃ plan, Unfolds registry ops plan ∧ InPlace refs plan expanded := by
  induction room generalizing refs ops expanded with
  | zero => cases h
  | succ room ihroom =>
    rw [expandWithin] at h
    induction ops generalizing expanded with
    | nil =>
      obtain rfl := Except.ok.inj h
      exact ⟨[], .nil, .nil⟩
    | cons op ops ihops =>
      rw [List.map_cons] at h
      obtain ⟨first, others, hfirst, hothers, rfl⟩ := exists_of_expandEach_cons h
      obtain ⟨rest, hrest, hrestPlace⟩ := ihops hothers
      cases huses : op.uses.isEmpty with
      | true =>
        rcases cases_of_expandOne_of_isEmpty hfirst huses with
          ⟨hempty, rfl⟩ | ⟨children, hchildren, rfl⟩
        · have hnone : op.operations = [] := List.isEmpty_iff.1 hempty
          have hinside : Unfolds registry op.operations [] := hnone ▸ .nil
          refine ⟨.kept op [] :: rest, .kept huses hinside hrest, ?_⟩
          have hplace : InPlace refs (.kept op [] :: rest)
              ({ op.behind refs with operations := [] } :: others) := .kept .nil hrestPlace
          rwa [← hnone] at hplace
        · have hroots : op.operations.map (behind []) = op.operations :=
            Operation.map_behind_nil op.operations
          obtain ⟨inside, hinside, hinsidePlace⟩ := ihroom (hroots.symm ▸ hchildren)
          exact ⟨.kept op inside :: rest, .kept huses hinside hrest,
            .kept hinsidePlace hrestPlace⟩
      | false =>
        obtain ⟨component, segment, hcomponent, hsegment, rfl⟩ := exists_of_expandOne hfirst huses
        rw [map_guardedBy_behind] at hsegment
        obtain ⟨body, hbody, hbodyPlace⟩ := ihroom hsegment
        exact ⟨.inlined op body :: rest, .inlined huses hcomponent hbody hrest,
          .inlined hbodyPlace (Operation.closes_settle _ segment) hrestPlace⟩

/-- What is expanded has one unfolding and is that in place, which does what the operations of the
unfolding do. -/
theorem expand_in_place (h : expand registry ops = .ok expanded) :
    ∃ plan, (∀ other, Unfolds registry ops other ↔ other = plan) ∧
      (∀ out, InPlace [] plan out ↔ out = expanded) ∧
      bareIn expanded = bareIn (Unfolding.operationsIn plan) := by
  rw [expand, ← Operation.map_behind_nil ops] at h
  obtain ⟨plan, hplan, hplace⟩ := exists_unfolding_of_expandWithin h
  refine ⟨plan, fun other => ⟨hplan.unique, ?_⟩, fun out => ⟨hplace.unique, ?_⟩,
    Operation.bareIn_of_inPlace hplace⟩
  · rintro rfl
    exact hplan
  · rintro rfl
    exact hplace

/-- In the loop over a package the build comes first, and the reference ends with its archive. -/
theorem expand_in_place_packagingLoop : ∃ expanded plan,
    expand packaging [packagingLoop] = .ok expanded ∧
      Unfolds packaging [packagingLoop] plan ∧ InPlace [] plan expanded ∧
      (bareIn expanded).flatMap (fun op => op.operations.map (·.command)) = ["make", "tar"] := by
  obtain ⟨expanded, hexpand, hcommands⟩ : ∃ expanded,
      expand packaging [packagingLoop] = .ok expanded ∧
        (bareIn expanded).flatMap (fun op => op.operations.map (·.command)) = ["make", "tar"] :=
    ⟨_, rfl, rfl⟩
  obtain ⟨plan, hplan, hplace, -⟩ := expand_in_place hexpand
  exact ⟨expanded, plan, hexpand, (hplan plan).2 rfl, (hplace expanded).2 rfl, hcommands⟩

end Expansion

end RecipeRunner
