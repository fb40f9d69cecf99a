import RecipeRunner.Proofs.Recipe.Inlining
import Mathlib.Logic.Relation
/-!
# Levels of unfoldings

Components may refer to each other in circles, so an unfolding may go on without end.  Its lists lie
at levels: a list of operations at level zero, and one level further in what stands inside an
operation or in place of a reference.  Expansion succeeds on the unfoldings that are shallow enough
and name no unknown component.

* `LiesAt`: the lists of an unfolding with their levels.
* `exists_expandWithin_of_liesAt`, `cause_of_expandWithin`: what expansion comes to at a level.
* `Names.exists_level_of_transGen`: behind a circle of components an unfolding has no deepest level.
* `expand_succeeds_iff`: when expansion succeeds, and what else it comes to.
-/

namespace RecipeRunner

open Relation (ReflTransGen TransGen)

namespace Operation

/-- What decides what is expanded for an operation. -/
def form (op : Operation) : String × List Operation :=
  (op.uses, op.operations)

theorem map_form_guardedBy (ops : List Operation) (ref : Operation) :
    (ops.map (·.guardedBy ref)).map form = ops.map form := by
  rw [List.map_map]
  rfl

/-- The operation is one of a list, or stands inside one that is no reference. -/
inductive StandsIn (op : Operation) : List Operation → Prop
  | here {ops : List Operation} : op ∈ ops → StandsIn op ops
  | inside {ops : List Operation} {parent : Operation} : parent ∈ ops →
    parent.uses.isEmpty = true → StandsIn op parent.operations → StandsIn op ops

theorem StandsIn.isEmpty_eq_false {op : Operation} {ops : List Operation} (h : op.StandsIn ops) :
    ops.isEmpty = false := by
  cases h with
  | here hmem | inside hmem => exact List.isEmpty_eq_false_iff.2 (List.ne_nil_of_mem hmem)

end Operation

/-- A component has a reference to another one. -/
def Registry.Refers (registry : Registry) (id other : String) : Prop :=
  ∃ component, registry.get? id = some component ∧ ∃ ref : Operation,
    ref.StandsIn component.operations ∧ ref.uses = other ∧ other.isEmpty = false

namespace Expansion

open Operation (form)

/-- The list that an operation opens: what stands inside it or, for a reference, the operations of
its component. -/
inductive Opens (registry : Registry) (op : Operation) : List Operation → Prop
  | inside : op.uses.isEmpty = true → op.operations.isEmpty = false →
    Opens registry op op.operations
  | component {component : Component} : op.uses.isEmpty = false →
    registry.get? op.uses = some component → Opens registry op component.operations

/-- The lists in the unfolding of operations, with their levels. -/
inductive LiesAt (registry : Registry) (ops : List Operation) : Nat → List Operation → Prop
  | top : LiesAt registry ops 0 ops
  | opened {level : Nat} {list within : List Operation} {op : Operation} :
    LiesAt registry ops level list → op ∈ list → Opens registry op within →
      LiesAt registry ops (level + 1) within

/-- Why operations cannot be expanded: a list lies too deep, or a reference names no component. -/
inductive Cause (registry : Registry) (ops : List Operation) : Error → Prop
  | tooDeep {list : List Operation} : LiesAt registry ops (maxDepth + 1) list →
    Cause registry ops (.recursionLimit maxDepth)
  | unknown {level : Nat} {list : List Operation} {ref : Operation} :
    LiesAt registry ops level list → ref ∈ list → ref.uses.isEmpty = false →
      registry.get? ref.uses = none → Cause registry ops (.componentNotFound ref.uses)

/-- A list at a level has a reference to a component. -/
def Names (registry : Registry) (ops : List Operation) (level : Nat) (id : String) : Prop :=
  ∃ list, LiesAt registry ops level list ∧ ∃ ref ∈ list, ref.uses = id ∧ id.isEmpty = false

variable {registry : Registry} {ops list : List Operation} {level : Nat} {id other : String}

/-! ## One operation -/

theorem Opens.of_form {op op' : Operation} {within : List Operation} (h : Opens registry op within)
    (hform : op'.form = op.form) : Opens registry op' within := by
  obtain ⟨huses, hoperations⟩ := Prod.mk.inj hform
  cases h with
  | inside hempty hinside =>
    rw [← hoperations] at hinside ⊢
    exact .inside (huses ▸ hempty) hinside
  | component hempty hcomponent => exact .component (huses ▸ hempty) (huses ▸ hcomponent)

theorem exists_mem_of_map_form {alike : List Operation} (h : alike.map form = list.map form)
    {op : Operation} (hop : op ∈ list) : ∃ op' ∈ alike, op'.form = op.form := by
  have hmem : op.form ∈ alike.map form := by
    rw [h]
    exact List.mem_map_of_mem hop
  exact List.mem_map.1 hmem

theorem exists_of_mem_expandEach {expand : Operation → Except Error (List Operation)}
    {expanded : List Operation} (h : expandEach expand ops = .ok expanded) {op : Operation}
    (hop : op ∈ ops) : ∃ first, expand op = .ok first := by
  induction ops generalizing expanded with
  | nil => cases hop
  | cons source ops ih =>
    obtain ⟨first, others, hfirst, hothers, -⟩ := exists_of_expandEach_cons h
    rcases List.mem_cons.1 hop with rfl | hop
    · exact ⟨first, hfirst⟩
    · exact ih hothers hop

theorem exists_error_of_expandEach {expand : Operation → Except Error (List Operation)} {e : Error}
    (h : expandEach expand ops = .error e) : ∃ op ∈ ops, expand op = .error e := by
  induction ops with
  | nil => cases h
  | cons op ops ih =>
    rw [expandEach] at h
    cases hfirst : expand op with
    | error e' =>
      rw [hfirst] at h
      obtain rfl : e' = e := Except.error.inj h
      exact ⟨op, List.mem_cons_self, hfirst⟩
    | ok first =>
      rw [hfirst] at h
      cases hothers : expandEach expand ops with
      | error e' =>
        rw [hothers] at h
        obtain rfl : e' = e := Except.error.inj h
        obtain ⟨op', hmem, hop'⟩ := ih hothers
        exact ⟨op', List.mem_cons_of_mem _ hmem, hop'⟩
      | ok others =>
        rw [hothers] at h
        cases h

/-- An operation that has been expanded has a component if it is a reference, and the list that it
opens has been expanded. -/
theorem exists_inner_of_expandOne {inner : List Operation → Except Error (List Operation)}
    {op : Operation} {first : List Operation} (h : expandOne registry inner op = .ok first) :
    (op.uses.isEmpty = false → ∃ component, registry.get? op.uses = some component) ∧
      ∀ within, Opens registry op within →
        ∃ alike out, alike.map form = within.map form ∧ inner alike = .ok out := by
  refine ⟨fun huses => ?_, fun within hopens => ?_⟩
  · obtain ⟨component, _, hcomponent, -, -⟩ := exists_of_expandOne h huses
    exact ⟨component, hcomponent⟩
  · cases hopens with
    | inside huses hinside =>
      rcases cases_of_expandOne_of_isEmpty h huses with ⟨hempty, -⟩ | ⟨out, hinner, -⟩
      · simp [hinside] at hempty
      · exact ⟨_, out, rfl, hinner⟩
    | component huses hcomponent =>
      obtain ⟨component, out, hcomponent', hinner, -⟩ := exists_of_expandOne h huses
      obtain rfl := Option.some.inj (hcomponent.symm.trans hcomponent')
      exact ⟨_, out, Operation.map_form_guardedBy _ _, hinner⟩

/-- An operation that cannot be expanded is a reference without a component, or the list that it
opens cannot be expanded. -/
theorem cases_of_expandOne_error {inner : List Operation → Except Error (List Operation)}
    {op : Operation} {e : Error} (h : expandOne registry inner op = .error e) :
    (op.uses.isEmpty = false ∧ registry.get? op.uses = none ∧ e = .componentNotFound op.uses) ∨
      ∃ within alike, Opens registry op within ∧ alike.map form = within.map form ∧
        inner alike = .error e := by
  have hinner : ∀ {settled : List Operation → List Operation} {result},
      Except.map settled result = .error e → result = .error e := by
    intro settled result hmap
    cases result with
    | error e' => rw [Except.error.inj hmap]
    | ok out => cases hmap
  rw [expandOne] at h
  cases huses : op.uses.isEmpty with
  | true =>
    rw [if_pos huses] at h
    split at h
    · cases h
    · next hinside =>
      exact .inr ⟨_, _, .inside huses (by simpa using hinside), rfl, hinner h⟩
  | false =>
    rw [if_neg (by simp [huses])] at h
    split at h
    · next hcomponent => exact .inl ⟨rfl, hcomponent, (Except.error.inj h).symm⟩
    · next component hcomponent =>
      exact .inr ⟨_, _, .component huses hcomponent, Operation.map_form_guardedBy _ _, hinner h⟩

/-! ## Whole unfoldings -/

/-- When operations have been expanded, so has every list of their unfolding, up to guards, with so
much less room as it lies further in. -/
theorem exists_expandWithin_of_liesAt {room : Nat} {expanded : List Operation}
    (h : expandWithin registry room ops = .ok expanded) (hlist : LiesAt registry ops level list) :
    ∃ below alike out, room = level + below ∧ alike.map form = list.map form ∧
      expandWithin registry below alike = .ok out := by
  induction hlist with
  | top => exact ⟨room, ops, expanded, (Nat.zero_add room).symm, rfl, h⟩
  | @opened level list within op _ hop hopens ih =>
    obtain ⟨below, alike, out, hroom, hform, hout⟩ := ih
    cases below with
    | zero => cases hout
    | succ below =>
      rw [expandWithin] at hout
      obtain ⟨op', hop', hsame⟩ := exists_mem_of_map_form hform hop
      obtain ⟨first, hfirst⟩ := exists_of_mem_expandEach hout hop'
      obtain ⟨alike', out', hform', hout'⟩ :=
        (exists_inner_of_expandOne hfirst).2 within (hopens.of_form hsame)
      exact ⟨below, alike', out', by omega, hform', hout'⟩

/-- If a list of an unfolding cannot be expanded, a list lies beyond its room or a reference names
no component. -/
theorem cause_of_expandWithin {room : Nat} {alike : List Operation} {e : Error}
    (h : expandWithin registry room alike = .error e) (hlist : LiesAt registry ops level list)
    (hform : alike.map form = list.map form) (hroom : level + room = maxDepth + 1) :
    Cause registry ops e := by
  induction room generalizing level list alike with
  | zero =>
    obtain rfl : level = maxDepth + 1 := hroom
    obtain rfl : .recursionLimit maxDepth = e := Except.error.inj h
    exact .tooDeep hlist
  | succ room ih =>
    rw [expandWithin] at h
    obtain ⟨op', hop', hfailed⟩ := exists_error_of_expandEach h
    obtain ⟨op, hop, hsame⟩ := exists_mem_of_map_form hform.symm hop'
    obtain ⟨huses, -⟩ := Prod.mk.inj hsame
    rcases cases_of_expandOne_error hfailed with
      ⟨hempty, hnone, rfl⟩ | ⟨within, alike', hopens, hform', hinner⟩
    · rw [← huses] at hempty hnone ⊢
      exact .unknown hlist hop hempty hnone
    · exact ih hinner (hlist.opened hop (hopens.of_form hsame)) hform' (by omega)

/-! ## Circles of components -/

theorem LiesAt.exists_of_standsIn {op : Operation} (h : LiesAt registry ops level list)
    (hop : op.StandsIn list) : ∃ deeper within, level ≤ deeper ∧
      LiesAt registry ops deeper within ∧ op ∈ within := by
  induction hop generalizing level with
  | here hmem => exact ⟨level, _, Nat.le_refl level, h, hmem⟩
  | inside hparent huses hop ih =>
    have hinside := h.opened hparent (.inside huses hop.isEmpty_eq_false)
    obtain ⟨deeper, within, hle, hrest⟩ := ih hinside
    exact ⟨deeper, within, by omega, hrest⟩

theorem Names.exists_of_refers (h : Names registry ops level id)
    (hrefers : registry.Refers id other) :
    ∃ deeper, level < deeper ∧ Names registry ops deeper other := by
  obtain ⟨list, hlist, ref, href, rfl, hempty⟩ := h
  obtain ⟨component, hcomponent, ref', hstands, rfl, hempty'⟩ := hrefers
  have hopened := hlist.opened href (.component hempty hcomponent)
  obtain ⟨deeper, within, hle, hwithin, hmem⟩ := hopened.exists_of_standsIn hstands
  exact ⟨deeper, hle, within, hwithin, ref', hmem, rfl, hempty'⟩

theorem Names.exists_of_reflTransGen (h : Names registry ops level id)
    (hleads : ReflTransGen registry.Refers id other) :
    ∃ deeper, level ≤ deeper ∧ Names registry ops deeper other := by
  induction hleads with
  | refl => exact ⟨level, Nat.le_refl level, h⟩
  | tail _ hrefers ih =>
    obtain ⟨mid, hmid, hnames⟩ := ih
    obtain ⟨deeper, hlt, hother⟩ := hnames.exists_of_refers hrefers
    exact ⟨deeper, by omega, hother⟩

/-- Each time around the circle is at least one level further in. -/
theorem Names.exists_level_of_transGen (h : Names registry ops level id)
    (hcircle : TransGen registry.Refers id id) (rounds : Nat) :
    ∃ deeper, level + rounds ≤ deeper ∧ Names registry ops deeper id := by
  induction rounds with
  | zero => exact ⟨level, Nat.le_refl level, h⟩
  | succ rounds ih =>
    obtain ⟨mid, hmid, hnames⟩ := ih
    obtain ⟨next, hrefers, hback⟩ := TransGen.head'_iff.1 hcircle
    obtain ⟨deeper, hlt, hnext⟩ := hnames.exists_of_refers hrefers
    obtain ⟨last, hle, hlast⟩ := hnext.exists_of_reflTransGen hback
    exact ⟨last, by omega, hlast⟩

/-! ## Expansion -/

theorem le_maxDepth_of_expand {expanded : List Operation} (h : expand registry ops = .ok expanded)
    (hlist : LiesAt registry ops level list) : level ≤ maxDepth ∧
      ∀ op ∈ list, op.uses.isEmpty = false →
        ∃ component, registry.get? op.uses = some component := by
  obtain ⟨below, alike, out, hroom, hform, hout⟩ := exists_expandWithin_of_liesAt h hlist
  cases below with
  | zero => cases hout
  | succ below =>
    refine ⟨by omega, fun op hop huses => ?_⟩
    rw [expandWithin] at hout
    obtain ⟨op', hop', hsame⟩ := exists_mem_of_map_form hform hop
    obtain ⟨hsameUses, -⟩ := Prod.mk.inj hsame
    obtain ⟨first, hfirst⟩ := exists_of_mem_expandEach hout hop'
    rw [← hsameUses] at huses ⊢
    exact (exists_inner_of_expandOne hfirst).1 huses

/-- Expansion succeeds if and only if no list of the unfolding lies deeper than the limit and every
reference in it names a component.  What it fails with is one of these two.  It fails on references
that lead to a circle of components. -/
theorem expand_succeeds_iff (registry : Registry) (ops : List Operation) :
    ((∃ expanded, expand registry ops = .ok expanded) ↔
      ∀ level list, LiesAt registry ops level list → level ≤ maxDepth ∧
        ∀ op ∈ list, op.uses.isEmpty = false →
          ∃ component, registry.get? op.uses = some component) ∧
    (∀ e, expand registry ops = .error e → Cause registry ops e) ∧
    ∀ level id other, Names registry ops level id → ReflTransGen registry.Refers id other →
      TransGen registry.Refers other other → ∃ e, expand registry ops = .error e := by
  have hcause : ∀ e, expand registry ops = .error e → Cause registry ops e :=
    fun e h => cause_of_expandWithin h .top rfl (Nat.zero_add _)
  refine ⟨⟨fun ⟨expanded, h⟩ level list hlist => le_maxDepth_of_expand h hlist, fun h => ?_⟩,
    hcause, fun level id other hnames hleads hcircle => ?_⟩
  · cases hexpand : expand registry ops with
    | ok expanded => exact ⟨expanded, rfl⟩
    | error e =>
      exfalso
      cases hcause e hexpand with
      | tooDeep hlist =>
        have hle := (h _ _ hlist).1
        omega
      | unknown hlist href huses hnone =>
        obtain ⟨component, hcomponent⟩ := (h _ _ hlist).2 _ href huses
        rw [hnone] at hcomponent
        cases hcomponent
  · cases hexpand : expand registry ops with
    | error e => exact ⟨e, rfl⟩
    | ok expanded =>
      exfalso
      obtain ⟨level', -, hother⟩ := hnames.exists_of_reflTransGen hleads
      obtain ⟨deeper, hle, list, hlist, -⟩ := hother.exists_level_of_transGen hcircle (maxDepth + 1)
      have hshallow := (le_maxDepth_of_expand hexpand hlist).1
      omega

/-- Two components that refer to each other, one of them from inside a loop. -/
def pingPong : Registry :=
  .registerAll {} [{ id := "ping", operations := [{ uses := "pong" }] },
    { id := "pong", operations := [{
      controlFlow := some (.counted "2" "i" false false)
      operations := [{ command := "echo" }, { uses := "ping" }] }] }]

/-- A reference to one of them cannot be expanded. -/
theorem expand_succeeds_iff_pingPong :
    Names pingPong [{ uses := "ping" }] 0 "ping" ∧ TransGen pingPong.Refers "ping" "ping" ∧
      ∃ e, expand pingPong [{ uses := "ping" }] = .error e ∧
        Cause pingPong [{ uses := "ping" }] e := by
  have hnames : Names pingPong [{ uses := "ping" }] 0 "ping" :=
    ⟨_, .top, _, List.mem_cons_self, rfl, rfl⟩
  have hthere : pingPong.Refers "ping" "pong" := ⟨_, rfl, _, .here List.mem_cons_self, rfl, rfl⟩
  have hback : pingPong.Refers "pong" "ping" :=
    ⟨_, rfl, _, .inside List.mem_cons_self rfl (.here (List.mem_cons_of_mem _ List.mem_cons_self)),
      rfl, rfl⟩
  have hcircle : TransGen pingPong.Refers "ping" "ping" := .tail (.single hthere) hback
  obtain ⟨-, hcause, hfails⟩ := expand_succeeds_iff pingPong [{ uses := "ping" }]
  obtain ⟨e, he⟩ := hfails 0 "ping" "ping" hnames .refl hcircle
  exact ⟨hnames, hcircle, e, he, hcause e he⟩

end Expansion

end RecipeRunner
