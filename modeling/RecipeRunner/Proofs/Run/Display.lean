import RecipeRunner.Proofs.Run.Presentation
import RecipeRunner.Run.Outcome
/-!
# What runs show

What is shown of a run makes no difference to what it does: recipes without background operations
that differ only in their presentation come to the same, whatever their consoles show of it.

* `Recipe.exists_reaches_of_plain_eq`: whatever one of two such recipes comes to, so does the other.
* `Recipe.runs_alike_of_plain_eq`: they fail alike or come to the same end.
-/

namespace RecipeRunner

/-- Orders that differ only in what is shown and in the presentation of components.  Templates draw
the same random numbers in both. -/
structure Order.SameAct (o o' : Order) : Prop where
  registry : ∀ id, (o'.registry.get? id).map Component.plain =
    (o.registry.get? id).map Component.plain
  maxDepth : o'.config.maxDepth = o.config.maxDepth
  maxRepeats : o'.config.maxRepeats = o.config.maxRepeats
  color : o'.console.color = o.console.color
  escapes : o'.console.escapes = o.console.escapes
  workdir : o'.workplace.workdir = o.workplace.workdir
  input : o'.input = o.input
  vars : o'.vars = o.vars
  chance : o'.chance = o.chance

theorem Order.SameAct.symm {o o' : Order} (h : o.SameAct o') : o'.SameAct o where
  registry := fun id => (h.registry id).symm
  maxDepth := h.maxDepth.symm
  maxRepeats := h.maxRepeats.symm
  color := h.color.symm
  escapes := h.escapes.symm
  workdir := h.workdir.symm
  input := h.input.symm
  vars := h.vars.symm
  chance := h.chance.symm

namespace Recipe

open Operation (plainAll preorderIn)

variable {recipe recipe' : Recipe} {o o' : Order} {ops ops' : List Operation}

theorem runOf_sameAct (ho : o.SameAct o') (hops : plainAll ops' = plainAll ops)
    (hforeground : ∀ op ∈ preorderIn ops, op.mode ≠ .background) :
    (runOf o ops).SameAct (runOf o' ops') where
  maxDepth := ho.maxDepth
  maxRepeats := ho.maxRepeats
  patience := rfl
  input := ho.input
  handlers := Operation.map_plain_handlers hops
  foreground := fun _ _ hfound => Operation.foreground_of_preorderIn hforeground
    (Operation.mem_preorderIn_of_handlers hfound)

theorem storeOf_eq_of_plain_eq (hrecipe : recipe'.plain = recipe.plain) (ho : o.SameAct o') :
    recipe'.storeOf o' = recipe.storeOf o := by
  have hvars : recipe'.plain.vars = recipe.plain.vars := by rw [hrecipe]
  change recipe'.vars = recipe.vars at hvars
  unfold storeOf
  rw [hvars, ho.color, ho.escapes, ho.workdir, ho.input, ho.vars, ho.chance]

theorem agree_expand (hrecipe : recipe'.plain = recipe.plain) (ho : o.SameAct o') :
    Expansion.Agree (Expansion.expand o.registry recipe.operations)
      (Expansion.expand o'.registry recipe'.operations) :=
  Expansion.agree_expandWithin ho.registry _ (congrArg Recipe.operations hrecipe)

variable {σ : Type} {w : Surroundings σ} {outside : σ} {events events' : List Event}
  {s s' : Schedule σ}

/-- The schedule that a run of the expanded operations of a recipe starts with. -/
def startOf (recipe : Recipe) (o : Order) (ops : List Operation) (outside : σ) : Schedule σ :=
  Schedule.start (runOf o ops) ops (recipe.storeOf o) outside

/-- What a run of the expanded operations of a recipe comes to. -/
def Reaches (recipe : Recipe) (o : Order) (ops : List Operation) (w : Surroundings σ)
    (outside : σ) (events : List Event) (s : Schedule σ) : Prop :=
  Schedule.Runs (runOf o ops) w (recipe.startOf o ops outside) events s

/-- The second of two runs has made the same requests as the first one, has left a store that
differs only in whether output is condensed, and has come to the same end if the first one has come
to its end. -/
structure SameSoFar (events : List Event) (s : Schedule σ) (events' : List Event)
    (s' : Schedule σ) : Prop where
  requests : Event.requests events' = Event.requests events
  store : s.scene.store.Alike s'.scene.store
  ended : ∀ result, s.main.strand = .done result → s'.main.strand = .done result

section

variable (hrecipe : recipe'.plain = recipe.plain) (ho : o.SameAct o')
  (hops : plainAll ops' = plainAll ops) (hforeground : ∀ op ∈ preorderIn ops, op.mode ≠ .background)

include ho hops hforeground

theorem alike_startOf (recipe recipe' : Recipe) (outside : σ) :
    (recipe.startOf o ops outside).main.strand.Alike
      (recipe'.startOf o' ops' outside).main.strand :=
  Run.alike_mainStrand (runOf_sameAct ho hops hforeground) hops fun _ hop =>
    Operation.foreground_of_preorderIn hforeground (Operation.mem_preorderIn_of_mem hop)

include hrecipe

/-- Whatever one of two such recipes comes to, the other one comes to as well. -/
theorem exists_reaches_of_plain_eq (h : recipe.Reaches o ops w outside events s) :
    ∃ events' s', recipe'.Reaches o' ops' w outside events' s' ∧ SameSoFar events s events' s' := by
  have halike := alike_startOf ho hops hforeground recipe recipe' outside
  have hscene : (recipe.startOf o ops outside).scene.Alike
      (recipe'.startOf o' ops' outside).scene := by
    refine ⟨?_, rfl⟩
    rw [startOf, startOf, Schedule.start, Schedule.start, storeOf_eq_of_plain_eq hrecipe ho]
    exact .refl _
  have hsolo := Schedule.Runs.solo h rfl halike
  obtain ⟨first, strand, mid, hfirst, hrequests, hrest, hmid⟩ := halike.exists_solo hscene hsolo
  by_cases hended : ∃ result, s.main.strand = .done result
  · -- What the second run does behind the end of the first one is to report.
    obtain ⟨result, hresult⟩ := hended
    rw [hresult] at hrest
    obtain ⟨second, last, hsecond, hsilent, hlast⟩ := hrest.exists_solo_done mid
    obtain ⟨s', hruns, hdone, rfl⟩ := Schedule.exists_runs_of_solo rfl (hfirst.trans hsecond)
    refine ⟨_, s', hruns, ?_, hmid.store.trans hlast.store, fun other hother => ?_⟩
    · rw [Event.requests_append, hsilent, List.append_nil, hrequests]
    · rw [hdone, ← hresult, hother]
  · obtain ⟨s', hruns, -, rfl⟩ := Schedule.exists_runs_of_solo rfl hfirst
    exact ⟨_, s', hruns, hrequests, hmid.store, fun result h => absurd ⟨result, h⟩ hended⟩

/-- Runs that come to their ends come to the same one. -/
theorem sameSoFar_of_ended (h : recipe.Reaches o ops w outside events s)
    (h' : recipe'.Reaches o' ops' w outside events' s') {result result' : Except Error Bool}
    (hended : s.main.strand = .done result) (hended' : s'.main.strand = .done result') :
    SameSoFar events s events' s' := by
  obtain ⟨other, t, hother, hsame⟩ := exists_reaches_of_plain_eq hrecipe ho hops hforeground h
  have halike := alike_startOf ho hops hforeground recipe recipe' outside
  have hsolo := Schedule.Runs.solo hother rfl halike.symm
  have hsolo' := Schedule.Runs.solo h' rfl halike.symm
  rw [hsame.ended result hended] at hsolo
  rw [hended'] at hsolo'
  obtain ⟨hevents, hresult, hscene⟩ := hsolo.unique hsolo'
  refine ⟨?_, ?_, fun last hlast => ?_⟩
  · rw [hevents, hsame.requests]
  · rw [hscene]
    exact hsame.store
  · rw [hended', hresult, ← hended, hlast]

end

/-- Presentation does not change a run.  Recipes without background operations that differ only in
their presentation, run with settings that differ only in what is shown, fail alike to be expanded;
whatever a run of one of them comes to, a run of the other one comes to as well; and runs that come
to their ends come to the same one.  The random numbers are part of what both runs are given: each
evaluation draws numbers of its own, and the same ones in both. -/
theorem runs_alike_of_plain_eq (w : Surroundings σ) (outside : σ)
    (hrecipe : recipe'.plain = recipe.plain) (ho : o.SameAct o') :
    (∀ e, Expansion.expand o'.registry recipe'.operations = .error e ↔
      Expansion.expand o.registry recipe.operations = .error e) ∧
    ∀ ops ops', Expansion.expand o.registry recipe.operations = .ok ops →
      Expansion.expand o'.registry recipe'.operations = .ok ops' →
      (∀ op ∈ preorderIn ops, op.mode ≠ .background) →
      (∀ events s, recipe.Reaches o ops w outside events s →
        ∃ events' s', recipe'.Reaches o' ops' w outside events' s' ∧
          SameSoFar events s events' s') ∧
      (∀ events' s', recipe'.Reaches o' ops' w outside events' s' →
        ∃ events s, recipe.Reaches o ops w outside events s ∧ SameSoFar events' s' events s) ∧
      ∀ events s events' s' result result', recipe.Reaches o ops w outside events s →
        recipe'.Reaches o' ops' w outside events' s' → s.main.strand = .done result →
        s'.main.strand = .done result' → SameSoFar events s events' s' := by
  have hexpand := agree_expand hrecipe ho
  refine ⟨fun e => hexpand.error_iff, fun ops ops' hsuccess hsuccess' hforeground => ?_⟩
  rw [hsuccess, hsuccess'] at hexpand
  have hops := hexpand.plainAll_eq
  have hforeground' := Operation.foreground_of_plainAll_eq hops hforeground
  refine ⟨fun events s h => exists_reaches_of_plain_eq hrecipe ho hops hforeground h,
    fun events' s' h => exists_reaches_of_plain_eq hrecipe.symm ho.symm hops.symm hforeground' h,
    fun events s events' s' result result' h h' hended hended' => ?_⟩
  exact sameSoFar_of_ended hrecipe ho hops hforeground h h' hended hended'

/-- A loop that draws its progress around a command whose output is shown. -/
def drawn : Recipe where
  name := "build"
  operations := [{ controlFlow := some (.counted "1" "i" true true)
                   operations := [{ command := "make" }] }]

/-- The loop, which draws nothing and does not show the output. -/
def undrawn : Recipe where
  name := "build"
  operations := [{ controlFlow := some (.counted "1" "i" false false)
                   operations := [{ command := "make", isSilent := true }] }]

/-- An order of a run that shows everything. -/
def talkative : Order where
  console := { debug := true }
  workplace := { shell := "sh", workdir := "/" }
  state := { operator := .present }

/-- An order of a run that shows nothing. -/
def quiet : Order where
  console := { progress := false, quiet := true }
  workplace := { shell := "sh", workdir := "/" }
  state := { operator := .present }

open Schedule in
/-- The command is run in the loop that draws its progress, so it is run in the other one. -/
theorem runs_alike_drawn : ∃ events s,
    undrawn.Reaches quiet undrawn.operations echoing () events s ∧
      s.main.strand = .done (.ok false) ∧
      Event.requests events = [.command ⟨"make", "", false⟩ ⟨.exited 0, "make", ""⟩] := by
  obtain ⟨events, s, h, hdone, hrequests⟩ :
      ∃ events s, drawn.Reaches talkative drawn.operations echoing () events s ∧
        s.main.strand = .done (.ok false) ∧
        Event.requests events = [.command ⟨"make", "", false⟩ ⟨.exited 0, "make", ""⟩] :=
    ⟨_, _, .main 0 rfl <| .main 0 rfl <| .main 0 rfl <| .main 0 rfl <| .main 0 rfl <|
      .main 0 rfl <| .main 0 rfl <| .main 0 rfl <| .main 0 rfl <| .main 0 rfl <| .main 0 rfl <|
      .main 0 rfl <| .main 0 rfl <| .main 0 rfl <| .main 0 rfl <| .main 0 rfl <| .main 0 rfl <|
      .main 0 rfl <| .main 0 rfl <| .main 0 rfl <| .main 0 rfl <| .main 0 rfl <|
      .main 0 rfl <| .refl _, rfl, rfl⟩
  have hrecipe : undrawn.plain = drawn.plain := rfl
  have ho : talkative.SameAct quiet := ⟨fun _ => rfl, rfl, rfl, rfl, rfl, rfl, rfl, rfl, rfl⟩
  obtain ⟨-, hruns⟩ := runs_alike_of_plain_eq echoing () hrecipe ho
  obtain ⟨events', s', h', hsame⟩ := (hruns drawn.operations undrawn.operations rfl rfl
    (by decide)).1 events s h
  exact ⟨events', s', h', hsame.ended _ hdone, hsame.requests.trans hrequests⟩

end Recipe

end RecipeRunner
