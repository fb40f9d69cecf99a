import RecipeRunner.Proofs.Condition.Guard
import RecipeRunner.Proofs.Recipe.Inlining
import RecipeRunner.Proofs.Run.Parts
/-!
# Skipped operations

What comes of operations whose conditions do not hold, run alone: random numbers are used up and the
store stays as it is otherwise, and nothing is done but to tell how far they have come.  They return
that the recipe goes on, or the error of an id or a condition, because the id of an operation is
found first and its condition next.  The operations of a component whose reference is skipped are
such operations.

* `comesTo_inOrder_of_not_hold`: operations in order whose conditions do not hold.
* `comesTo_of_skipped_reference`: the expanded operations of a reference that is skipped.
-/

namespace RecipeRunner.Run

open Condition (ReadsAs Balanced Sound Guards Unmarked)
open Strand (Moves nobody)
open Template (hasTemplate)

/-- An error of the id or the condition of an operation, for some random numbers. -/
def FailsFor (s : Store) (op : Operation) (e : Error) : Prop :=
  ∃ c, idIn (s.drawing c) op = .error e ∨
    Condition.evaluate (s.scope.drawing c) op.condition = .error e

variable (r : Run) (room : Nat) {s : Store}

/-- An operation whose condition does not hold tells that it starts and how it ends. -/
theorem comesTo_execute_of_not_holds {op : Operation}
    (h : ∀ c, Condition.evaluate (s.scope.drawing c) op.condition ≠ .ok true) :
    ∃ told result c, (r.execute (room + 1) op).ComesTo s
        [.noted (.started op room), .noted told] result (s.drawing c) ∧
      (result = .ok .next ∨ ∃ e, result = .error e ∧ FailsFor s op e) := by
  obtain ⟨c, hid⟩ := comesTo_idOf s op
  rw [execute]
  cases hidIn : idIn s op with
  | error e =>
    rw [hidIn] at hid
    exact ⟨_, _, c, Strand.ComesTo.noted (hid.bind_error _) op room,
      .inr ⟨e, rfl, s.chance, .inl hidIn⟩⟩
  | ok id =>
    rw [hidIn] at hid
    have hholds := comesTo_holds (s.drawing c) op.condition
    cases hcondition : Condition.evaluate (s.drawing c).scope op.condition with
    | error e =>
      rw [hcondition] at hholds
      exact ⟨_, _, _, @Strand.ComesTo.noted s _ [] _ (.error e) (hid.bind (hholds.bind_error _))
        op room, .inr ⟨e, rfl, c.part 0, .inr hcondition⟩⟩
    | ok holds =>
      cases holds with
      | true => exact absurd hcondition (h (c.part 0))
      | false =>
        rw [hcondition] at hholds
        exact ⟨_, _, _, @Strand.ComesTo.noted s _ [] _ (.ok none)
          (hid.bind (hholds.bind (Strand.comesTo_done _ _))) op room, .inl rfl⟩

/-- Operations in order whose conditions do not hold are skipped, up to the first error. -/
theorem comesTo_inOrder_of_not_hold {ops : List Operation}
    (h : ∀ op ∈ ops, ∀ c, Condition.evaluate (s.scope.drawing c) op.condition ≠ .ok true) :
    ∃ events result c, (inOrder (r.execute (room + 1)) ops).ComesTo s events result (s.drawing c) ∧
      (∀ event ∈ events, ∃ told, event = .noted told) ∧
      (result = .ok .next ∨ ∃ op ∈ ops, ∃ e, result = .error e ∧ FailsFor s op e) := by
  induction ops generalizing s with
  | nil => exact ⟨[], _, s.chance, Strand.comesTo_done _ s, by simp, .inl rfl⟩
  | cons op rest ih =>
    obtain ⟨told, result, c, hop, hresult⟩ :=
      comesTo_execute_of_not_holds r room (h op List.mem_cons_self)
    rw [inOrder]
    rcases hresult with rfl | ⟨e, rfl, hfails⟩
    · -- what the operations behind are read in differs in its random numbers only
      obtain ⟨events, last, c', hrest, hevents, hlast⟩ :=
        @ih (s.drawing c) fun op hop => h op (List.mem_cons_of_mem _ hop)
      refine ⟨_, last, c', hop.bind hrest, by simpa using hevents, hlast.imp_right ?_⟩
      rintro ⟨later, hlater, e, herror, hfails⟩
      exact ⟨later, List.mem_cons_of_mem _ hlater, e, herror, hfails⟩
    · exact ⟨_, _, c, hop.bind_error _, by simp, .inr ⟨op, List.mem_cons_self, e, rfl, hfails⟩⟩

/-- An operation whose id can be found and whose condition does not hold does not fail. -/
theorem not_failsFor {op : Operation} {e : Error} (hid : ∀ c, ∃ id, idIn (s.drawing c) op = .ok id)
    (hfalse : ∀ c, Condition.evaluate (s.scope.drawing c) op.condition = .ok false) :
    ¬ FailsFor s op e := by
  rintro ⟨c, herror | herror⟩
  · obtain ⟨id, hfound⟩ := hid c
    rw [hfound] at herror
    cases herror
  · rw [hfalse c] at herror
    cases herror

/-! ## References -/

section

variable {registry : Registry} {n : Nat} {ref : Operation} {ops : List Operation}
  (hexpand : Expansion.expandOne registry (Expansion.expandWithin registry n) ref = .ok ops)
  (huses : ref.uses.isEmpty = false)
  (hno : ∀ c, Condition.evaluate (s.scope.drawing c) ref.condition = .ok false)
  (hsound : Sound s.bindings ref.condition)
  (hunmarked : ∀ op, Inlined registry ref.uses op →
    hasTemplate (Text.trimmed op.condition) = true → Unmarked ref.condition)

include hexpand huses hno hsound hunmarked

/-- The conditions behind that of a skipped reference do not hold. -/
theorem evaluate_ne_true_of_expandOne
    (hnested : ∀ op, Inlined registry ref.uses op → op.uses.isEmpty = false →
      Sound s.bindings op.condition) :
    ∀ op ∈ ops, ∀ c, Condition.evaluate (s.scope.drawing c) op.condition ≠ .ok true := by
  refine Expansion.holds_of_expandOne
    (Guards s.scope (Unmarked ref.condition) (· ≠ .ok true))
    (fun condition => ∀ c, Condition.evaluate (s.scope.drawing c) condition ≠ .ok true)
    hexpand huses (hsound.guards (by simp) (by simp [hno]) ?_) ?_ ?_ ?_
  · exact fun _ _ _ hblank => Condition.eval_ne_ok_of_isEmpty _ hblank true
  · exact fun guard hguard c => (hguard.evaluate c).elim (by simp +contextual) id
  · exact fun guard op hguard hop hopUses =>
      hguard.conjoin (by simp) (hnested op hop hopUses) (hunmarked op hop)
  · exact fun guard op hguard hop _ => hguard.evaluate_conjoin_ne_true (hunmarked op hop)

/-- Where all of them can be read, they are evaluated to false. -/
theorem evaluate_eq_false_of_expandOne
    (htext : ∀ c text, ReadsAs (s.bindings.drawing c) ref.condition text →
      (Text.trimmed text).isEmpty = false)
    (hall : ∀ op, Inlined registry ref.uses op → Sound s.bindings op.condition) :
    ∀ op ∈ ops, ∀ c, Condition.evaluate (s.scope.drawing c) op.condition = .ok false := by
  refine Expansion.holds_of_expandOne
    (Guards s.scope (Unmarked ref.condition) (· = .ok false))
    (fun condition => ∀ c, Condition.evaluate (s.scope.drawing c) condition = .ok false)
    hexpand huses (hsound.guards (by simp) hno ?_) ?_ ?_ ?_
  · intro c text hreads hblank
    rw [htext c text hreads] at hblank
    cases hblank
  · exact fun guard hguard c => (hguard.evaluate c).elim id id
  · exact fun guard op hguard hop _ => hguard.conjoin (by simp) (hall op hop) (hunmarked op hop)
  · exact fun guard op hguard hop _ c =>
      ((hguard.conjoin (by simp) (hall op hop) (hunmarked op hop)).evaluate c).elim id id

end

/-- Where a reference is skipped whatever is drawn, its expanded operations are skipped.  Only
random numbers are used up, nothing is done, and nothing goes wrong unless an id or a condition
cannot be found, which happens before an operation is skipped. -/
theorem comesTo_of_skipped_reference {registry : Registry} {n : Nat} {ref : Operation}
    {ops : List Operation}
    (hexpand : Expansion.expandOne registry (Expansion.expandWithin registry n) ref = .ok ops)
    (huses : ref.uses.isEmpty = false)
    (hno : ∀ c, Condition.evaluate (s.scope.drawing c) ref.condition = .ok false)
    (hsound : Sound s.bindings ref.condition)
    (hmark : Unmarked ref.condition ∨ ∀ op, Inlined registry ref.uses op →
      hasTemplate (Text.trimmed op.condition) = false)
    (hnested : ∀ op, Inlined registry ref.uses op → op.uses.isEmpty = false →
      Sound s.bindings op.condition) :
    ∃ events result c,
      (inOrder (r.execute (room + 1)) ops).ComesTo s events result (s.drawing c) ∧
      (∀ event ∈ events, ∃ told, event = .noted told) ∧
      (result = .ok .next ∨ ∃ op ∈ ops, ∃ e, result = .error e ∧ FailsFor s op e) ∧
      ((∀ c text, ReadsAs (s.bindings.drawing c) ref.condition text →
          (Text.trimmed text).isEmpty = false) →
        (∀ op ∈ ops, ∀ c, ∃ id, idIn (s.drawing c) op = .ok id) →
        (∀ op, Inlined registry ref.uses op → Sound s.bindings op.condition) →
          result = .ok .next) := by
  have hunmarked : ∀ op, Inlined registry ref.uses op →
      hasTemplate (Text.trimmed op.condition) = true → Unmarked ref.condition := by
    intro op hop htemplate
    refine hmark.resolve_right fun hplain => ?_
    rw [hplain op hop] at htemplate
    cases htemplate
  have hnot := evaluate_ne_true_of_expandOne hexpand huses hno hsound hunmarked hnested
  obtain ⟨events, result, c, hcomes, hevents, hresult⟩ := comesTo_inOrder_of_not_hold r room hnot
  refine ⟨events, result, c, hcomes, hevents, hresult, fun htext hids hall => ?_⟩
  have hfalse := evaluate_eq_false_of_expandOne hexpand huses hno hsound hunmarked htext hall
  refine hresult.resolve_right ?_
  rintro ⟨op, hop, e, -, hfails⟩
  exact not_failsFor (hids op hop) (hfalse op hop) hfails

/-- A component that refers to another one. -/
def building : Registry :=
  Registry.registerAll {} [
    { id := "build", operations := [{ id := "compile", command := "make" },
      { uses := "pack", condition := "compile.success" }] },
    { id := "pack", operations := [{ id := "archive", command := "tar" }] }]

/-- A reference to the component that is skipped. -/
def skippedBuild : Operation :=
  { id := "artifact", uses := "build", condition := "false", exitsRecipe := true }

/-- The expanded operations of the reference. -/
def skippedSteps : List Operation :=
  [{ id := "compile", command := "make", condition := "false" },
    { id := "archive", command := "tar", condition := "(false) && (compile.success)" },
    { id := "artifact", condition := "false", isSilent := true, copyFrom := some "archive",
      exitsRecipe := true }]

theorem get?_building (uses : String) : building.get? uses =
    if uses = "pack" then
      some { id := "pack", operations := [{ id := "archive", command := "tar" }] }
    else if uses = "build" then
      some { id := "build", operations := [{ id := "compile", command := "make" },
        { uses := "pack", condition := "compile.success" }] }
    else none := by
  simp only [building, Registry.registerAll, List.foldl, Registry.get?_register]
  rfl

theorem expandOne_skippedBuild :
    Expansion.expandOne building (Expansion.expandWithin building 2) skippedBuild =
      .ok skippedSteps := by
  have hcompile : Condition.conjoin "false" "" = "false" := by decide +kernel
  have hpack : Condition.conjoin "false" "compile.success" = "(false) && (compile.success)" := by
    decide +kernel
  have harchive : Condition.conjoin "(false) && (compile.success)" "" =
      "(false) && (compile.success)" := by decide +kernel
  simp [Expansion.expandOne, Expansion.expandWithin, Expansion.expandEach, skippedBuild,
    skippedSteps, get?_building, Operation.guardedBy, hcompile, hpack, harchive, Operation.settle,
    Operation.endFor, Operation.takeFailureHandler, Operation.takeSignals, Operation.copyStep,
    bind, Except.bind, pure, Except.pure, Except.map]

theorem comesTo_of_skippedBuild :
    ∃ events result c,
      (inOrder ((⟨1, 0, 0, .empty, "", {}⟩ : Run).execute 1) skippedSteps).ComesTo {} events result
        (Store.drawing {} c) ∧
      (∀ event ∈ events, ∃ told, event = .noted told) ∧ result = .ok .next := by
  have hplain : ∀ {condition : String}, hasTemplate condition = false →
      Text.trimmed condition = condition → '(' ∉ condition.toList → ')' ∉ condition.toList →
      Sound (Store.bindings {}) condition := Condition.sound_of_plain _
  have hsound : ∀ op, Inlined building "build" op → Sound (Store.bindings {}) op.condition := by
    refine fun op hop => hop.of_forall (fun op => Sound (Store.bindings {}) op.condition)
      fun uses component hcomponent op hop => ?_
    rw [get?_building] at hcomponent
    split at hcomponent
    · obtain rfl := Option.some.inj hcomponent
      obtain rfl := List.mem_singleton.1 hop
      exact hplain rfl rfl (by decide) (by decide)
    · split at hcomponent
      · obtain rfl := Option.some.inj hcomponent
        simp only [List.mem_cons, List.not_mem_nil, or_false] at hop
        rcases hop with rfl | rfl
        · exact hplain rfl rfl (by decide) (by decide)
        · exact hplain rfl rfl (by decide) (by decide)
      · cases hcomponent
  have hids : ∀ op ∈ skippedSteps, ∀ c, ∃ id, idIn (Store.drawing {} c) op = .ok id := by
    simp only [skippedSteps, List.mem_cons, List.not_mem_nil, or_false]
    rintro op (rfl | rfl | rfl) c
    · exact ⟨_, rfl⟩
    · exact ⟨_, rfl⟩
    · exact ⟨_, rfl⟩
  have hfalse : Text.trimmed "false" = "false" := by decide +kernel
  have hnonempty : ∀ c text, ReadsAs ((Store.bindings {}).drawing c) skippedBuild.condition text →
      (Text.trimmed text).isEmpty = false := by
    intro c text hreads
    obtain rfl := hreads.literal (by decide +kernel)
    decide +kernel
  obtain ⟨events, result, c, hcomes, hevents, -, hnext⟩ :=
    comesTo_of_skipped_reference ⟨1, 0, 0, .empty, "", {}⟩ 0 expandOne_skippedBuild rfl
      (fun _ => Condition.evaluate_false _) (hplain rfl hfalse (by decide) (by decide))
      (.inl fun _ => by decide +kernel) fun op hop _ => hsound op hop
  exact ⟨events, result, c, hcomes, hevents, hnext hnonempty hids hsound⟩

/-- What becomes of an operation that is a component alone, in place of a reference to it that is
skipped in a store. -/
structure SkipsTo (s : Store) (ref op step : Operation) : Prop where
  expand : Expansion.expandOne (.single ref.uses op)
    (Expansion.expandWithin (.single ref.uses op) 1) ref = .ok [step]
  skip : Condition.evaluate s.scope ref.condition = .ok false

/-- An operation whose id is no template that can be read. -/
def unreadable : Operation :=
  { id := "\x7b\x7b", command := "echo x" }

theorem skipsTo_unreadable : SkipsTo {} { uses := "c", condition := "false" } unreadable
    { unreadable with condition := "false" } := by
  refine ⟨?_, Condition.evaluate_false _⟩
  have hcondition : Condition.conjoin "false" "" = "false" := by decide +kernel
  rw [Expansion.expandOne_of_single 0 rfl (Registry.get?_single _ _ _) rfl rfl rfl]
  simp [unreadable, Operation.guardedBy, hcondition, Operation.endFor,
    Operation.takeFailureHandler, Operation.takeSignals]

/-- An operation with a command, an id and a condition. -/
def guarded (id condition : String) : Operation :=
  { id := id, command := "echo x", condition := condition }

theorem skipsTo_guarded {s : Store} {id guard condition : String}
    (hskip : (Condition.evaluate s.scope guard).toOption = some false) :
    SkipsTo s { uses := "c", condition := guard } (guarded id condition)
      (guarded id (Condition.conjoin guard condition)) := by
  refine ⟨?_, toOption_eq_some_iff.1 hskip⟩
  rw [Expansion.expandOne_of_single 0 rfl (Registry.get?_single _ _ _) rfl rfl rfl]
  simp [guarded, Operation.guardedBy, Operation.endFor, Operation.takeFailureHandler,
    Operation.takeSignals]

/-- The strand can run a command and then publish that `b` was successful. -/
def Acts (strand : Strand Signal) (s : Store) : Prop :=
  ∃ events last, Moves nobody strand s events (.done (.ok .next)) last ∧
    (∃ call execution, .command call execution ∈ events) ∧ last.results.get? "b" = some true

theorem acts_perform (execute : Operation → Strand Signal)
    (executeAll : List Operation → Strand Signal) (id condition : String) (c : Chance) :
    Acts (r.perform execute executeAll (guarded id condition) "b" room) { chance := c } := by
  have hcommand : r.perform execute executeAll (guarded id condition) "b" room =
      r.command execute (guarded id condition) "b" room :=
    if_neg (show ¬ Text.isAllBlank "echo x" = true by decide)
  have hrender := (comesTo_render { chance := c } "echo x").moves
  rw [Condition.render_of_plain _ (by decide) (by decide)] at hrender
  rw [hcommand]
  refine ⟨_, _, (hrender.continueWith _).trans <| .own (.report _ _ _) <|
    .own (.command _ _ _ ⟨.exited 0, "", ""⟩) <| .own (.update _ _ _) <|
    .own (.update _ _ _) <| .refl _ _, ?_, rfl⟩
  simp only [List.nil_append, List.cons_append, List.mem_cons]
  exact ⟨_, _, .inr (.inl rfl)⟩

/-- An operation acts if its condition holds once its id is found. -/
theorem acts_inOrder {id condition : String} {c c' : Chance}
    (hid : (idOf (guarded id condition)).ComesTo { chance := c } [] (.ok "b") { chance := c' })
    (hholds : (Condition.evaluate (Store.scope { chance := c' }) condition).toOption = some true) :
    Acts (inOrder (r.execute (room + 1)) [guarded id condition]) { chance := c } := by
  have hcondition := (comesTo_holds { chance := c' } condition).moves
  rw [toOption_eq_some_iff.1 hholds] at hcondition
  obtain ⟨events, last, hperform, ⟨call, execution, hmem⟩, hresult⟩ :=
    acts_perform r room (r.execute room) (inOrder (r.execute room)) id condition (c'.part 1)
  have hbody : Moves nobody (do
        let id ← idOf (guarded id condition)
        if ← holds condition then
          if ← askAll [] then pure (some .exit)
          else some <$> r.perform (r.execute room) (inOrder (r.execute room)) _ id room
        else pure none) { chance := c } events (.done (.ok (some .next))) last :=
    (hid.moves.continueWith _).trans ((hcondition.continueWith _).trans (hperform.continueWith _))
  refine ⟨_, last, .own (.note _ _ _) <| .trans ((hbody.continueWith _).continueWith _) <|
    .own (.note _ _ _) <| .refl _ _, ⟨call, execution, ?_⟩, hresult⟩
  simp [hmem]

/-- Behind a guard that does not hold, an operation acts all the same. -/
def Escapes (guard : String) (op : Operation) (c : Chance) : Prop :=
  ∃ step, SkipsTo { chance := c } { uses := "c", condition := guard } op step ∧
    Acts (inOrder ((⟨1, 0, 0, .empty, "", {}⟩ : Run).execute 1) [step]) { chance := c }

/-- Random numbers that are least in an evaluation and greatest in the next one. -/
def rising : Chance where
  draw place least greatest := if place.head? = some 0 then least else greatest
  within place least greatest h := by
    split
    · exact ⟨Int.le_refl _, h⟩
    · exact ⟨h, Int.le_refl _⟩

/-- A condition that holds if a coin falls on one side. -/
def tossed : String := "\x7b\x7b randInt 0 1 \x7d\x7d == 1"

/-- An id that is a template. -/
def named : String := "\x7b\x7b \"b\" \x7d\x7d"

/-- The id of an operation is found before its condition, so a reference that is skipped fails where
an id in its component cannot be found.  A condition that opens a group too many does not skip what
closes the group, one in which a marker for absent data stands does not skip what is a template, and
one that draws random numbers draws them anew for each operation. -/
theorem exists_trace_of_skipped_reference :
    (∃ step, SkipsTo {} { uses := "c", condition := "false" } unreadable step ∧
      ∃ events c, (inOrder ((⟨1, 0, 0, .empty, "", {}⟩ : Run).execute 1) [step]).ComesTo {}
        events (.error (.templateSyntax (.unclosedAction 0))) (Store.drawing {} c)) ∧
    Escapes "(a.success" (guarded "b" "x)) || (true") .lowest ∧
    Escapes "$a != <no value> 1" (guarded "b" "\x7b\x7b true \x7d\x7d") .lowest ∧
    Escapes tossed (guarded named "") rising := by
  refine ⟨⟨_, skipsTo_unreadable, ?_⟩, ?_, ?_, ?_⟩
  · have hsource : Template.Source.ofChars unreadable.id.toList = .unclosed [] [] :=
      Template.Source.ofChars_of_unclosed rfl rfl
    have hfails : idIn {} { unreadable with condition := "false" } =
        .error (.templateSyntax (.unclosedAction 0)) := by
      rw [idIn, if_pos (by decide), Template.render, Template.renderRaw, if_pos (by decide),
        Template.parse, Template.items, hsource]
      rfl
    obtain ⟨c, hid⟩ := comesTo_idOf {} { unreadable with condition := "false" }
    rw [hfails] at hid
    exact ⟨_, c, (Strand.ComesTo.noted (hid.bind_error _) _ 0).bind_error _⟩
  · exact ⟨_, skipsTo_guarded (by decide +kernel),
      acts_inOrder _ 0 (Strand.comesTo_done _ _) (by decide +kernel)⟩
  · exact ⟨_, skipsTo_guarded (by decide +kernel),
      acts_inOrder _ 0 (Strand.comesTo_done _ _) (by decide +kernel)⟩
  · refine ⟨_, skipsTo_guarded (by decide +kernel), ?_⟩
    have hid := @comesTo_idOf_of_hasTemplate { chance := rising }
      (guarded named (Condition.conjoin tossed "")) (by decide)
    have hname : idIn { chance := rising } (guarded named (Condition.conjoin tossed "")) =
        .ok "b" := toOption_eq_some_iff.1 (by decide +kernel)
    rw [hname] at hid
    exact acts_inOrder _ 0 hid (by decide +kernel)

end RecipeRunner.Run
