import RecipeRunner.Proofs.Run.Frames
/-!
# What follows the operations of a run

In the main strand of a run every return of an operation is followed by what its agenda says.  The
parts of an operation are taken in turn: each is placed in an agenda, if what comes behind it is.

* `Looping.placed_inOrder`: the body of a loop, from any operation of it on.
* `Looping.placed_repeated`: what a loop repeats, from its first pass on.
* `Running.placed_perform`: what an operation is for.
* `placed_mainStrand`: the main strand of a run.
-/

namespace RecipeRunner.Run

open Strand (done note Goes Tidies)

variable {r : Run} {a : Agenda} {left : List Operation} {l : Level} {outer : List Level}
  {op : Operation} {id : String} {flow : ControlFlow} {room : Nat}
  {C K finish : Except Error Signal → Strand Bool}

/-! ## Operations that are running -/

/-- Operations with this room are placed wherever they start. -/
def Enters (r : Run) (room : Nat) : Prop :=
  ∀ {a : Agenda} {K : Except Error Signal → Strand Bool} (op : Operation), a.Settled →
    room + a.levels.length = r.maxDepth + 1 → Resumes r a.advance K →
      (∀ result, Placed r (K result) a.advance) → (∀ e, Placed r (K (.error e)) a) →
        Placed r ((r.execute room op).continueWith K) a

/-- The agenda inside of a loop whose pass has come so far. -/
def inPass (left : List Operation) (l : Level) (outer : List Level) (rest : List Operation) :
    Agenda :=
  ⟨left, { l with left := rest } :: outer⟩

/-- An operation is running under its id, and the run will be resumed behind it. -/
structure Running (r : Run) (left : List Operation) (l : Level) (outer : List Level) (id : String)
    (room : Nat) (K : Except Error Signal → Strand Bool) : Prop where
  known : l.id? = some (.ok id)
  room : room + outer.length = r.maxDepth
  resumes : Resumes r ⟨left, outer⟩ K
  behind : ∀ result, Placed r (K result) ⟨left, outer⟩

/-- A loop is running, which will finish. -/
structure Looping (r : Run) (left : List Operation) (l : Level) (outer : List Level)
    (flow : ControlFlow) (id : String) (room : Nat) (finish K : Except Error Signal → Strand Bool) :
    Prop extends Running r left l outer id room K where
  flow : l.op.controlFlow = some flow
  finishes : Finishes l.op id finish K
  placed : ∀ result rest, Placed r (finish result) (inPass left l outer rest)

theorem orElse_of_ne {next : Strand Signal} {result : Except Error Signal}
    (h : result ≠ .ok .next) : orElse next result = done result := by
  unfold orElse
  split
  · exact absurd rfl h
  · rfl

theorem bind_orElse (s next : Strand Signal) : (do
      match ← s with
      | .next => next
      | signal => pure signal) = s.continueWith (orElse next) := by
  refine congrArg (Strand.continueWith s) (funext fun result => ?_)
  match result with
  | .ok .next => rfl
  | .ok .stop => rfl
  | .ok .exit => rfl
  | .error e => rfl

theorem inOrder_cons (execute : Operation → Strand Signal) (op : Operation)
    (rest : List Operation) :
    inOrder execute (op :: rest) = (execute op).continueWith (orElse (inOrder execute rest)) :=
  bind_orElse _ _

theorem turns_cons (turn : Value → Nat → Strand Signal) (value : Value) (rest : List Value)
    (number : Nat) : turns turn (value :: rest) number =
      (turn value number).continueWith (orElse (turns turn rest (number + 1))) :=
  bind_orElse _ _

theorem passesWhile_succ (condition : Strand Bool) (otherwise : Strand Signal)
    (pass : Nat → Strand Signal) (left number : Nat) :
    passesWhile condition otherwise pass (left + 1) number = (do
      if ← condition then
        (pass number).continueWith (orElse (passesWhile condition otherwise pass left (number + 1)))
      else pure .next) := by
  refine congrArg (condition >>= ·) (funext fun on => ?_)
  cases on with
  | true => exact bind_orElse _ _
  | false => rfl

namespace Looping

variable (h : Looping r left l outer flow id room finish K)

include h

theorem settled_inPass (rest : List Operation) : (inPass left l outer rest).Settled :=
  Agenda.settled_cons h.known

theorem advance_inPass {ops rest : List Operation} {op : Operation}
    (hops : rest = op :: ops ∨ rest = [] ∧ op :: ops = l.op.operations) :
    (inPass left l outer rest).advance = inPass left l outer ops := by
  rcases hops with rfl | ⟨rfl, hops⟩
  · simp only [inPass, Agenda.advance, Level.advance, h.flow]
  · simp only [inPass, Agenda.advance, Level.advance, h.flow, ← hops, List.tail_cons]

/-- The body of a loop is placed, from any operation of it on. -/
theorem placed_inOrder (hexecute : Enters r room)
    (hrepeats : Repeats r flow l.op id (l.pass r room) C K)
    (hC : ∀ result rest, (result = .ok .next → rest = []) →
      Placed r (C result) (inPass left l outer rest))
    {ops rest : List Operation} (hops : rest = ops ∨ rest = [] ∧ ops = l.op.operations) :
    Placed r ((inOrder (r.execute room) ops).continueWith C) (inPass left l outer rest) := by
  induction ops generalizing rest with
  | nil =>
    refine hC (.ok .next) rest fun _ => ?_
    rcases hops with rfl | ⟨rfl, -⟩ <;> rfl
  | cons op ops ih =>
    have hadvance := h.advance_inPass hops
    have hbehind : Resumes r (inPass left l outer ops) fun result =>
        (orElse (inOrder (r.execute room) ops) result).continueWith C :=
      .body h.resumes h.flow h.known h.room hrepeats
    have hrest : ∀ result ops', (result = .ok .next → ops' = ops) → Placed r
        ((orElse (inOrder (r.execute room) ops) result).continueWith C)
          (inPass left l outer ops') := by
      intro result ops' hops'
      by_cases hresult : result = .ok .next
      · obtain rfl := hops' hresult
        subst hresult
        exact ih (.inl rfl)
      · rw [orElse_of_ne hresult]
        exact hC result ops' fun hnext => absurd hnext hresult
    rw [inOrder_cons, Strand.continueWith_assoc]
    refine hexecute op (h.settled_inPass rest) ?_ ?_ (fun result => ?_) fun e => hrest _ rest nofun
    · have hroom := h.room
      simp only [inPass, List.length_cons]
      omega
    · rw [hadvance]
      exact hbehind
    · rw [hadvance]
      exact hrest result ops fun _ => rfl

theorem tidy {close : Except Error Signal → Strand Signal}
    (hclose : ∀ result, (close result).Tidies result) :
    Looping r left l outer flow id room (fun result => (close result).continueWith finish) K :=
  { h with
    finishes := by
      intro result
      obtain ⟨changes, hgoes, hpublished⟩ := h.finishes result
      obtain ⟨others, htidies⟩ := hclose result
      refine ⟨others ++ changes, (htidies.continueWith finish).trans hgoes, ?_⟩
      exact fun signal hsignal hne hid =>
        List.mem_append_right others (hpublished signal hsignal hne hid)
    placed := fun result rest =>
      placed_of_tidies (h.settled_inPass rest) (hclose result) (h.placed result rest) }

/-! ## Passes -/

/-- One pass, and what the loop does behind it. -/
theorem placed_pass (hexecute : Enters r room) {close : Except Error Signal → Strand Signal}
    {again : Strand Signal} (hclose : ∀ result, (close result).Goes [] [] (done result))
    (hrest : Rest r (l.pass r room) flow again)
    (hagain : Placed r (again.continueWith finish) (inPass left l outer [])) :
    Placed r (((l.pass r room).continueWith fun result => (close result).continueWith
      (orElse again)).continueWith finish) (inPass left l outer []) := by
  have hgoes : ∀ result, (((close result).continueWith (orElse again)).continueWith finish).Goes
      [] [] ((orElse again result).continueWith finish) :=
    fun result => ((hclose result).continueWith (orElse again)).continueWith finish
  rw [Strand.continueWith_assoc]
  refine h.placed_inOrder hexecute ⟨again, finish, hrest, h.finishes, hgoes⟩
    (fun result rest hnext => ?_) (.inr ⟨rfl, rfl⟩)
  refine placed_of_goes (h.settled_inPass rest) (hgoes result) ?_
  by_cases hresult : result = .ok .next
  · obtain rfl := hnext hresult
    subst hresult
    exact hagain
  · rw [orElse_of_ne hresult]
    exact h.placed result rest

/-- The turns for the values that are left, behind some passes. -/
theorem placed_turns (hexecute : Enters r room) {name : String}
    {close : Nat → Except Error Signal → Strand Signal} {values : List Value}
    (hclose : ∀ number result, (close number result).Goes [] [] (done result))
    (hrest : ∀ passed, Rest r (l.pass r room) flow
      (turns (bindingTurn name (l.pass r room) close) (values.drop passed) (passed + 1)))
    (passed : Nat) :
    Placed r ((turns (bindingTurn name (l.pass r room) close) (values.drop passed)
      (passed + 1)).continueWith finish) (inPass left l outer []) := by
  generalize hvalues : values.drop passed = rest
  induction rest generalizing passed with
  | nil => exact h.placed (.ok .next) []
  | cons value rest ih =>
    have htail : values.drop (passed + 1) = rest := by
      rw [← List.tail_drop, hvalues, List.tail_cons]
    have hagain := hrest (passed + 1)
    rw [htail] at hagain
    rw [turns_cons]
    refine .update fun s => .update fun s' => ?_
    rw [h.settled_inPass [], h.settled_inPass []]
    have hpass := h.placed_pass hexecute (hclose (passed + 1)) hagain (ih (passed + 1) htail)
    simp only [Strand.continueWith_assoc] at hpass ⊢
    exact hpass

/-- Where no pass is left, a loop with a condition fails or is given up. -/
theorem placed_passesWhile (hexecute : Enters r room) {condition : String} {progress : Bool}
    {limit : Nat} {otherwise : Strand Signal} (hflow : flow = .whileHolds condition progress)
    (hotherwise : r.Exhausts limit otherwise) {count passed : Nat}
    (hcount : count = limit - passed) :
    Placed r ((passesWhile (holds condition) otherwise (numbered (l.pass r room)) count
      (passed + 1)).continueWith finish) (inPass left l outer []) := by
  have hquiet := quiet_compositional (r := r) (h.settled_inPass [])
  induction count generalizing passed with
  | zero =>
    refine (hquiet.holds condition).placed_bind (fun e => h.placed _ []) fun on => ?_
    cases on with
    | true =>
      cases hotherwise with
      | limited => exact h.placed _ []
      | patient => exact .endless _
    | false => exact h.placed _ []
  | succ count ih =>
    have hagain : count = limit - (passed + 1) := by omega
    rw [passesWhile_succ]
    refine (hquiet.holds condition).placed_bind (fun e => h.placed _ []) fun on => ?_
    cases on with
    | true =>
      refine .update fun s => ?_
      rw [h.settled_inPass []]
      have hclose : ∀ result, (done result : Strand Signal).Goes [] [] (done result) :=
        fun _ => .refl _
      have hrest : Rest r (l.pass r room) flow (passesWhile (holds condition) otherwise
          (numbered (l.pass r room)) count (passed + 1 + 1)) := by
        rw [hflow, hagain]
        exact .whileHolds (passed + 1) hotherwise
      have hpass := h.placed_pass hexecute hclose hrest (ih hagain)
      simp only [Strand.continueWith_assoc] at hpass ⊢
      exact hpass
    | false => exact h.placed _ []

end Looping

/-! ## Loops -/

/-- A strand that is run as a loop is followed by what puts the store back. -/
theorem placed_inLoop (ha : a.Settled) {kind : String} {depth : Nat} {names : List String}
    {s : Strand Signal} (h : ∀ close : Except Error Signal → Strand Signal,
      (∀ result, (close result).Tidies result) →
        Placed r (s.continueWith fun result => (close result).continueWith K) a) :
    Placed r ((inLoop kind depth names s).continueWith K) a := by
  refine .update fun s₁ => .update fun s₂ => ?_
  rw [ha s₁, ha s₂]
  change Placed r ((Strand.always _ _).continueWith K) a
  rw [Strand.always, Strand.continueWith_assoc]
  refine h _ fun result => ?_
  exact ((Strand.tidies_modify _).bind (Strand.tidies_modify _)).continueWith
    (Strand.tidies_done result)

theorem placed_condensed (ha : a.Settled) {on : Bool} {s : Strand Signal}
    (h : ∀ close : Except Error Signal → Strand Signal, (∀ result, (close result).Tidies result) →
      Placed r (s.continueWith fun result => (close result).continueWith K) a) :
    Placed r ((r.condensed on s).continueWith K) a := by
  cases on with
  | false => exact h done Strand.tidies_done
  | true =>
    refine .update fun s₁ => ?_
    rw [ha s₁]
    change Placed r ((Strand.always _ _).continueWith K) a
    rw [Strand.always, Strand.continueWith_assoc]
    refine h _ fun result => ?_
    have hwrite : Strand.Tidies
        (if s₁.progress then pure () else Strand.write r.console.endCondensed) (.ok ()) := by
      cases s₁.progress with
      | true => exact Strand.tidies_done _
      | false => exact ⟨[], .report (.refl _)⟩
    exact ((Strand.tidies_modify _).bind hwrite).continueWith (Strand.tidies_done result)

theorem drawing_goes (bar : Bool) (count number : Nat) (result : Except Error Signal) :
    (r.drawing bar count number result).Goes [] [] (done result) := by
  cases result with
  | error e => exact .refl _
  | ok signal =>
    cases bar with
    | true => exact .report (.refl _)
    | false => exact .refl _

theorem Looping.placed_repeated (h : Looping r left l outer flow id room finish K)
    (hexecute : Enters r room) (depth : Nat) :
    Placed r ((r.repeated flow depth (l.pass r room)).continueWith finish)
      (inPass left l outer []) := by
  have ha := h.settled_inPass []
  have hquiet := quiet_compositional (r := r) ha
  have herror : ∀ e, Placed r (finish (.error e)) (inPass left l outer []) := fun e => h.placed _ []
  cases flow with
  | counted times name progress bar =>
    rw [repeated_counted]
    refine (hquiet.render times).placed_bind herror fun text => ?_
    have hcount : Quiet r (inPass left l outer []) Nat
        (Strand.ofExcept (passCount (Text.trimmed text))) := hquiet.done _
    refine hcount.placed_bind herror fun count => ?_
    refine placed_inLoop ha fun close hclose => ?_
    exact (h.tidy hclose).placed_turns hexecute (drawing_goes bar count) (.counted count) 0
  | each collection name progress =>
    rw [repeated_each]
    refine (hquiet.render collection).placed_bind herror fun text => ?_
    refine placed_inLoop ha fun close htidies => ?_
    have hclose : ∀ (_ : Nat) result, (done result : Strand Signal).Goes [] [] (done result) :=
      fun _ result => .refl _
    exact (h.tidy htidies).placed_turns hexecute hclose (.each _) 0
  | whileHolds condition progress =>
    simp only [repeated]
    split
    · next hlimit =>
      refine placed_inLoop ha fun close hclose => ?_
      exact (h.tidy hclose).placed_passesWhile hexecute rfl (.patient _ hlimit)
        (Nat.sub_zero _).symm
    · next hlimit =>
      refine placed_inLoop ha fun close hclose => ?_
      exact (h.tidy hclose).placed_passesWhile hexecute rfl (.limited hlimit)
        (Nat.sub_zero _).symm

/-- What an operation that is a loop does behind its passes. -/
def concluding (op : Operation) (id : String) : Except Error Signal → Strand Signal
  | .ok .exit => pure .exit
  | .ok _ => do
    setResult id true
    pure (.ofOperation op)
  | .error e => Strand.fail e

theorem loop_eq (r : Run) (flow : ControlFlow) (op : Operation) (id : String) (depth : Nat)
    (body : Strand Signal) : r.loop flow op id depth body =
      r.condensed flow.progress ((r.repeated flow depth body).continueWith (concluding op id)) := by
  refine congrArg (r.condensed flow.progress)
    (congrArg (Strand.continueWith _) (funext fun result => ?_))
  match result with
  | .ok .next => rfl
  | .ok .stop => rfl
  | .ok .exit => rfl
  | .error e => rfl

theorem goes_concluding (op : Operation) (id : String) (result : Except Error Signal) :
    ∃ changes, (concluding op id result).Goes [] changes (done (loopResult op result)) ∧
      ∀ signal, result = .ok signal → signal ≠ .exit → id.isEmpty = false →
        (fun s : Store => s.setResult id true) ∈ changes := by
  have hown : ∃ changes, (setResult id true >>= fun _ => pure (Signal.ofOperation op) :
      Strand Signal).Goes [] changes (done (.ok (.ofOperation op))) ∧
        (id.isEmpty = false → (fun s : Store => s.setResult id true) ∈ changes) := by
    unfold setResult
    cases hid : id.isEmpty with
    | true => exact ⟨[], .refl _, nofun⟩
    | false => exact ⟨[_], .update fun _ => .refl _, fun _ => List.mem_singleton_self _⟩
  obtain ⟨changes, hgoes, hpublished⟩ := hown
  match result with
  | .ok .next => exact ⟨changes, hgoes, fun _ _ _ => hpublished⟩
  | .ok .stop => exact ⟨changes, hgoes, fun _ _ _ => hpublished⟩
  | .ok .exit => exact ⟨[], .refl _, fun _ hsignal hne => absurd (Except.ok.inj hsignal).symm hne⟩
  | .error e => exact ⟨[], .refl _, nofun⟩

/-- What a loop does behind its passes, up to its return. -/
theorem finishes_concluding {close : Except Error Signal → Strand Signal}
    (hclose : ∀ result, (close result).Tidies result) :
    Finishes op id (fun result => (concluding op id result).continueWith fun own =>
      (close own).continueWith (returning op K)) K := by
  intro result
  obtain ⟨changes, hgoes, hpublished⟩ := goes_concluding op id result
  obtain ⟨others, htidies⟩ := hclose (loopResult op result)
  have hreturn : (returning op K (loopResult op result)).Goes
      [.returned op (loopResult op result)] [] (K (loopResult op result)) := .note (.refl _)
  have hrest := (htidies.continueWith (returning op K)).trans hreturn
  refine ⟨_, (hgoes.continueWith _).trans hrest, fun signal hsignal hne hid => ?_⟩
  exact List.mem_append_left _ (hpublished signal hsignal hne hid)

/-! ## Operations -/

/-- What is left of an operation once its body has come to a result. -/
def ending (op : Operation) (K : Except Error Signal → Strand Bool)
    (result : Except Error (Option Signal)) : Strand Bool :=
  note (.ending op result) (K (result.map (·.getD .next)))

theorem map_some_continueWith (s : Strand Signal) (op : Operation)
    (K : Except Error Signal → Strand Bool) :
    (some <$> s).continueWith (ending op K) = s.continueWith (returning op K) := by
  refine (Strand.bind_continueWith s _ _).trans ?_
  refine congrArg (Strand.continueWith s) (funext fun result => ?_)
  cases result <;> rfl

theorem ending_map_some (op : Operation) (K : Except Error Signal → Strand Bool)
    (result : Except Error Signal) : ending op K (result.map some) = returning op K result := by
  cases result <;> rfl

/-- What an operation comes to is followed by its end, behind which the run is resumed. -/
theorem placed_ending {levels : List Level} (hresumes : Resumes r ⟨left, levels⟩ K)
    (hK : ∀ result, Placed r (K result) ⟨left, levels⟩) (op : Operation) (l : Level)
    (result : Except Error (Option Signal)) :
    Placed r (ending op K result) ⟨left, l :: levels⟩ := by
  refine .note (fun op' result' htold => ?_) ?_
  · rw [Agenda.tell_ending]
    rcases result with e | _ | signal
    · obtain ⟨-, rfl⟩ := Note.returned.inj htold
      exact ⟨K, hresumes, rfl⟩
    · cases htold
    · obtain ⟨-, rfl⟩ := Note.returned.inj htold
      exact ⟨K, hresumes, rfl⟩
  · rw [Agenda.tell_ending]
    exact hK _

namespace Running

variable (h : Running r left l outer id room K)

include h

theorem settled : Agenda.Settled ⟨left, l :: outer⟩ :=
  Agenda.settled_cons h.known

theorem placed_returning (l' : Level) (result : Except Error Signal) :
    Placed r (returning l.op K result) ⟨left, l' :: outer⟩ := by
  rw [← ending_map_some]
  exact placed_ending h.resumes h.behind l.op l' _

section

variable (hplain : l.op.controlFlow = none) (hexecute : Enters r room)

include hplain hexecute

/-- The operation of a handler is followed by the return of the one that has followed it. -/
theorem placed_handled (handler : String) :
    Placed r ((r.handled (r.execute room) l.op handler).continueWith (returning l.op K))
      ⟨left, l :: outer⟩ := by
  have hadvance : Agenda.advance ⟨left, l :: outer⟩ = ⟨left, l :: outer⟩ := by
    rw [Agenda.advance, Level.advance_of_plain hplain]
  have hcombine : ∀ s : Strand Signal, ((s >>= fun signal =>
      pure (signal.combine (.ofOperation l.op))).continueWith (returning l.op K)) =
        s.continueWith fun result =>
          returning l.op K (result.map (·.combine (.ofOperation l.op))) := by
    intro s
    rw [Strand.bind_continueWith]
    refine congrArg (Strand.continueWith s) (funext fun result => ?_)
    cases result <;> rfl
  unfold handled
  split
  · exact h.placed_returning l _
  · rw [hcombine]
    unfold follow
    split
    · next target _ =>
      refine hexecute target h.settled ?_ ?_ (fun result => ?_) fun e => h.placed_returning l _
      · have hroom := h.room
        simp only [List.length_cons]
        omega
      · rw [hadvance]
        exact .handler h.resumes hplain
      · rw [hadvance]
        exact h.placed_returning l _
    · exact h.placed_returning l _

theorem placed_failed (failure : Error) :
    Placed r ((r.failed (r.execute room) l.op id failure).continueWith (returning l.op K))
      ⟨left, l :: outer⟩ := by
  have hquiet := quiet_compositional (r := r) h.settled
  have herror : ∀ e, Placed r (returning l.op K (.error e)) ⟨left, l :: outer⟩ := fun e =>
    h.placed_returning l _
  refine (hquiet.setResult ⟨fun _ _ => trivial, fun _ _ => trivial⟩ false).placed_bind herror
    fun _ => (hquiet.setVar _ _).placed_bind herror fun _ => ?_
  split
  · exact h.placed_handled hplain hexecute _
  · refine (hquiet.write _).placed_bind herror fun _ => ?_
    have hon : ∀ label failure, Quiet r ⟨left, l :: outer⟩ Bool (goesOn label failure) :=
      fun _ _ => hquiet.question fun _ => hquiet.done _
    refine (hon _ _).placed_bind herror fun on => ?_
    split
    · exact h.placed_returning l _
    · exact h.placed_returning l _

theorem placed_copyOutcome (source : String) :
    Placed r ((r.copyOutcome (r.execute room) l.op source id).continueWith (returning l.op K))
      ⟨left, l :: outer⟩ := by
  have hquiet := quiet_compositional (r := r) h.settled
  refine Quiet.placed_bind (hquiet.update (fun _ => trivial) fun s => hquiet.done _)
    (fun e => h.placed_returning l _) fun outcome => ?_
  split
  · exact h.placed_handled hplain hexecute _
  · exact h.placed_handled hplain hexecute _
  · exact h.placed_returning l _

theorem placed_command (room' : Nat) :
    Placed r ((r.command (r.execute room) l.op id room').continueWith (returning l.op K))
      ⟨left, l :: outer⟩ := by
  have hquiet := quiet_compositional (r := r) h.settled
  have herror : ∀ e, Placed r (returning l.op K (.error e)) ⟨left, l :: outer⟩ := fun e =>
    h.placed_returning l _
  refine (hquiet.render _).placed_bind herror fun command =>
    (hquiet.write _).placed_bind herror fun _ => ?_
  split
  · refine hquiet.startUnit l.op command room' (fun _ => trivial) (fun _ => trivial)
      (fun _ => trivial) (fun u _ signal K hK => .launch (hK _)) _ (h.placed_returning l)
  · refine Quiet.placed_bind (hquiet.call fun execution => hquiet.done _) herror fun execution => ?_
    split
    · refine (hquiet.publishOutput r ⟨fun _ _ => trivial, fun _ _ => trivial⟩ l.op _).placed_bind
        herror fun _ => ?_
      exact h.placed_handled hplain hexecute _
    · split
      · exact h.placed_failed hplain hexecute _
      · exact herror _

end

/-- A loop is placed, from the start of its first pass on. -/
theorem placed_loop (hflow : l.op.controlFlow = some flow) (hexecute : Enters r room)
    (hleft : l.left = []) (depth : Nat) :
    Placed r ((r.loop flow l.op id depth (l.pass r room)).continueWith (returning l.op K))
      ⟨left, l :: outer⟩ := by
  have hfirst : (⟨left, l :: outer⟩ : Agenda) = inPass left l outer [] := by rw [inPass, ← hleft]
  rw [loop_eq]
  refine placed_condensed h.settled fun close hclose => ?_
  rw [Strand.continueWith_assoc, hfirst]
  refine Looping.placed_repeated { h with
    flow := hflow
    finishes := finishes_concluding hclose
    placed := fun result rest => ?_ } hexecute depth
  have hsettled : (inPass left l outer rest).Settled := Agenda.settled_cons h.known
  obtain ⟨changes, hgoes, -⟩ := goes_concluding l.op id result
  refine placed_of_tidies hsettled ⟨changes, hgoes⟩ ?_
  exact placed_of_tidies hsettled (hclose _) (h.placed_returning _ _)

theorem placed_perform (hexecute : Enters r room) (hleft : l.left = []) :
    Placed r ((r.perform (r.execute room) (inOrder (r.execute room)) l.op id room).continueWith
      (returning l.op K)) ⟨left, l :: outer⟩ := by
  have hquiet := quiet_compositional (r := r) h.settled
  unfold perform
  split
  · next flow _ hflow => exact h.placed_loop hflow hexecute hleft _
  · next source hplain _ => exact h.placed_copyOutcome hplain hexecute source
  · next hplain _ =>
    split
    · refine (hquiet.setResult ⟨fun _ _ => trivial, fun _ _ => trivial⟩ true).placed_bind
        (fun e => h.placed_returning l _) fun _ => ?_
      exact h.placed_returning l _
    · exact h.placed_command hplain hexecute room

end Running

/-- What an operation does once it has an id, which the agenda gets to know with the condition. -/
theorem placed_bodyAs (hexecute : Enters r room) (hroom : room + outer.length = r.maxDepth)
    (hresumes : Resumes r ⟨left, outer⟩ K) (hK : ∀ result, Placed r (K result) ⟨left, outer⟩)
    (hknown : ∀ s, (l.look s).id? = some (.ok id)) (hleft : l.left = []) :
    Placed r ((r.bodyAs room l.op id).continueWith (ending l.op K)) ⟨left, l :: outer⟩ := by
  refine .update fun s => ?_
  have hrunning : Running r left (l.look s) outer id room K := ⟨hknown s, hroom, hresumes, hK⟩
  have hquiet := quiet_compositional (r := r) hrunning.settled
  have hend : ∀ result, Placed r (ending l.op K result) ⟨left, l.look s :: outer⟩ :=
    placed_ending hresumes hK l.op _
  have hcondition : Quiet r ⟨left, l.look s :: outer⟩ Bool
      (Strand.ofExcept (Condition.evaluate s.scope l.op.condition)) := hquiet.done _
  refine hcondition.placed_bind (fun e => hend _) fun on => ?_
  split
  · refine (hquiet.askAll _).placed_bind (fun e => hend _) fun stops => ?_
    split
    · exact hend _
    · rw [map_some_continueWith]
      exact hrunning.placed_perform hexecute hleft
  · exact hend _

theorem placed_body (hexecute : Enters r room) (hroom : room + outer.length = r.maxDepth)
    (hresumes : Resumes r ⟨left, outer⟩ K) (hK : ∀ result, Placed r (K result) ⟨left, outer⟩)
    (op : Operation) : Placed r ((r.body room op).continueWith (ending op K))
      ⟨left, ⟨op, none, []⟩ :: outer⟩ := by
  unfold body
  rcases idOf_eq op with ⟨hplain, hid⟩ | ⟨-, hid⟩
  · have hknown : ∀ s, (Level.look s ⟨op, none, []⟩).id? = some (.ok op.id) := by
      intro s
      rw [Level.look, idIn, if_neg (by simp [hplain])]
      rfl
    have hbody := placed_bodyAs hexecute hroom hresumes hK hknown rfl
    rw [hid]
    exact hbody
  · rw [hid]
    refine .update fun s => ?_
    have hend : ∀ result, Placed r (ending op K result)
        ⟨left, Level.look s ⟨op, none, []⟩ :: outer⟩ := placed_ending hresumes hK op _
    change Placed r ((Strand.continueWith (done (idIn s op)) _).continueWith (ending op K))
      ⟨left, Level.look s ⟨op, none, []⟩ :: outer⟩
    cases hfound : idIn s op with
    | error e => exact hend _
    | ok id =>
      have hknown : ∀ s', (Level.look s' (Level.look s ⟨op, none, []⟩)).id? = some (.ok id) := by
        intro s'
        rw [Level.look, Level.look, hfound]
        rfl
      have hbody := placed_bodyAs hexecute hroom hresumes hK hknown rfl
      exact hbody

theorem enters (r : Run) (room : Nat) : Enters r room := by
  induction room with
  | zero => exact fun op _ _ _ _ herror => herror _
  | succ room ih =>
    intro a K op ha hroom hresumes hK herror
    have hlength := a.length_advance
    have hinside : room + a.advance.levels.length = r.maxDepth := by omega
    rw [execute_succ]
    refine .note nofun ?_
    rw [Strand.continueWith_assoc]
    exact placed_body ih hinside hresumes hK op

/-! ## The main strand -/

/-- In the main strand of a run every return of an operation is followed by what its agenda says. -/
theorem placed_mainStrand (r : Run) (ops : List Operation) :
    Placed r (r.mainStrand ops) ⟨ops, []⟩ := by
  induction ops with
  | nil => exact .await fun s => .done _ _
  | cons op rest ih =>
    have hend : ∀ (result : Except Error Bool) (a : Agenda),
        Placed r ((done result).always (Strand.await (pure ()))) a :=
      fun result a => .await fun s => .done _ _
    have hrow : r.mainStrand (op :: rest) =
        (r.execute (r.maxDepth + 1) op).continueWith fun result =>
          (r.recipeBehind rest result).always (Strand.await (pure ())) := by
      rw [mainStrand, recipeStrand, Strand.always, Strand.bind_continueWith]
      refine congrArg (Strand.continueWith _) (funext fun result => ?_)
      match result with
      | .ok .next => rfl
      | .ok .stop => rfl
      | .ok .exit => rfl
      | .error e => rfl
    rw [hrow]
    refine enters r (r.maxDepth + 1) op (Agenda.settled_nil _) rfl (.recipe rest) (fun result => ?_)
      fun e => hend _ _
    match result with
    | .ok .next => exact ih
    | .ok .stop => exact ih
    | .ok .exit => exact hend _ _
    | .error e => exact hend _ _

end RecipeRunner.Run
