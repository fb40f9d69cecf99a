import RecipeRunner.Proofs.Run.Composition
import RecipeRunner.Proofs.Run.History
import RecipeRunner.Proofs.Run.Parts
/-!
# Occurrences of operations

Wherever an operation starts in what a strand does, the strand goes on with the body of the
operation, its end and whatever was to come behind it.  So what is shown of the body of an operation
holds of all its occurrences, however deep in loops and handlers.

* `Strand.compositional_of_move`: properties of strands that are about their steps.
* `Strand.Occurs`: what follows the start of an operation.
* `Run.course_skipped`: what an operation does that is skipped.
-/

namespace RecipeRunner

/-- What a strand exchanges with its surroundings. -/
def Event.IsExchange : Event → Prop
  | launched _ | noted _ => False
  | _ => True

theorem Note.ending_ne_started (op : Operation) (result : Except Error (Option Signal))
    (op' : Operation) (room : Nat) : Note.ending op result ≠ .started op' room := by
  intro heq
  rcases result with e | _ | signal <;> cases heq

theorem append_cons_ne_nil {α : Type} (front : List α) (x : α) (back : List α) :
    front ++ x :: back ≠ [] :=
  List.append_ne_nil_of_right_ne_nil _ (List.cons_ne_nil _ _)

/-- An element of two lists in a row is one of the first or one of the second. -/
theorem exists_of_append_eq_append_cons {α : Type} {front back a b : List α} {x : α}
    (h : front ++ back = a ++ x :: b) :
    (∃ c, front = a ++ x :: c ∧ b = c ++ back) ∨ ∃ c, a = front ++ c ∧ back = c ++ x :: b := by
  rcases List.append_eq_append_iff.1 h with ⟨mid, rfl, hback⟩ | ⟨mid, rfl, hback⟩
  · exact .inr ⟨mid, rfl, hback⟩
  · rcases mid with _ | ⟨y, mid⟩
    · exact .inr ⟨[], by simp, hback.symm⟩
    · obtain ⟨rfl, rfl⟩ := List.cons.inj hback
      exact .inl ⟨mid, rfl, rfl⟩

namespace Strand

variable {α β : Type}

/-! ## Properties of steps -/

/-- A property of strands that is about their steps has only to pass from what a step leads to, and
to strands in a row. -/
theorem compositional_of_move {R : Store → Store → Prop} {P : (α : Type) → Strand α → Prop}
    (haside : ∀ {s t : Store}, s.Local t → R s t)
    (hmove : ∀ {α : Type} {s : Strand α}, (∀ {store last : Store} {new : List Event}
      {t : Strand α}, Move s store new t last → R store last ∧ (∀ event ∈ new, event.IsExchange) ∧
        P α t) → P α s)
    (hrow : ∀ {α β : Type} {s : Strand α} {k : Except Error α → Strand β},
      P α s → (∀ result, P β (k result)) → P β (s.continueWith k)) :
    Compositional R P := by
  have hself : ∀ store : Store, R store store := fun _ => haside ⟨rfl, rfl, rfl, rfl, Nat.le_refl _⟩
  refine ⟨haside, fun _ => hmove nofun, ?_, ?_, ?_, ?_, ?_, hrow⟩
  · intro α change next hchange hnext
    refine hmove fun h => ?_
    cases h
    exact ⟨hchange _, List.forall_mem_nil _, hnext _⟩
  · intro α call next hnext
    refine hmove fun h => ?_
    cases h
    exact ⟨hself _, List.forall_mem_singleton.2 trivial, hnext _⟩
  · intro α spec next hnext
    refine hmove fun h => ?_
    cases h
    exact ⟨hself _, List.forall_mem_singleton.2 trivial, hnext _⟩
  · intro α label failure next hnext
    refine hmove fun h => ?_
    cases h
    exact ⟨hself _, List.forall_mem_singleton.2 trivial, hnext _⟩
  · intro α text next hnext
    refine hmove fun h => ?_
    cases h
    exact ⟨hself _, List.forall_mem_singleton.2 trivial, hnext⟩

/-! ## What follows a start -/

theorem Course.continueWith {s t : Strand α} {acts : List Act} (h : Course s acts t)
    (k : Except Error α → Strand β) : Course (s.continueWith k) acts (t.continueWith k) := by
  induction h with
  | refl => exact .refl _
  | step hmove _ ih => exact .step (hmove.continueWith k) ih

end Strand

/-- What an operation does once it has an id. -/
def Run.bodyAs (r : Run) (room : Nat) (op : Operation) (id : String) : Strand (Option Signal) := do
  if ← holds op.condition then
    if ← askAll op.prompts then pure (some .exit)
    else some <$> r.perform (r.execute room) (inOrder (r.execute room)) op id room
  else pure none

/-- What an operation does between its start and its end. -/
def Run.body (r : Run) (room : Nat) (op : Operation) : Strand (Option Signal) :=
  idOf op >>= r.bodyAs room op

/-- Where nothing matters of what is published, only launches and loops without end remain. -/
theorem Strand.Compositional.body {R : Store → Store → Prop} {P : (α : Type) → Strand α → Prop}
    (hP : Compositional R P) {r : Run} {room : Nat} {op : Operation} (hR : ∀ s t, R s t)
    (hhandler : ∀ {handler op}, r.handlers.get? handler = some op → P Signal (r.execute room op))
    (hinside : ∀ child ∈ op.operations, P Signal (r.execute room child))
    (hendless : r.maxRepeats = 0 → P Signal .endless)
    (hstart : ∀ id command, P Signal (Run.startUnit op id command room)) :
    P (Option Signal) (r.body room op) := by
  refine hP.bind (hP.idOf op) fun id => hP.bind (hP.holds _) fun on => ?_
  split
  · exact hP.engaged (hP.perform hhandler hendless hinside ⟨fun _ _ => hR _ _, fun _ _ => hR _ _⟩
      (fun _ _ _ => hR _ _) (hstart id))
  · exact hP.done _

theorem Run.execute_succ (r : Run) (room : Nat) (op : Operation) :
    r.execute (room + 1) op = .note (.started op room) ((r.body room op).continueWith fun result =>
      .note (.ending op result) (.done (result.map (·.getD .next)))) := by
  rw [execute, Strand.noted_eq]
  rfl

namespace Strand

variable {α β : Type} {r : Run} {s t : Strand α} {acts : List Act}

/-- Wherever an operation starts, its body follows, its end and what was to come behind it. -/
structure Occurs (r : Run) (s : Strand α) : Prop where
  body : ∀ {acts front back : List Act} {start : Act} {t : Strand α} {op : Operation} {room : Nat},
    Course s acts t → acts = front ++ start :: back → start.Starts op room →
      ∃ k : Except Error (Option Signal) → Strand α,
        Course ((r.body room op).continueWith fun result => note (.ending op result) (k result))
          back t

theorem occurs_of_move (h : ∀ {store last : Store} {new : List Event} {t : Strand α},
    Move s store new t last → (∀ op room, .noted (.started op room) ∉ new) ∧ Occurs r t) :
    Occurs r s := by
  refine ⟨fun {acts front back start t op room} hcourse hacts hstarts => ?_⟩
  cases hcourse with
  | refl => exact absurd hacts.symm (append_cons_ne_nil _ _ _)
  | step hmove hrest =>
    obtain ⟨hnone, hnext⟩ := h hmove
    rcases front with _ | ⟨first, front⟩
    · obtain ⟨rfl, -⟩ := List.cons.inj hacts
      exact absurd hstarts (hnone op room)
    · obtain ⟨-, rfl⟩ := List.cons.inj hacts
      exact hnext.body hrest rfl hstarts

theorem Occurs.continueWith {k : Except Error α → Strand β} (hs : Occurs r s)
    (hk : ∀ result, Occurs r (k result)) : Occurs r (s.continueWith k) := by
  refine ⟨fun {acts front back start t op room} hcourse hacts hstarts => ?_⟩
  rcases hcourse.of_continueWith with ⟨next, rfl, hfirst⟩ |
    ⟨earlier, result, later, rfl, hfirst, hsecond⟩
  · obtain ⟨j, hj⟩ := hs.body hfirst hacts hstarts
    refine ⟨fun result => (j result).continueWith k, ?_⟩
    have hrow := hj.continueWith k
    rwa [continueWith_assoc] at hrow
  · rcases exists_of_append_eq_append_cons hacts with ⟨mid, hearlier, rfl⟩ | ⟨mid, -, hlater⟩
    · obtain ⟨j, hj⟩ := hs.body hfirst hearlier hstarts
      refine ⟨fun result => (j result).continueWith k, ?_⟩
      have hrow := (hj.continueWith k).trans hsecond
      rwa [continueWith_assoc] at hrow
    · exact (hk result).body hsecond hlater hstarts

theorem occurs_compositional (r : Run) :
    Compositional (fun _ _ => True) fun _ s => Occurs r s := by
  refine compositional_of_move (fun _ => trivial) (fun h => occurs_of_move fun hmove => ?_)
    fun hs hk => hs.continueWith hk
  obtain ⟨-, hevents, hnext⟩ := h hmove
  exact ⟨fun op room hmem => hevents _ hmem, hnext⟩

theorem occurs_note {told : Note} (hs : Occurs r s) (h : ∀ op room, told ≠ .started op room) :
    Occurs r (note told s) := by
  refine occurs_of_move fun hmove => ?_
  cases hmove
  refine ⟨fun op room hmem => h op room ?_, hs⟩
  exact (Event.noted.inj (List.mem_singleton.1 hmem)).symm

theorem occurs_ending (op : Operation) {result : Except Error (Option Signal)}
    (hs : Occurs r s) : Occurs r (note (.ending op result) s) :=
  occurs_note hs (Note.ending_ne_started op result)

theorem occurs_startUnit (op : Operation) (id command : String) (room : Nat) :
    Occurs r (Run.startUnit op id command room) := by
  have hP := occurs_compositional r
  refine hP.startUnit op command room (fun _ => trivial) (fun _ => trivial) (fun _ => trivial)
    fun u _ signal => occurs_of_move fun hmove => ?_
  cases hmove
  exact ⟨fun op room hmem => (by cases List.mem_singleton.1 hmem), hP.done _⟩

theorem occurs_execute (r : Run) (room : Nat) (op : Operation) :
    Occurs r (r.execute room op) := by
  have hP := occurs_compositional r
  refine hP.execute (fun room op hexecute => ?_) room op
  have hbody : Occurs r (r.body room op) :=
    hP.body (fun _ _ => trivial) (fun _ => hexecute _) (fun _ _ => hexecute _)
      (fun _ => occurs_of_move nofun)
      fun id command => occurs_startUnit op id command room
  have hrest : Occurs r ((r.body room op).continueWith fun result =>
      note (.ending op result) (done (result.map (·.getD .next)))) :=
    hbody.continueWith fun result => occurs_ending op (hP.done _)
  rw [Run.execute_succ]
  refine ⟨fun {acts front back start t op' room'} hcourse hacts hstarts => ?_⟩
  cases hcourse with
  | refl => exact absurd hacts.symm (append_cons_ne_nil _ _ _)
  | step hmove hcourse =>
    cases hmove
    rcases front with _ | ⟨first, front⟩
    · obtain ⟨rfl, rfl⟩ := List.cons.inj hacts
      obtain ⟨rfl, rfl⟩ := Note.started.inj (Event.noted.inj (List.mem_singleton.1 hstarts))
      exact ⟨_, hcourse⟩
    · obtain ⟨-, rfl⟩ := List.cons.inj hacts
      exact hrest.body hcourse rfl hstarts

theorem occurs_mainStrand (r : Run) (ops : List Operation) : Occurs r (r.mainStrand ops) := by
  refine (occurs_compositional r).mainStrand (fun hs => occurs_of_move fun hmove => ?_)
    fun _ _ => occurs_execute r _ _
  cases hmove
  exact ⟨fun op room => List.not_mem_nil, hs⟩

theorem occurs_unitStrand (r : Run) (u : Launch) : Occurs r (r.unitStrand u) :=
  (occurs_compositional r).unitStrand u (fun _ => occurs_execute r _ _)
    (fun _ _ => trivial) (fun _ _ => trivial) fun _ => trivial

/-! ## Skipped operations -/

/-- The first thing that a strand tells of is not that an operation is skipped. -/
structure Unskipped (s : Strand α) : Prop where
  not_mem : ∀ {acts quiet more : List Act} {skip : Act} {t : Strand α} {op : Operation},
    Course s acts t → acts = quiet ++ skip :: more → (∀ act ∈ quiet, act.events = []) →
      .noted (.skipped op) ∉ skip.events

theorem unskipped_of_move (h : ∀ {store last : Store} {new : List Event} {t : Strand α},
    Move s store new t last →
      (∀ op, .noted (.skipped op) ∉ new) ∧ (new = [] → Unskipped t)) : Unskipped s := by
  refine ⟨fun {acts quiet more skip t op} hcourse hacts hquiet => ?_⟩
  cases hcourse with
  | refl => exact absurd hacts.symm (append_cons_ne_nil _ _ _)
  | step hmove hrest =>
    obtain ⟨hnone, hnext⟩ := h hmove
    rcases quiet with _ | ⟨first, quiet⟩
    · obtain ⟨rfl, -⟩ := List.cons.inj hacts
      exact hnone op
    · obtain ⟨rfl, rfl⟩ := List.cons.inj hacts
      obtain ⟨hfirst, hquiet⟩ := List.forall_mem_cons.1 hquiet
      exact (hnext hfirst).not_mem hrest rfl hquiet

theorem Unskipped.continueWith {k : Except Error α → Strand β} (hs : Unskipped s)
    (hk : ∀ result, Unskipped (k result)) : Unskipped (s.continueWith k) := by
  refine ⟨fun {acts quiet more skip t op} hcourse hacts hquiet => ?_⟩
  rcases hcourse.of_continueWith with ⟨next, -, hfirst⟩ |
    ⟨earlier, result, later, rfl, hfirst, hsecond⟩
  · exact hs.not_mem hfirst hacts hquiet
  · rcases exists_of_append_eq_append_cons hacts with ⟨mid, hearlier, -⟩ | ⟨mid, rfl, hlater⟩
    · exact hs.not_mem hfirst hearlier hquiet
    · exact (hk result).not_mem hsecond hlater fun act hact =>
        hquiet act (List.mem_append_right _ hact)

theorem unskipped_compositional : Compositional (fun _ _ => True) fun _ s => Unskipped s := by
  refine compositional_of_move (fun _ => trivial) (fun h => unskipped_of_move fun hmove => ?_)
    fun hs hk => hs.continueWith hk
  obtain ⟨-, hevents, hnext⟩ := h hmove
  exact ⟨fun op hmem => hevents _ hmem, fun _ => hnext⟩

theorem unskipped_body (r : Run) (room : Nat) (op : Operation) : Unskipped (r.body room op) := by
  have hP := unskipped_compositional
  have hexecute : ∀ op, Unskipped (r.execute room op) := by
    refine hP.execute (fun room op _ => ?_) room
    rw [Run.execute_succ]
    refine unskipped_of_move fun hmove => ?_
    cases hmove
    exact ⟨fun op hmem => (by cases List.mem_singleton.1 hmem), nofun⟩
  have hstart : ∀ id command, Unskipped (Run.startUnit op id command room) := by
    intro id command
    refine hP.startUnit op command room (fun _ => trivial) (fun _ => trivial) (fun _ => trivial)
      fun u _ signal => unskipped_of_move fun hmove => ?_
    cases hmove
    exact ⟨fun op hmem => (by cases List.mem_singleton.1 hmem), nofun⟩
  exact hP.body (fun _ _ => trivial) (fun _ => hexecute _) (fun _ _ => hexecute _)
    (fun _ => unskipped_of_move nofun) hstart

/-- Where two strands in a row have come to a result, so has the first. -/
theorem Course.exists_of_bind {s : Strand α} {k : α → Strand β} {acts : List Act} {b : β}
    (h : Course (s >>= k) acts (done (.ok b))) :
    ∃ front a back, acts = front ++ back ∧ Course s front (done (.ok a)) ∧
      Course (k a) back (done (.ok b)) := by
  have hok : ∀ {result : Except Error α} {back : List Act} {t : Strand β},
      Course (done result >>= k) back t → t = done (.ok b) →
        ∃ a, result = .ok a ∧ Course (k a) back (done (.ok b)) := by
    rintro result back t hback rfl
    cases result with
    | ok a => exact ⟨a, rfl, hback⟩
    | error e =>
      have hfail : Course (fail e) back (done (.ok b)) := hback
      cases hfail.eq_nil_of_done.2
  rcases Course.of_continueWith h with ⟨next, hnext, hfirst⟩ |
    ⟨front, result, back, rfl, hfirst, hsecond⟩
  · cases next with
    | done result =>
      obtain ⟨a, rfl, hback⟩ := hok (.refl (done result >>= k)) hnext.symm
      exact ⟨acts, a, [], by simp, hfirst, hback⟩
    | _ => cases hnext
  · obtain ⟨a, rfl, hback⟩ := hok hsecond rfl
    exact ⟨front, a, back, rfl, hfirst, hback⟩

end Strand

/-- The store is looked at, and nothing but random numbers is drawn. -/
def Act.Looks (act : Act) : Prop :=
  act.events = [] ∧ ∃ c, act.after = act.before.drawing c

namespace Run

open Strand (Course)

variable {r : Run} {room : Nat} {op : Operation} {acts : List Act}

theorem idOf_eq (op : Operation) : Template.hasTemplate op.id = false ∧ idOf op = pure op.id ∨
    Template.hasTemplate op.id = true ∧
      idOf op = .update Store.drawn fun s => .done (idIn s op) := by
  unfold idOf idIn
  split
  · next htemplate =>
    refine .inr ⟨htemplate, congrArg (Strand.update Store.drawn) (funext fun s => ?_)⟩
    change Strand.continueWith (.done (Template.render s.bindings op.id)) _ = _
    cases Template.render s.bindings op.id <;> rfl
  · next hplain => exact .inl ⟨by simpa using hplain, rfl⟩

theorem looks_of_course {α : Type} {next : Store → Except Error α} {t : Strand α}
    (h : Course (.update Store.drawn fun s => .done (next s)) acts t) :
    ∀ act ∈ acts, act.Looks := by
  rcases h.of_update with rfl | ⟨store, rest, rfl, hrest⟩
  · exact List.forall_mem_nil _
  · obtain ⟨rfl, -⟩ := hrest.eq_nil_of_done
    exact List.forall_mem_singleton.2 ⟨rfl, _, rfl⟩

/-- A body that comes to nothing has only looked at the store. -/
theorem course_body_none (h : Course (r.body room op) acts (.done (.ok none))) :
    ∀ act ∈ acts, act.Looks := by
  obtain ⟨first, id, behind, rfl, hid, hrest⟩ := h.exists_of_bind
  obtain ⟨second, on, last, rfl, hon, hlast⟩ := hrest.exists_of_bind
  have hfirst : ∀ act ∈ first, act.Looks := by
    rcases idOf_eq op with ⟨-, heq⟩ | ⟨-, heq⟩
    · rw [heq] at hid
      rw [hid.eq_nil_of_done.1]
      exact List.forall_mem_nil _
    · rw [heq] at hid
      exact looks_of_course hid
  have hlastNil : last = [] := by
    split at hlast
    · obtain ⟨asking, stops, performing, rfl, -, hstops⟩ := hlast.exists_of_bind
      split at hstops
      · cases hstops.eq_nil_of_done.2
      · obtain ⟨_, signal, _, -, -, hsome⟩ := Course.exists_of_bind hstops
        cases hsome.eq_nil_of_done.2
    · exact hlast.eq_nil_of_done.1
  rw [hlastNil, List.append_nil]
  intro act hact
  rcases List.mem_append.1 hact with hact | hact
  · exact hfirst act hact
  · exact looks_of_course hon act hact

/-- An operation of which it is told first that it is skipped has done nothing but look at the
store. -/
theorem course_skipped {α : Type} {k : Except Error (Option Signal) → Strand α} {t : Strand α}
    (h : Course ((r.body room op).continueWith fun result => .note (.ending op result) (k result))
      acts t) {quiet more : List Act} {skip : Act} {op' : Operation}
    (hacts : acts = quiet ++ skip :: more) (hquiet : ∀ act ∈ quiet, act.events = [])
    (hskip : .noted (.skipped op') ∈ skip.events) :
    (∀ act ∈ quiet, act.Looks) ∧ skip.events = [.noted (.skipped op)] ∧
      skip.after = skip.before ∧ Course (k (.ok none)) more t := by
  have hbody := Strand.unskipped_body r room op
  rcases h.of_continueWith with ⟨next, -, hfirst⟩ | ⟨front, result, back, rfl, hfirst, hsecond⟩
  · exact absurd hskip (hbody.not_mem hfirst hacts hquiet)
  · rcases exists_of_append_eq_append_cons hacts with ⟨mid, hfront, -⟩ | ⟨mid, rfl, hback⟩
    · exact absurd hskip (hbody.not_mem hfirst hfront hquiet)
    · cases hsecond with
      | refl => exact absurd hback.symm (append_cons_ne_nil _ _ _)
      | step hmove hrest =>
        cases hmove
        rcases mid with _ | ⟨first, mid⟩
        · obtain ⟨rfl, rfl⟩ := List.cons.inj hback
          have hending := Event.noted.inj (List.mem_singleton.1 hskip)
          rcases result with e | _ | signal
          · cases hending
          · rw [List.append_nil]
            exact ⟨course_body_none hfirst, rfl, rfl, hrest⟩
          · cases hending
        · obtain ⟨rfl, -⟩ := List.cons.inj hback
          have hnil := hquiet _ (List.mem_append_right front List.mem_cons_self)
          cases hnil

end Run

end RecipeRunner
