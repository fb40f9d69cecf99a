import RecipeRunner.Proofs.Condition.Evaluation
import RecipeRunner.Proofs.Recipe.Inlining
import RecipeRunner.Proofs.Run.Occurrences
import RecipeRunner.Proofs.Run.Turn
/-!
# Copies of what was not published

Outcomes are kept by id for the whole run, so a copy step copies the latest outcome of its source,
from whichever pass.  Where all operations that come to have the id of the source are skipped
nothing is published under it, in no strand, and its copy steps do nothing.

* `Strand.Careful`: strands that publish nothing under an id if such operations are skipped.
* `Crew.History.unpublished`: then nothing is published under it in the whole run.
* `Crew.History.endsQuietly`: and copy steps change no outcome and follow no handler.
-/

namespace RecipeRunner

namespace Store

/-- No outcome is published under an id. -/
structure Unpublished (s : Store) (x : String) : Prop where
  output : s.outputs.get? x = none
  result : s.results.get? x = none

variable {s t : Store} {x : String}

theorem Unpublished.of_sameAt (h : s.Unpublished x) (hsame : SameAt [x] s t) :
    t.Unpublished x where
  output := (hsame.outputs x (List.mem_singleton_self x)).trans h.output
  result := (hsame.results x (List.mem_singleton_self x)).trans h.result

theorem Unpublished.copyOutcome_eq (h : s.Unpublished x) (id : String) :
    s.copyOutcome x id = s := by
  rw [Store.copyOutcome_eq, h.output, h.result]
  rfl

end Store

open Strand (Course Move Compositional Occurs)
open Store (SameAt)

namespace Act

/-- Nothing comes to be published under an id, and no unit is launched that would do so. -/
structure Spares (act : Act) (x : String) : Prop where
  unpublished : act.before.Unpublished x → act.after.Unpublished x
  launched : ∀ u, .launched u ∈ act.events → u.id ≠ x

theorem Looks.spares {act : Act} (h : act.Looks) (x : String) : act.Spares x where
  unpublished hbefore := by
    obtain ⟨c, hc⟩ := h.2
    rw [hc]
    exact ⟨hbefore.1, hbefore.2⟩
  launched u hu := by
    rw [h.1] at hu
    exact absurd hu List.not_mem_nil

theorem not_starts_ending (op : Operation) (result : Except Error (Option Signal)) (s t : Store)
    (op' : Operation) (room : Nat) :
    ¬ Act.Starts ⟨[.noted (.ending op result)], s, t⟩ op' room := by
  intro hstarts
  have heq := Event.noted.inj (List.mem_singleton.1 hstarts)
  exact Note.ending_ne_started op result op' room heq.symm

/-- No outcome is changed, and no operation starts. -/
structure Quiet (act : Act) : Prop where
  outputs : act.after.outputs = act.before.outputs
  results : act.after.results = act.before.results
  not_starts : ∀ op room, ¬ act.Starts op room

end Act

/-- Every operation that comes to have an id is skipped, unless it copies what is published under
it. -/
def Skipping (x : String) (acts : List Act) : Prop :=
  ∀ front back first look op room, acts = front ++ first :: look :: back → first.Starts op room →
    ¬ op.Copies x → Run.idIn look.before op = .ok x →
    ∃ quiet skip more, look :: back = quiet ++ skip :: more ∧ (∀ act ∈ quiet, act.events = []) ∧
      .noted (.skipped op) ∈ skip.events

namespace Skipping

variable {x : String} {front back : List Act}

theorem right (h : Skipping x (front ++ back)) : Skipping x back := by
  intro earlier later first look op room hback
  exact h (front ++ earlier) later first look op room (by rw [hback, List.append_assoc])

theorem tail {act : Act} (h : Skipping x (act :: back)) : Skipping x back := by
  rw [← List.singleton_append] at h
  exact h.right

theorem nil (x : String) : Skipping x [] := by
  intro front back first look op room hacts
  exact absurd hacts.symm (append_cons_ne_nil _ _ _)

theorem cons {act : Act} (h : Skipping x back) (hact : ∀ op room, act.Starts op room →
    op.Copies x ∨ ∃ quiet skip more, back = quiet ++ skip :: more ∧
      (∀ act ∈ quiet, act.events = []) ∧ .noted (.skipped op) ∈ skip.events) :
    Skipping x (act :: back) := by
  intro front later first look op room hacts hstarts hcopies hid
  rcases front with _ | ⟨_, front⟩
  · obtain ⟨rfl, rfl⟩ := List.cons.inj hacts
    exact (hact op room hstarts).resolve_left hcopies
  · obtain ⟨rfl, rfl⟩ := List.cons.inj hacts
    exact h front later first look op room rfl hstarts hcopies hid

theorem cons_of_not_starts {act : Act} (h : Skipping x back)
    (hact : ∀ op room, ¬ act.Starts op room) : Skipping x (act :: back) :=
  h.cons fun op room hstarts => absurd hstarts (hact op room)

end Skipping

namespace Strand

variable {α β : Type} {r : Run} {x : String} {s t : Strand α}

theorem exists_event_of_done {body : Strand (Option Signal)}
    {told : Except Error (Option Signal) → Note} {k : Except Error (Option Signal) → Strand α}
    {acts : List Act} {result : Except Error α}
    (h : Course (body.continueWith fun result => note (told result) (k result)) acts
      (done result)) : ∃ act ∈ acts, act.events ≠ [] := by
  rcases h.of_continueWith with ⟨next, hnext, -⟩ | ⟨front, bodyResult, back, rfl, -, hsecond⟩
  · cases next <;> cases hnext
  · cases hsecond with
    | step hmove _ =>
      cases hmove
      exact ⟨_, List.mem_append_right front List.mem_cons_self, List.cons_ne_nil _ _⟩

/-- What a strand that has ended leaves behind it does not decide whether operations in it are
skipped. -/
theorem Occurs.skipping_left (hs : Occurs r s) {front back : List Act} {result : Except Error α}
    (hcourse : Course s front (done result)) (h : Skipping x (front ++ back)) :
    Skipping x front := by
  intro earlier later first look op room hfront hstarts hcopies hid
  have hacts : front ++ back = earlier ++ first :: look :: (later ++ back) := by
    rw [hfront, List.append_assoc]
    rfl
  obtain ⟨quiet, skip, more, hlater, hquiet, hskip⟩ :=
    h earlier (later ++ back) first look op room hacts hstarts hcopies hid
  rw [← List.cons_append] at hlater
  rcases exists_of_append_eq_append_cons hlater with
    ⟨rest, hrest, -⟩ | ⟨rest, rfl, -⟩
  · exact ⟨quiet, skip, rest, hrest, hquiet, hskip⟩
  · -- the strand cannot end between the start and the end of an operation
    obtain ⟨k, hk⟩ := hs.body hcourse hfront hstarts
    obtain ⟨act, hact, hne⟩ := exists_event_of_done hk
    exact absurd (hquiet act (List.mem_append_left rest hact)) hne

/-- A strand that publishes nothing under an id if the operations that come to have it are
skipped. -/
structure Careful (r : Run) (x : String) (s : Strand α) : Prop where
  occurs : Occurs r s
  spares : ∀ {acts : List Act} {t : Strand α}, Course s acts t → Skipping x acts →
    ∀ act ∈ acts, act.Spares x

theorem careful_of_move (h : ∀ {store last : Store} {new : List Event} {t : Strand α},
    Move s store new t last → (∀ op room, .noted (.started op room) ∉ new) ∧
      Act.Spares ⟨new, store, last⟩ x ∧ Careful r x t) : Careful r x s where
  occurs := occurs_of_move fun hmove => ⟨(h hmove).1, (h hmove).2.2.occurs⟩
  spares {acts t} hcourse hskipping := by
    cases hcourse with
    | refl => exact List.forall_mem_nil _
    | step hmove hrest =>
      obtain ⟨-, hspares, hnext⟩ := h hmove
      exact List.forall_mem_cons.2 ⟨hspares, hnext.spares hrest hskipping.tail⟩

theorem Careful.continueWith {k : Except Error α → Strand β} (hs : Careful r x s)
    (hk : ∀ result, Careful r x (k result)) : Careful r x (s.continueWith k) where
  occurs := hs.occurs.continueWith fun result => (hk result).occurs
  spares {acts t} hcourse hskipping := by
    rcases hcourse.of_continueWith with ⟨next, -, hfirst⟩ |
      ⟨front, result, back, rfl, hfirst, hsecond⟩
    · exact hs.spares hfirst hskipping
    · intro act hact
      rcases List.mem_append.1 hact with hact | hact
      · exact hs.spares hfirst (hs.occurs.skipping_left hfirst hskipping) act hact
      · exact (hk result).spares hsecond hskipping.right act hact

theorem careful_compositional (r : Run) (x : String) :
    Compositional (fun s t => s.Unpublished x → t.Unpublished x) fun _ s => Careful r x s := by
  refine compositional_of_move (fun hlocal h => ?_) (fun h => careful_of_move fun hmove => ?_)
    fun hs hk => hs.continueWith hk
  · exact h.of_sameAt (Store.sameAt_of_eq hlocal.outputs hlocal.results)
  · obtain ⟨hstore, hevents, hnext⟩ := h hmove
    exact ⟨fun op room hmem => hevents _ hmem, ⟨hstore, fun u hu => (hevents _ hu).elim⟩, hnext⟩

theorem careful_ending (op : Operation) (result : Except Error (Option Signal))
    (hs : Careful r x s) : Careful r x (note (.ending op result) s) := by
  refine careful_of_move fun {store _ _ _} hmove => ?_
  cases hmove
  refine ⟨Act.not_starts_ending op result store store, ⟨id, fun u hu => ?_⟩, hs⟩
  cases List.mem_singleton.1 hu

theorem permits_of_ne {id : String} (hid : id ≠ x) :
    Store.Permits (fun s t => s.Unpublished x → t.Unpublished x) id where
  output s output hs := hs.of_sameAt (Store.sameAt_setOutput s (by simpa using hid) output)
  result s success hs := hs.of_sameAt (Store.sameAt_setResult s (by simpa using hid) success)

theorem careful_startUnit {id : String} (hid : id ≠ x) (op : Operation) (command : String)
    (room : Nat) : Careful r x (Run.startUnit op id command room) := by
  have hP := careful_compositional r x
  have hpermits := permits_of_ne hid
  refine hP.startUnit op command room (fun s hs => hs.of_sameAt (Store.sameAt_of_eq rfl rfl))
    (fun s hs => hpermits.result _ _ (hpermits.output s _ hs))
    (fun s hs => hs.of_sameAt (Store.sameAt_of_eq rfl rfl)) fun u hu signal => ?_
  refine careful_of_move fun hmove => ?_
  cases hmove
  refine ⟨fun op room hmem => (by cases List.mem_singleton.1 hmem),
    ⟨fun hs => hs, fun u' hu' => ?_⟩, hP.done _⟩
  obtain rfl := Event.launched.inj (List.mem_singleton.1 hu')
  rwa [hu]

theorem careful_bodyAs {room : Nat} (h : ∀ op, Careful r x (r.execute room op)) {op : Operation}
    {id : String} (hid : id ≠ x ∨ op.Copies x) : Careful r x (r.bodyAs room op id) := by
  have hP := careful_compositional r x
  refine hP.bind (hP.holds _) fun on => ?_
  split
  · refine hP.engaged ?_
    rcases hid with hid | hcopies
    · refine hP.perform (fun _ => h _) (fun _ => careful_of_move nofun) (fun _ _ => h _)
        (permits_of_ne hid) (fun source _ s hs => ?_)
        fun command => careful_startUnit hid op command room
      exact hs.of_sameAt (Store.sameAt_copyOutcome s source (by simpa using hid))
    · rw [Run.perform]
      simp only [hcopies.controlFlow, hcopies.copyFrom]
      refine hP.copyOutcome (fun _ => h _) (fun s hs => ?_) op
      rw [hs.copyOutcome_eq]
      exact hs
  · exact hP.done _

/-- An operation that is skipped, or that comes to have another id, publishes nothing under the
id. -/
theorem careful_execute (r : Run) (x : String) (room : Nat) (op : Operation) :
    Careful r x (r.execute room op) := by
  have hP := careful_compositional r x
  refine hP.execute (fun room op hexecute => ⟨occurs_execute r _ op, ?_⟩) room op
  intro acts t hcourse hskipping
  rw [Run.execute_succ] at hcourse
  cases hcourse with
  | refl => exact List.forall_mem_nil _
  | @step _ _ _ store _ _ rest hmove hrest =>
    cases hmove
    refine List.forall_mem_cons.2 ⟨⟨fun hs => hs, fun u hu => ?_⟩, ?_⟩
    · cases List.mem_singleton.1 hu
    have hend : ∀ result : Except Error (Option Signal), Careful r x
        (note (.ending op result) (done (result.map (·.getD .next)))) :=
      fun result => careful_ending op result (hP.done _)
    by_cases hcopies : op.Copies x
    · have hbody : Careful r x (r.body room op) :=
        hP.bind (hP.idOf op) fun id => careful_bodyAs hexecute (.inr hcopies)
      exact (hbody.continueWith hend).spares hrest hskipping.tail
    rcases rest with _ | ⟨look, behind⟩
    · exact List.forall_mem_nil _
    -- the act behind the start decides which id the operation comes to have
    by_cases hid : Run.idIn look.before op = .ok x
    · obtain ⟨quiet, skip, more, hquiets, hquiet, hskip⟩ :=
        hskipping [] behind _ look op room rfl (List.mem_singleton_self _) hcopies hid
      obtain ⟨hlooks, hevents, hafter, hmore⟩ := Run.course_skipped hrest hquiets hquiet hskip
      obtain ⟨rfl, -⟩ := hmore.eq_nil_of_done
      rw [hquiets]
      intro act hact
      rcases List.mem_append.1 hact with hact | hact
      · exact (hlooks act hact).spares x
      · obtain rfl := List.mem_singleton.1 hact
        refine ⟨fun hs => hafter ▸ hs, fun u hu => ?_⟩
        rw [hevents] at hu
        cases List.mem_singleton.1 hu
    · -- a template is rendered in the store of that act, and in no other
      rcases Run.idOf_eq op with ⟨hplain, hidOf⟩ | ⟨htemplate, hidOf⟩
      · have hne : op.id ≠ x := by
          rintro rfl
          rw [Run.idIn, hplain] at hid
          exact hid rfl
        have hbody : Careful r x (r.body room op) := by
          rw [Run.body, hidOf, pure_bind]
          exact careful_bodyAs hexecute (.inl hne)
        exact (hbody.continueWith hend).spares hrest hskipping.tail
      · rw [Run.body, hidOf] at hrest
        rcases Course.of_update hrest with hnil | ⟨s, rest, hacts, hbehind⟩
        · cases hnil
        · obtain ⟨rfl, rfl⟩ := List.cons.inj hacts
          refine List.forall_mem_cons.2 ⟨Act.Looks.spares ⟨rfl, _, rfl⟩ x, ?_⟩
          have hcareful : Careful r x ((done (Run.idIn s op) >>= r.bodyAs room op).continueWith
              fun result => note (.ending op result) (done (result.map (·.getD .next)))) := by
            refine Careful.continueWith ?_ hend
            cases hin : Run.idIn s op with
            | error e => exact hP.done _
            | ok id => exact careful_bodyAs hexecute (.inl fun heq => hid (by rw [hin, heq]))
          exact hcareful.spares hbehind hskipping.tail.tail

theorem careful_mainStrand (r : Run) (x : String) (ops : List Operation) :
    Careful r x (r.mainStrand ops) := by
  refine (careful_compositional r x).mainStrand (fun hs => careful_of_move fun hmove => ?_)
    fun _ _ => careful_execute r x _ _
  cases hmove
  exact ⟨fun op room => List.not_mem_nil, Act.Looks.spares ⟨rfl, _, rfl⟩ x, hs⟩

theorem careful_unitStrand (r : Run) {x : String} {u : Launch} (hu : u.id ≠ x) :
    Careful r x (r.unitStrand u) := by
  refine (careful_compositional r x).unitStrand u (fun _ => careful_execute r x _ _)
    (fun s told hs => ?_) (fun s told hs => ?_) fun s hs => ?_
  · exact hs.of_sameAt (Store.sameAt_of_eq rfl rfl)
  · exact hs.of_sameAt (Store.sameAt_publishOutcome s (by simpa using hu) told)
  · exact hs.of_sameAt (Store.sameAt_of_eq rfl rfl)

/-! ## Copy steps -/

/-- A strand that is quiet as long as nothing is published under an id. -/
structure Hushed (x : String) (s : Strand α) : Prop where
  quiet : ∀ {acts : List Act} {t : Strand α}, Course s acts t →
    (∀ act ∈ acts, act.before.Unpublished x) → ∀ act ∈ acts, act.Quiet

theorem hushed_of_move (h : ∀ {store last : Store} {new : List Event} {t : Strand α},
    Move s store new t last → store.Unpublished x → Act.Quiet ⟨new, store, last⟩ ∧ Hushed x t) :
    Hushed x s where
  quiet {acts t} hcourse hbefore := by
    cases hcourse with
    | refl => exact List.forall_mem_nil _
    | step hmove hrest =>
      obtain ⟨hstore, hbefore⟩ := List.forall_mem_cons.1 hbefore
      obtain ⟨hquiet, hnext⟩ := h hmove hstore
      exact List.forall_mem_cons.2 ⟨hquiet, hnext.quiet hrest hbefore⟩

theorem Hushed.continueWith {k : Except Error α → Strand β} (hs : Hushed x s)
    (hk : ∀ result, Hushed x (k result)) : Hushed x (s.continueWith k) where
  quiet {acts t} hcourse hbefore := by
    rcases hcourse.of_continueWith with ⟨next, -, hfirst⟩ |
      ⟨front, result, back, rfl, hfirst, hsecond⟩
    · exact hs.quiet hfirst hbefore
    · obtain ⟨hfront, hback⟩ := List.forall_mem_append.1 hbefore
      exact List.forall_mem_append.2
        ⟨hs.quiet hfirst hfront, (hk result).quiet hsecond hback⟩

theorem hushed_compositional (x : String) :
    Compositional (fun s t => t.outputs = s.outputs ∧ t.results = s.results)
      fun _ s => Hushed x s := by
  refine compositional_of_move (fun h => ⟨h.outputs, h.results⟩)
    (fun h => hushed_of_move fun hmove _ => ?_) fun hs hk => hs.continueWith hk
  obtain ⟨hstore, hevents, hnext⟩ := h hmove
  exact ⟨⟨hstore.1, hstore.2, fun op room hmem => hevents _ hmem⟩, hnext⟩

theorem hushed_body {op : Operation} (h : op.Copies x) (r : Run) (room : Nat) :
    Hushed x (r.body room op) := by
  have hP := hushed_compositional x
  refine hP.bind (hP.idOf op) fun id => hP.bind (hP.holds _) fun on => ?_
  split
  · refine hP.engaged ?_
    rw [Run.perform]
    simp only [h.controlFlow, h.copyFrom, Run.copyOutcome_eq]
    refine hushed_of_move fun hmove hstore => ?_
    cases hmove
    dsimp only
    rw [hstore.result, hstore.copyOutcome_eq, ite_self]
    exact ⟨⟨rfl, rfl, fun op room => Act.not_starts_of_nil rfl⟩, hP.done _⟩
  · exact hP.done _

end Strand

/-- Behind the start of a copy step its acts are quiet up to the end that it tells of. -/
def EndsQuietly (op : Operation) (acts : List Act) : Prop :=
  ∃ quiet rest, acts = quiet ++ rest ∧ (∀ act ∈ quiet, act.Quiet) ∧
    (rest = [] ∨ ∃ last more result, rest = last :: more ∧
      last.events = [.noted (.ending op result)])

theorem Run.endsQuietly_of_copies {r : Run} {x : String} {op : Operation} (h : op.Copies x)
    {room : Nat} {α : Type} {k : Except Error (Option Signal) → Strand α} {acts : List Act}
    {t : Strand α} (hcourse : Course ((r.body room op).continueWith fun result =>
      .note (.ending op result) (k result)) acts t)
    (hbefore : ∀ act ∈ acts, act.before.Unpublished x) : EndsQuietly op acts := by
  have hbody := Strand.hushed_body h r room
  rcases hcourse.of_continueWith with ⟨next, -, hfirst⟩ |
    ⟨front, result, back, rfl, hfirst, hsecond⟩
  · exact ⟨acts, [], by simp, hbody.quiet hfirst hbefore, .inl rfl⟩
  · obtain ⟨hfront, -⟩ := List.forall_mem_append.1 hbefore
    refine ⟨front, back, rfl, hbody.quiet hfirst hfront, ?_⟩
    cases hsecond with
    | refl => exact .inl rfl
    | step hmove _ =>
      cases hmove
      exact .inr ⟨_, _, result, rfl, rfl⟩

/-! ## Runs -/

namespace Crew

variable {r : Run} {ops : List Operation} {store : Store} {acts : List (Option Nat × Act)}
  {d : Crew} {x : String}

theorem History.spares (h : History r (start r ops store) acts d)
    (hskipping : ∀ who, Skipping x (own who acts)) {front back : List (Option Nat × Act)}
    {c c' : Crew} {who : Option Nat} {act : Act} (hacts : acts = front ++ (who, act) :: back)
    (hstep : Step r c who act c') (hback : History r c' back d)
    (hunits : ∀ entry ∈ c.units, entry.1.id ≠ x) : act.Spares x := by
  have hown : act ∈ own who acts := mem_own (hacts ▸ List.mem_append_right _ List.mem_cons_self)
  cases who with
  | none =>
    exact (Strand.careful_mainStrand r x ops).spares h.main_course (hskipping none) act hown
  | some n =>
    cases hc : c.units[n]? with
    | none => exact absurd rfl (hstep.ne_some hc)
    | some entry =>
      obtain ⟨u, s⟩ := entry
      obtain ⟨s', hs', -⟩ := hstep.unit_of_some hc
      obtain ⟨t, ht, -⟩ := hback.unit_course_of_some hs'
      obtain ⟨hcourse, -⟩ := h.unit_course ht
      exact (Strand.careful_unitStrand r (hunits _ (List.mem_of_getElem? hc))).spares hcourse
        (hskipping (some n)) act hown

/-- Where all operations that come to have an id are skipped nothing is published under it. -/
theorem History.unpublished (h : History r (start r ops store) acts d)
    (hskipping : ∀ who, Skipping x (own who acts)) (hstore : store.Unpublished x)
    {front back : List (Option Nat × Act)} {c : Crew} (hacts : acts = front ++ back)
    (hfront : History r (start r ops store) front c) (hback : History r c back d) :
    c.store.Unpublished x ∧ ∀ entry ∈ c.units, entry.1.id ≠ x := by
  -- by induction on what comes before; which operations are skipped is known of the whole run
  induction hfront generalizing back with
  | nil => exact ⟨hstore, nofun⟩
  | @snoc front c c' who act hfront hstep ih =>
    have hrest : History r c ((who, act) :: back) d := (History.nil.snoc hstep).trans hback
    rw [List.append_assoc] at hacts
    obtain ⟨hc, hunits⟩ := ih hacts hrest
    have hspares := h.spares hskipping hacts hstep hback hunits
    refine ⟨?_, fun entry hentry => ?_⟩
    · rw [← hstep.after_eq]
      exact hspares.unpublished (hstep.before_eq ▸ hc)
    · obtain ⟨n, hn⟩ := List.mem_iff_getElem?.1 hentry
      cases hc : c.units[n]? with
      | none => exact hspares.launched _ (hstep.unit_of_none hc hn).2
      | some old =>
        obtain ⟨t, ht, -⟩ := hstep.unit_of_some hc
        obtain rfl := Option.some.inj (ht.symm.trans hn)
        exact hunits old (List.mem_of_getElem? hc)

theorem History.occurs (h : History r (start r ops store) acts d) {who : Option Nat}
    {front back : List Act} {first : Act} {op : Operation} {room : Nat}
    (hown : own who acts = front ++ first :: back) (hstarts : first.Starts op room) :
    ∃ (α : Type) (k : Except Error (Option Signal) → Strand α) (t : Strand α),
      Course ((r.body room op).continueWith fun result => .note (.ending op result) (k result))
        back t := by
  cases who with
  | none =>
    obtain ⟨k, hk⟩ := (Strand.occurs_mainStrand r ops).body h.main_course hown hstarts
    exact ⟨Bool, k, _, hk⟩
  | some n =>
    cases hunit : d.units[n]? with
    | none =>
      rw [h.own_eq_nil hunit] at hown
      exact absurd hown.symm (append_cons_ne_nil _ _ _)
    | some entry =>
      obtain ⟨u, t⟩ := entry
      obtain ⟨k, hk⟩ := (Strand.occurs_unitStrand r u).body (h.unit_course hunit).1 hown hstarts
      exact ⟨Unit, k, _, hk⟩

/-- If all operations that come to have an id are skipped in a run, in all its strands, then copy
steps of the id change no outcome and follow no handler. -/
theorem History.endsQuietly (h : History r (start r ops store) acts d)
    (hstore : store.Unpublished x) (hskipping : ∀ who, Skipping x (own who acts))
    {who : Option Nat} {front back : List Act} {first : Act} {copy : Operation} {room : Nat}
    (hown : own who acts = front ++ first :: back) (hstarts : first.Starts copy room)
    (hcopies : copy.Copies x) : EndsQuietly copy back := by
  obtain ⟨α, k, t, hcourse⟩ := h.occurs hown hstarts
  refine Run.endsQuietly_of_copies hcopies hcourse fun act hact => ?_
  have hmem : act ∈ own who acts := by
    rw [hown]
    exact List.mem_append_right _ (List.mem_cons_of_mem _ hact)
  obtain ⟨earlier, later, hacts⟩ := List.append_of_mem (mem_of_mem_own hmem)
  obtain ⟨c, c', hearlier, hstep, hlater⟩ := h.exists_step hacts
  have hrest : History r c ((who, act) :: later) d := (History.nil.snoc hstep).trans hlater
  rw [hstep.before_eq]
  exact (h.unpublished hskipping hstore hacts hearlier hrest).1

/-- A command that is run unless it was successful before. -/
def compile : Operation :=
  { id := "compile", command := "echo compiled", condition := "compile.failure" }

/-- The command where it is never run. -/
def disabled : Operation :=
  { compile with condition := "false" }

/-- The step that copies the outcome of the command for a reference. -/
def compileCopy (id onSuccess : String) : Operation where
  id := id
  isSilent := true
  onSuccess := onSuccess
  copyFrom := some "compile"

/-- The handler of a reference. -/
def announce : Operation :=
  { id := "announce", command := "echo announced" }

/-- A run in which the handler can be referred to. -/
def announcing : Run :=
  ⟨1, 0, 0, ⟨[("announce", announce)]⟩, "", {}⟩

theorem bodyAs_of_evaluate {op : Operation} {truth : Store → Bool}
    (h : ∀ s : Store, Condition.evaluate s.scope op.condition = .ok (truth s)) (r : Run)
    (room : Nat) : r.bodyAs room op = fun name =>
      Strand.update Store.drawn (fun s => .done (.ok (truth s))) >>= fun on =>
        if on = true then (do
          if ← Run.askAll op.prompts then pure (some .exit)
          else some <$> r.perform (r.execute room) (Run.inOrder (r.execute room)) op name room)
        else pure none := by
  funext name
  have hholds : Run.holds op.condition = .update Store.drawn fun s => .done (.ok (truth s)) :=
    congrArg (Strand.update Store.drawn) (funext fun s => congrArg Strand.done (h s))
  rw [Run.bodyAs, hholds]

theorem evaluate_disabled (s : Store) :
    Condition.evaluate s.scope disabled.condition = .ok ((fun _ => false) s) := by
  have htrimmed : Text.trimmed disabled.condition = disabled.condition := by decide +kernel
  have hcore : Condition.core disabled.condition.toList = disabled.condition.toList :=
    Condition.core_of_unblank (by decide) (by decide)
  rw [Condition.evaluate, htrimmed]
  exact Condition.eval_of_atom _ hcore rfl rfl rfl

theorem endsQuietly_compileCopy :
    ∃ acts d front first back,
      History announcing (start announcing [disabled, compileCopy "release" "announce"] {}) acts d ∧
      (∀ who, Skipping "compile" (own who acts)) ∧ own none acts = front ++ first :: back ∧
      front.length = 3 ∧ first.Starts (compileCopy "release" "announce") 1 ∧ back.length = 3 ∧
      EndsQuietly (compileCopy "release" "announce") back := by
  have hcopies : (compileCopy "release" "announce").Copies "compile" := ⟨rfl, rfl, rfl⟩
  have hbody := bodyAs_of_evaluate evaluate_disabled announcing announcing.maxDepth
  obtain ⟨main, hmain⟩ : ∃ main, main =
    announcing.mainStrand [disabled, compileCopy "release" "announce"] := ⟨_, rfl⟩
  have hopened := hmain
  simp only [Run.mainStrand, Run.recipeStrand, Run.execute_succ, Run.body, hbody] at hopened
  have h := (History.nil : History announcing ⟨{}, main, []⟩ [] _)
  rw [hopened] at h
  have h := h
      |>.snoc (.main (.note _ _ _)) |>.snoc (.main (.update _ _ _)) |>.snoc (.main (.note _ _ _))
      |>.snoc (.main (.note _ _ _)) |>.snoc (.main (.update _ _ _)) |>.snoc (.main (.update _ _ _))
      |>.snoc (.main (.note _ _ _))
  rw [← hopened, hmain] at h
  refine ⟨_, _, _, _, _, h, ?skipping, (rfl : own none _ = [_, _, _] ++ _ :: _), rfl,
    List.mem_singleton_self _, rfl, h.endsQuietly ⟨rfl, rfl⟩ ?skipping
      (rfl : own none _ = [_, _, _] ++ _ :: _) (List.mem_singleton_self _) hcopies⟩
  intro who
  cases who with
  | some n => exact Skipping.nil _
  | none =>
    have hlook : ∀ (s t : Store) (op : Operation) (room : Nat), ¬ Act.Starts ⟨[], s, t⟩ op room :=
      fun s t op room => Act.not_starts_of_nil rfl
    have hended := Act.not_starts_ending
    refine .cons (.cons_of_not_starts (.cons_of_not_starts (.cons (.cons_of_not_starts
      (.cons_of_not_starts (.cons_of_not_starts (.nil _) (hended _ _ _ _)) (hlook _ _))
      (hlook _ _)) fun op room hstarts => ?_) (hended _ _ _ _)) (hlook _ _))
      fun op room hstarts => ?_
    · obtain ⟨rfl, -⟩ := Note.started.inj (Event.noted.inj (List.mem_singleton.1 hstarts))
      exact .inl hcopies
    · obtain ⟨rfl, -⟩ := Note.started.inj (Event.noted.inj (List.mem_singleton.1 hstarts))
      exact .inr ⟨[_], _, _, rfl, by simp, List.mem_singleton_self _⟩

/-! ## Outcomes of earlier passes -/

/-- A reference to a component with the command. -/
def buildOf (id onSuccess : String) : Operation :=
  { id := id, uses := "build", onSuccess := onSuccess }

theorem evaluate_compile (s : Store) : Condition.evaluate s.scope compile.condition =
    .ok (!(s.results.get? "compile").getD false) := by
  have htrimmed : Text.trimmed compile.condition = compile.condition := by decide +kernel
  have hcore : Condition.core compile.condition.toList = compile.condition.toList :=
    Condition.core_of_unblank (by decide) (by decide)
  rw [Condition.evaluate, htrimmed]
  exact Condition.eval_of_atom _ hcore rfl rfl rfl

theorem expandOne_buildOf (id onSuccess : String) (hempty : id.isEmpty = false)
    (hid : "compile" ≠ id) : Expansion.expandOne (.single "build" compile)
      (Expansion.expandWithin (.single "build" compile) Expansion.maxDepth)
      (buildOf id onSuccess) = .ok [compile, compileCopy id onSuccess] := by
  have hcondition : Condition.conjoin "" "compile.failure" = "compile.failure" := by
    decide +kernel
  rw [Expansion.maxDepth,
    Expansion.expandOne_of_single 49 rfl (Registry.get?_single _ _ _) rfl rfl rfl]
  simp [compile, buildOf, compileCopy, Operation.guardedBy, hcondition, Operation.endFor,
    Operation.takeFailureHandler, Operation.takeSignals, Operation.copyStep, hempty, hid]

/-- The command runs in the pass of the first reference and is skipped in that of the second one.
There the copy step copies the outcome of the first pass and follows its handler. -/
theorem exists_followed_of_skipped_source :
    Expansion.expand (.single "build" compile) [buildOf "debug" "", buildOf "release" "announce"] =
      .ok [compile, compileCopy "debug" "", compile, compileCopy "release" "announce"] ∧
    ∃ acts d begun look skip first again copying follow,
      History announcing (start announcing [compile, compileCopy "debug" "", compile,
        compileCopy "release" "announce"] {}) acts d ∧
      acts.drop 14 = [(none, begun), (none, look), (none, skip), (none, first), (none, again),
        (none, copying), (none, follow)] ∧
      begun.Starts compile 1 ∧ skip.events = [.noted (.skipped compile)] ∧
      first.Starts (compileCopy "release" "announce") 1 ∧
      copying.after.results.get? "release" ≠ copying.before.results.get? "release" ∧
      follow.Starts announce 0 := by
  constructor
  · rw [Expansion.expand, Expansion.expandWithin]
    simp only [Expansion.expandEach, expandOne_buildOf "debug" "" rfl (by decide),
      expandOne_buildOf "release" "announce" rfl (by decide)]
    rfl
  have hbody := bodyAs_of_evaluate evaluate_compile announcing announcing.maxDepth
  have h := (History.nil : History announcing (start announcing [compile, compileCopy "debug" "",
    compile, compileCopy "release" "announce"] {}) [] _)
  simp only [start, Run.mainStrand, Run.recipeStrand, Run.execute_succ, Run.body, hbody] at h ⊢
  have h := h
      |>.snoc (.main (.note _ _ _)) |>.snoc (.main (.update _ _ _)) |>.snoc (.main (.update _ _ _))
      |>.snoc (.main (.report _ _ _)) |>.snoc (.main (.command _ _ _ ⟨.exited 0, "compiled", ""⟩))
      |>.snoc (.main (.update _ _ _)) |>.snoc (.main (.update _ _ _))
      |>.snoc (.main (.update _ _ _)) |>.snoc (.main (.report _ _ _)) |>.snoc (.main (.note _ _ _))
      |>.snoc (.main (.note _ _ _)) |>.snoc (.main (.update _ _ _)) |>.snoc (.main (.update _ _ _))
      |>.snoc (.main (.note _ _ _))
      |>.snoc (.main (.note _ _ _)) |>.snoc (.main (.update _ _ _)) |>.snoc (.main (.note _ _ _))
      |>.snoc (.main (.note _ _ _)) |>.snoc (.main (.update _ _ _)) |>.snoc (.main (.update _ _ _))
      |>.snoc (.main (.note _ _ _))
  exact ⟨_, _, _, _, _, _, _, _, _, h, rfl, List.mem_singleton_self _, rfl,
    List.mem_singleton_self _, by decide, List.mem_singleton_self _⟩

end Crew

end RecipeRunner
