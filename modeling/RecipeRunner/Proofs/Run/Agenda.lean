import RecipeRunner.Proofs.Run.History
import RecipeRunner.Proofs.Run.Parts
import RecipeRunner.Proofs.Run.Turn
/-!
# Agendas

How far the main strand has come is told by its acts: which operations are running, what is left of
the list that each of them is part of, and the ids that they have got.  What a strand does by itself
from there on, without a request, every run does that goes on from there.

* `Agenda.behind`: the operations that are running and those that are left, behind some acts.
* `Strand.Goes`: what a strand gets to by itself, with what it tells and how it changes the store.
* `Crew.History.gets_of_goes`: every run of a crew follows what its main strand does by itself, or
  can go on to follow it.
-/

namespace RecipeRunner

/-! ## What is running and what is left -/

/-- An operation that is running. -/
structure Level where
  op : Operation
  /-- Its id, as soon as the store has been read for it. -/
  id? : Option (Except Error String) := none
  /-- What is left of the present pass, if the operation is a loop. -/
  left : List Operation := []

namespace Level

/-- An operation of a loop is begun: the next one of the pass, or the first one of another pass. -/
def advance (l : Level) : Level :=
  match l.op.controlFlow, l.left with
  | none, _ => l
  | some _, [] => { l with left := l.op.operations.tail }
  | some _, _ :: rest => { l with left := rest }

/-- The store is read. -/
def look (s : Store) (l : Level) : Level :=
  { l with id? := l.id?.or (some (Run.idIn s l.op)) }

/-- The operation has followed a handler and is not to end the recipe. -/
structure Follows (l : Level) : Prop where
  plain : l.op.controlFlow = none
  stays : l.op.exitsRecipe = false

theorem advance_of_plain {l : Level} (h : l.op.controlFlow = none) : l.advance = l := by
  unfold advance
  rw [h]

end Level

/-- How far the main strand has come: what is left of the recipe, and the operations that are
running, the innermost first. -/
structure Agenda where
  left : List Operation
  levels : List Level := []

namespace Agenda

/-- The next operation of the list that the innermost operation goes through, or the recipe, is
begun. -/
def advance : Agenda → Agenda
  | ⟨left, []⟩ => ⟨left.tail, []⟩
  | ⟨left, l :: outer⟩ => ⟨left, l.advance :: outer⟩

/-- The store is read for the innermost operation. -/
def look (s : Store) : Agenda → Agenda
  | ⟨left, []⟩ => ⟨left, []⟩
  | ⟨left, l :: outer⟩ => ⟨left, l.look s :: outer⟩

/-- The operation that starts is the next one of what is left; the one that ends is the innermost
one. -/
def tell (a : Agenda) : Note → Agenda
  | .started op _ => ⟨a.advance.left, ⟨op, none, []⟩ :: a.advance.levels⟩
  | .skipped _ | .returned _ _ => ⟨a.left, a.levels.tail⟩

/-- What is behind an act.  An act without events reads the store. -/
def hear (a : Agenda) (act : Act) : Agenda :=
  match act.events with
  | [] => a.look act.before
  | [.noted told] => a.tell told
  | _ => a

/-- What is behind the acts of a main strand that has begun with the operations of a recipe. -/
def behind (ops : List Operation) (acts : List Act) : Agenda :=
  acts.foldl hear ⟨ops, []⟩

/-- The id of the innermost operation is known. -/
def Settled (a : Agenda) : Prop :=
  ∀ s, a.look s = a

theorem settled_nil (left : List Operation) : Settled ⟨left, []⟩ :=
  fun _ => rfl

theorem settled_cons {left : List Operation} {l : Level} {outer : List Level}
    {id : Except Error String} (h : l.id? = some id) : Settled ⟨left, l :: outer⟩ := by
  intro s
  rw [look, Level.look, h]
  congr 2
  rw [Option.some_or, ← h]

theorem tell_ending (left : List Operation) (l : Level) (outer : List Level) (op : Operation)
    (result : Except Error (Option Signal)) :
    tell ⟨left, l :: outer⟩ (.ending op result) = ⟨left, outer⟩ := by
  rcases result with e | _ | signal <;> rfl

theorem length_advance (a : Agenda) : a.advance.levels.length = a.levels.length := by
  obtain ⟨left, levels⟩ := a
  cases levels <;> rfl

end Agenda

/-! ## What a strand does by itself -/

/-- What an event tells. -/
def Event.note? : Event → Option Note
  | noted told => some told
  | _ => none

namespace Act

/-- The act tells just this or reports, and it changes the store in each of these ways. -/
structure Tells (act : Act) (told : List Note) (changes : List (Store → Store)) : Prop where
  told : act.events.filterMap Event.note? = told
  others : ∀ event ∈ act.events, event.note? = none → event.IsReported
  changes : ∀ change ∈ changes, act.after = change act.before

/-- The acts tell just this, besides reports, and these changes of the store are among them. -/
structure Show (acts : List Act) (told : List Note) (changes : List (Store → Store)) : Prop where
  told : acts.flatMap (fun act => act.events.filterMap Event.note?) = told
  others : ∀ act ∈ acts, ∀ event ∈ act.events, event.note? = none → event.IsReported
  changes : ∀ change ∈ changes, ∃ act ∈ acts, act.after = change act.before

theorem Show.nil : Show [] [] [] :=
  ⟨rfl, List.forall_mem_nil _, List.forall_mem_nil _⟩

theorem Show.cons {act : Act} {acts : List Act} {new told : List Note}
    {changes others : List (Store → Store)} (h : Show acts told changes)
    (hact : act.Tells new others) : Show (act :: acts) (new ++ told) (others ++ changes) where
  told := by rw [List.flatMap_cons, hact.told, h.told]
  others := List.forall_mem_cons.2 ⟨hact.others, h.others⟩
  changes change hchange := by
    rcases List.mem_append.1 hchange with hchange | hchange
    · exact ⟨act, List.mem_cons_self, hact.changes change hchange⟩
    · obtain ⟨other, hother, heq⟩ := h.changes change hchange
      exact ⟨other, List.mem_cons_of_mem _ hother, heq⟩

end Act

namespace Strand

variable {α β : Type}

/-- By itself a strand gets to another one: besides reports, it tells this and changes the store
like this. -/
inductive Goes : Strand α → List Note → List (Store → Store) → Strand α → Prop
  | refl (s : Strand α) : Goes s [] [] s
  | update {change : Store → Store} {next : Store → Strand α} {told : List Note}
      {changes : List (Store → Store)} {t : Strand α} :
    (∀ store, Goes (next store) told changes t) →
      Goes (update change next) told (change :: changes) t
  | report {text : Streams} {next : Strand α} {told : List Note} {changes : List (Store → Store)}
      {t : Strand α} :
    Goes next told changes t → Goes (report text next) told changes t
  | note {first : Note} {next : Strand α} {told : List Note} {changes : List (Store → Store)}
      {t : Strand α} :
    Goes next told changes t → Goes (note first next) (first :: told) changes t

namespace Goes

variable {s t u : Strand α} {told more : List Note} {changes others : List (Store → Store)}

theorem trans (h : Goes s told changes t) (h' : Goes t more others u) :
    Goes s (told ++ more) (changes ++ others) u := by
  induction h with
  | refl => exact h'
  | update _ ih => exact .update fun store => ih store h'
  | report _ ih => exact .report (ih h')
  | note _ ih => exact .note (ih h')

theorem continueWith (h : Goes s told changes t) (k : Except Error α → Strand β) :
    Goes (s.continueWith k) told changes (t.continueWith k) := by
  induction h with
  | refl => exact .refl _
  | update _ ih => exact .update ih
  | report _ ih => exact .report ih
  | note _ ih => exact .note ih

end Goes

/-- By itself the strand comes to the result, and it tells nothing. -/
def Tidies (s : Strand α) (result : Except Error α) : Prop :=
  ∃ changes, Goes s [] changes (done result)

theorem tidies_done (result : Except Error α) : (done result).Tidies result :=
  ⟨[], .refl _⟩

theorem Tidies.continueWith {s : Strand α} {k : Except Error α → Strand β} {first : Except Error α}
    {result : Except Error β} (h : s.Tidies first) (hk : (k first).Tidies result) :
    (s.continueWith k).Tidies result := by
  obtain ⟨changes, hs⟩ := h
  obtain ⟨others, hrest⟩ := hk
  exact ⟨_, (hs.continueWith k).trans hrest⟩

theorem Tidies.bind {s : Strand α} {k : α → Strand β} {a : α} {result : Except Error β}
    (h : s.Tidies (.ok a)) (hk : (k a).Tidies result) : (s >>= k).Tidies result :=
  h.continueWith hk

theorem tidies_modify (change : Store → Store) : (modify change).Tidies (.ok ()) :=
  ⟨_, .update fun _ => .refl _⟩

end Strand

namespace Strand

variable {α : Type} {s t : Strand α} {store last : Store} {new : List Event}

/-! ## Single steps -/

theorem Course.eq_of_nil (h : Course s [] t) : t = s := by
  cases h
  rfl

theorem eq_of_move_update {change : Store → Store} {next : Store → Strand α}
    (h : Move (update change next) store new t last) :
    new = [] ∧ t = next store ∧ last = change store := by
  cases h
  exact ⟨rfl, rfl, rfl⟩

theorem eq_of_move_report {text : Streams} (h : Move (report text s) store new t last) :
    new = [.reported text] ∧ t = s := by
  cases h
  exact ⟨rfl, rfl⟩

theorem eq_of_move_note {told : Note} (h : Move (note told s) store new t last) :
    new = [.noted told] ∧ t = s := by
  cases h
  exact ⟨rfl, rfl⟩

end Strand

/-! ## Runs that go on -/

namespace Crew

open Strand (Course Goes Move)

variable {r : Run} {c d : Crew} {acts : List (Option Nat × Act)}

/-- Behind `back` the main strand gets to another one, or the run can go on so that it does: up to
there it tells just this, besides reports, and the changes of the store are among what it does. -/
def Gets (r : Run) (d : Crew) (back : List Act) (told : List Note)
    (changes : List (Store → Store)) (t : Strand Bool) : Prop :=
  ∃ more e first rest, History r d more e ∧ back ++ own none more = first ++ rest ∧
    Act.Show first told changes ∧ Course t rest e.main

theorem History.main_eq (h : History r c acts d) (hown : own none acts = []) : d.main = c.main := by
  have hcourse := h.main_course
  rw [hown] at hcourse
  exact hcourse.eq_of_nil

/-- A main strand that can take a step has taken it first, or the run can go on with it. -/
theorem History.exists_main_step (h : History r c acts d)
    (hcan : ∀ store, ∃ new t mid, Move c.main store new t mid) :
    ∃ more e act c' later, History r d more e ∧ own none acts ++ own none more =
      act :: own none later ∧ Move c.main act.before act.events c'.main act.after ∧
        History r c' later e := by
  cases hown : own none acts with
  | nil =>
    -- the main strand has not moved yet
    obtain ⟨new, t, mid, hmove⟩ := hcan d.store
    rw [← h.main_eq hown] at hmove
    have hstep : Step r d none ⟨new, d.store, mid⟩ ⟨mid, t, d.units ++ launched r new⟩ :=
      .main hmove
    refine ⟨_, _, ⟨new, d.store, mid⟩, _, [], .snoc .nil hstep, ?_, ?_, .nil⟩
    · rw [List.nil_append, List.nil_append, own_singleton_self]
      rfl
    · rw [← h.main_eq hown]
      exact hmove
  | cons act back =>
    have hfront : own none acts = [] ++ act :: back := hown
    obtain ⟨earlier, later, hacts, hearlier, rfl⟩ := exists_of_own_eq hfront
    obtain ⟨mid, c', hfirst, hstep, hrest⟩ := h.exists_step hacts
    rcases hstep.main_cases with ⟨-, hmove⟩ | ⟨hne, -⟩
    · rw [hfirst.main_eq hearlier] at hmove
      exact ⟨[], d, act, c', later, .nil, List.append_nil _, hmove, hrest⟩
    · exact absurd rfl hne

/-- What a main strand gets to behind its first step. -/
theorem History.gets_of_step (new told : List Note) (others changes : List (Store → Store))
    {t : Strand Bool} (h : History r c acts d)
    (hcan : ∀ store, ∃ new t mid, Move c.main store new t mid)
    (hstep : ∀ {act : Act} {next : Strand Bool}, Move c.main act.before act.events next act.after →
      act.Tells new others ∧ ∀ {c' e : Crew} {later : List (Option Nat × Act)}, c'.main = next →
        History r c' later e → Gets r e (own none later) told changes t) :
    Gets r d (own none acts) (new ++ told) (others ++ changes) t := by
  obtain ⟨more, e, act, c', later, hmore, hown, hmove, hlater⟩ := h.exists_main_step hcan
  obtain ⟨htells, hgets⟩ := hstep hmove
  obtain ⟨more', e', first, rest, hmore', hrest, hshow, hcourse⟩ := hgets rfl hlater
  refine ⟨more ++ more', e', act :: first, rest, hmore.trans hmore', ?_, hshow.cons htells, hcourse⟩
  rw [own_append, ← List.append_assoc, hown, List.cons_append, hrest, List.cons_append]

/-- What a main strand does by itself it has done, or the run can go on with it. -/
theorem History.gets_of_goes {told : List Note} {changes : List (Store → Store)} {s t : Strand Bool}
    (hgoes : Goes s told changes t) (h : History r c acts d) (hmain : c.main = s) :
    Gets r d (own none acts) told changes t := by
  induction hgoes generalizing c d acts with
  | refl s =>
    subst hmain
    exact ⟨[], d, [], own none acts, .nil, List.append_nil _, .nil, h.main_course⟩
  | @update change next told changes t _ ih =>
    refine h.gets_of_step [] told [change] changes (fun store => ?_) fun hmove => ?_
    · rw [hmain]
      exact ⟨_, _, _, .update change next store⟩
    · rw [hmain] at hmove
      obtain ⟨hevents, rfl, hafter⟩ := Strand.eq_of_move_update hmove
      refine ⟨⟨?_, ?_, List.forall_mem_singleton.2 hafter⟩, fun hc' hlater => ih _ hlater hc'⟩
      · rw [hevents]
        rfl
      · rw [hevents]
        exact List.forall_mem_nil _
  | @report text next told changes t _ ih =>
    refine h.gets_of_step [] told [] changes (fun store => ?_) fun hmove => ?_
    · rw [hmain]
      exact ⟨_, _, _, .report text next store⟩
    · rw [hmain] at hmove
      obtain ⟨hevents, rfl⟩ := Strand.eq_of_move_report hmove
      refine ⟨⟨?_, ?_, List.forall_mem_nil _⟩, fun hc' hlater => ih hlater hc'⟩
      · rw [hevents]
        rfl
      · rw [hevents]
        exact List.forall_mem_singleton.2 fun _ => trivial
  | @note first next told changes t _ ih =>
    refine h.gets_of_step [first] told [] changes (fun store => ?_) fun hmove => ?_
    · rw [hmain]
      exact ⟨_, _, _, .note first next store⟩
    · rw [hmain] at hmove
      obtain ⟨hevents, rfl⟩ := Strand.eq_of_move_note hmove
      refine ⟨⟨?_, ?_, List.forall_mem_nil _⟩, fun hc' hlater => ih hlater hc'⟩
      · rw [hevents]
        rfl
      · rw [hevents]
        exact List.forall_mem_singleton.2 nofun

end Crew

end RecipeRunner
