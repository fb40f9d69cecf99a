import RecipeRunner.Proofs.Run.Interleaving
/-!
# Histories of runs

What all strands of a run do, act by act, in any order.  A unit that has ended stays in the list of
units, so a unit is named by the number of units that were launched before it.

* `Strand.Course`: what one strand does, whatever happens to the store between its acts.
* `History.main_course`, `History.unit_course`: in a history every strand is on its course.
* `Schedule.Runs.exists_history`: an interleaving is a history, whose live units are those of the
  schedule.
-/

namespace RecipeRunner

variable {α β : Type}

/-- What one step of a strand brings. -/
structure Act where
  events : List Event
  before : Store
  after : Store

/-- An operation starts, inside which so many levels may still be nested. -/
def Act.Starts (act : Act) (op : Operation) (room : Nat) : Prop :=
  .noted (.started op room) ∈ act.events

theorem Act.not_starts_of_nil {act : Act} (h : act.events = []) {op : Operation} {room : Nat} :
    ¬ act.Starts op room := by
  rw [Starts, h]
  exact List.not_mem_nil

namespace Strand

/-- What a strand does, act by act, whatever happens to the store between its acts. -/
inductive Course : Strand α → List Act → Strand α → Prop
  | refl (s : Strand α) : Course s [] s
  | step {s t u : Strand α} {store mid : Store} {new : List Event} {acts : List Act} :
    Move s store new t mid → Course t acts u → Course s (⟨new, store, mid⟩ :: acts) u

namespace Course

variable {s t u : Strand α} {acts more : List Act}

theorem trans (h : Course s acts t) (h' : Course t more u) : Course s (acts ++ more) u := by
  induction h with
  | refl => exact h'
  | step hmove _ ih => exact .step hmove (ih h')

theorem snoc (h : Course s acts t) {act : Act} (hmove : Move t act.before act.events u act.after) :
    Course s (acts ++ [act]) u :=
  h.trans (.step hmove (.refl u))

/-- The course of two strands in a row is one of the first, and of the second once the first has
ended. -/
theorem of_continueWith {k : Except Error α → Strand β} {t : Strand β}
    (h : Course (s.continueWith k) acts t) :
    (∃ next, t = next.continueWith k ∧ Course s acts next) ∨
      ∃ front result back, acts = front ++ back ∧ Course s front (done result) ∧
        Course (k result) back t := by
  generalize hwhole : s.continueWith k = whole at h
  induction h generalizing s with
  | refl => exact .inl ⟨s, hwhole.symm, .refl s⟩
  | @step _ _ _ store mid new acts hmove hcourse ih =>
    subst hwhole
    rcases hmove.of_continueWith with ⟨result, rfl, hsecond⟩ | ⟨next, rfl, hfirst⟩
    · exact .inr ⟨[], result, _, rfl, .refl _, .step hsecond hcourse⟩
    · rcases ih rfl with ⟨later, ht, hlater⟩ | ⟨front, result, back, rfl, hlater, hsecond⟩
      · exact .inl ⟨later, ht, .step hfirst hlater⟩
      · exact .inr ⟨⟨new, store, mid⟩ :: front, result, back, rfl, .step hfirst hlater, hsecond⟩

theorem of_update {change : Store → Store} {next : Store → Strand α}
    (h : Course (.update change next) acts t) :
    acts = [] ∨ ∃ store rest, acts = ⟨[], store, change store⟩ :: rest ∧
      Course (next store) rest t := by
  cases h with
  | refl => exact .inl rfl
  | step hmove hrest =>
    cases hmove
    exact .inr ⟨_, _, rfl, hrest⟩

theorem eq_nil_of_done {result : Except Error α} (h : Course (done result) acts t) :
    acts = [] ∧ t = done result := by
  cases h with
  | refl => exact ⟨rfl, rfl⟩
  | step hmove => cases hmove

end Course

end Strand

/-- The strands of a run and the store. -/
structure Crew where
  store : Store
  main : Strand Bool
  /-- The units in the order of their launches, those that have ended among them. -/
  units : List (Launch × Strand Unit) := []

namespace Crew

open Strand (Move)

/-- The units that events launch. -/
def launched (r : Run) (events : List Event) : List (Launch × Strand Unit) :=
  events.filterMap fun
    | .launched unit => some (unit, r.unitStrand unit)
    | _ => none

/-- One step of the main strand or of a unit that was launched behind so many others. -/
inductive Step (r : Run) : Crew → Option Nat → Act → Crew → Prop
  | main {c : Crew} {t : Strand Bool} {mid : Store} {new : List Event} :
    Move c.main c.store new t mid →
      Step r c none ⟨new, c.store, mid⟩ ⟨mid, t, c.units ++ launched r new⟩
  | unit {c : Crew} {before behind : List (Launch × Strand Unit)} {u : Launch} {s t : Strand Unit}
      {mid : Store} {new : List Event} :
    c.units = before ++ (u, s) :: behind → Move s c.store new t mid →
      Step r c (some before.length) ⟨new, c.store, mid⟩
        ⟨mid, c.main, before ++ (u, t) :: behind ++ launched r new⟩

/-- What the strands of a run do, with the strand of each act. -/
inductive History (r : Run) (c : Crew) : List (Option Nat × Act) → Crew → Prop
  | nil : History r c [] c
  | snoc {acts : List (Option Nat × Act)} {d e : Crew} {who : Option Nat} {act : Act} :
    History r c acts d → Step r d who act e → History r c (acts ++ [(who, act)]) e

/-- The acts of one strand. -/
def own (who : Option Nat) (acts : List (Option Nat × Act)) : List Act :=
  (acts.filter (·.1 = who)).map (·.2)

/-- The crew that a run starts with. -/
def start (r : Run) (ops : List Operation) (store : Store) : Crew where
  store := store
  main := r.mainStrand ops

variable {r : Run} {c d e : Crew} {acts more : List (Option Nat × Act)} {who : Option Nat}
  {act : Act} {n : Nat} {u : Launch} {s t : Strand Unit}

/-! ## Acts -/

theorem own_append (who : Option Nat) (acts more : List (Option Nat × Act)) :
    own who (acts ++ more) = own who acts ++ own who more := by
  rw [own, List.filter_append, List.map_append]
  rfl

@[simp] theorem own_singleton_self (who : Option Nat) (act : Act) :
    own who [(who, act)] = [act] := by
  simp [own]

theorem own_singleton_of_ne {who other : Option Nat} (h : other ≠ who) (act : Act) :
    own who [(other, act)] = [] := by
  simp [own, h]

theorem mem_of_mem_own (h : act ∈ own who acts) : (who, act) ∈ acts := by
  simp only [own, List.mem_map, List.mem_filter, decide_eq_true_eq] at h
  obtain ⟨⟨other, act⟩, ⟨hmem, rfl⟩, rfl⟩ := h
  exact hmem

theorem mem_own (h : (who, act) ∈ acts) : act ∈ own who acts := by
  simp only [own, List.mem_map, List.mem_filter, decide_eq_true_eq]
  exact ⟨(who, act), ⟨h, rfl⟩, rfl⟩

/-- Acts of one strand that follow each other do so among all acts. -/
theorem exists_of_own_eq {front back : List Act} (h : own who acts = front ++ act :: back) :
    ∃ earlier later, acts = earlier ++ (who, act) :: later ∧ own who earlier = front ∧
      own who later = back := by
  obtain ⟨before, rest, hfilter, hfront, hrest⟩ := List.map_eq_append_iff.1 h
  obtain ⟨pair, after, rfl, hact, hback⟩ := List.map_eq_cons_iff.1 hrest
  obtain ⟨earlier, tail, rfl, hearlier, htail⟩ := List.filter_eq_append_iff.1 hfilter
  obtain ⟨between, later, rfl, hbetween, hpair, hlater⟩ := List.filter_eq_cons_iff.1 htail
  obtain ⟨other, act'⟩ := pair
  obtain rfl : other = who := by simpa using hpair
  obtain rfl : act' = act := hact
  have hnone : between.filter (fun entry => decide (entry.1 = other)) = [] := by
    rw [List.filter_eq_nil_iff]
    exact hbetween
  refine ⟨earlier ++ between, later, by simp, ?_, ?_⟩
  · rw [own, List.filter_append, hearlier, hnone, List.append_nil, hfront]
  · rw [own, hlater, hback]

/-! ## Steps -/

theorem Step.before_eq (h : Step r c who act d) : act.before = c.store := by
  cases h <;> rfl

theorem Step.after_eq (h : Step r c who act d) : act.after = d.store := by
  cases h <;> rfl

theorem exists_of_mem_launched {entry : Launch × Strand Unit} {events : List Event}
    (h : entry ∈ launched r events) :
    .launched entry.1 ∈ events ∧ entry.2 = r.unitStrand entry.1 := by
  obtain ⟨event, hevent, hentry⟩ := List.mem_filterMap.1 h
  cases event with
  | launched unit =>
    obtain rfl := Option.some.inj hentry
    exact ⟨hevent, rfl⟩
  | _ => cases hentry

theorem Step.main_cases (h : Step r c who act d) :
    who = none ∧ Move c.main act.before act.events d.main act.after ∨
      who ≠ none ∧ d.main = c.main := by
  cases h with
  | main hmove => exact .inl ⟨rfl, hmove⟩
  | unit => exact .inr ⟨Option.some_ne_none _, rfl⟩

theorem Step.unit_of_some (h : Step r c who act d) (hunit : c.units[n]? = some (u, s)) :
    ∃ t, d.units[n]? = some (u, t) ∧
      (who = some n ∧ Move s act.before act.events t act.after ∨ who ≠ some n ∧ t = s) := by
  -- what is launched comes behind all units, so a unit keeps its number
  have hlength : n < c.units.length := (List.getElem?_eq_some_iff.1 hunit).1
  cases h with
  | main hmove =>
    exact ⟨s, by rw [List.getElem?_append_left hlength, hunit], .inr ⟨nofun, rfl⟩⟩
  | @unit before behind u' s' t' mid new hunits hmove =>
    rw [hunits] at hunit hlength
    have hlength' : n < (before ++ (u', t') :: behind).length := by simpa using hlength
    simp only [List.getElem?_append_left hlength']
    rcases Nat.lt_trichotomy n before.length with hn | rfl | hn
    · rw [List.getElem?_append_left hn] at hunit ⊢
      exact ⟨s, hunit, .inr ⟨by simp; omega, rfl⟩⟩
    · rw [List.getElem?_append_right (Nat.le_refl _), Nat.sub_self, List.getElem?_cons_zero]
        at hunit ⊢
      obtain ⟨rfl, rfl⟩ := Prod.mk.inj (Option.some.inj hunit)
      exact ⟨t', rfl, .inl ⟨rfl, hmove⟩⟩
    · obtain ⟨k, rfl⟩ : ∃ k, n = before.length + (k + 1) := ⟨n - before.length - 1, by omega⟩
      rw [List.getElem?_append_right (by omega), Nat.add_sub_cancel_left,
        List.getElem?_cons_succ] at hunit ⊢
      exact ⟨s, hunit, .inr ⟨by simp, rfl⟩⟩

theorem Step.exists_units_eq (h : Step r c who act d) :
    ∃ kept, d.units = kept ++ launched r act.events ∧ kept.length = c.units.length := by
  cases h with
  | main => exact ⟨c.units, rfl, rfl⟩
  | @unit before behind u s t mid new hunits hmove =>
    exact ⟨before ++ (u, t) :: behind, rfl, by simp [hunits]⟩

theorem Step.ne_some (h : Step r c who act d) (hnone : c.units[n]? = none) : who ≠ some n := by
  have hlength : c.units.length ≤ n := List.getElem?_eq_none_iff.1 hnone
  cases h with
  | main => nofun
  | unit hunits =>
    intro heq
    have hbefore := Option.some.inj heq
    simp only [hunits, List.length_append, List.length_cons] at hlength
    omega

theorem Step.of_none (h : Step r c who act d) (hnone : d.units[n]? = none) :
    c.units[n]? = none := by
  obtain ⟨kept, hkept, hlength⟩ := h.exists_units_eq
  have hn : d.units.length ≤ n := List.getElem?_eq_none_iff.1 hnone
  rw [hkept, List.length_append] at hn
  exact List.getElem?_eq_none_iff.2 (by omega)

/-- A unit that a step adds is one that it launches, and has not moved. -/
theorem Step.unit_of_none (h : Step r c who act d) (hnone : c.units[n]? = none)
    (hunit : d.units[n]? = some (u, t)) : t = r.unitStrand u ∧ .launched u ∈ act.events := by
  have hlength : c.units.length ≤ n := List.getElem?_eq_none_iff.1 hnone
  obtain ⟨kept, hkept, hkeptLength⟩ := h.exists_units_eq
  rw [hkept, List.getElem?_append_right (by omega)] at hunit
  obtain ⟨hlaunched, hstrand⟩ := exists_of_mem_launched (List.mem_of_getElem? hunit)
  exact ⟨hstrand, hlaunched⟩

/-! ## Courses of strands -/

namespace History

theorem trans (h : History r c acts d) (h' : History r d more e) :
    History r c (acts ++ more) e := by
  induction h' with
  | nil =>
    rw [List.append_nil]
    exact h
  | snoc _ hstep ih =>
    rw [← List.append_assoc]
    exact .snoc ih hstep

/-- A history can be cut at any of its acts. -/
theorem exists_of_append (h : History r c acts e) {front back : List (Option Nat × Act)}
    (hacts : acts = front ++ back) : ∃ d, History r c front d ∧ History r d back e := by
  induction h generalizing back with
  | nil =>
    obtain ⟨rfl, rfl⟩ := List.nil_eq_append_iff.1 hacts
    exact ⟨c, .nil, .nil⟩
  | @snoc acts d e who act hacts' hstep ih =>
    rcases List.eq_nil_or_concat back with rfl | ⟨back, last, rfl⟩
    · rw [List.append_nil] at hacts
      exact ⟨e, hacts ▸ .snoc hacts' hstep, .nil⟩
    · rw [List.concat_eq_append, ← List.append_assoc] at hacts
      obtain ⟨hfront, hlast⟩ := List.append_inj' hacts rfl
      obtain rfl := List.singleton_inj.1 hlast
      obtain ⟨mid, hfirst, hrest⟩ := ih hfront
      rw [List.concat_eq_append]
      exact ⟨mid, hfirst, .snoc hrest hstep⟩

theorem eq_of_nil (h : History r c [] d) : c = d := by
  generalize hnil : ([] : List (Option Nat × Act)) = acts at h
  cases h with
  | nil => rfl
  | snoc => simp at hnil

theorem step_of_singleton (h : History r c [(who, act)] d) : Step r c who act d := by
  generalize hsingle : [(who, act)] = acts at h
  cases h with
  | nil => cases hsingle
  | @snoc acts d e other last hacts hstep =>
    rw [← List.nil_append [(who, act)]] at hsingle
    obtain ⟨rfl, hlast⟩ := List.append_inj' hsingle rfl
    obtain ⟨rfl, rfl⟩ := Prod.mk.inj (List.singleton_inj.1 hlast)
    rw [hacts.eq_of_nil]
    exact hstep

theorem exists_step (h : History r c acts e) {front back : List (Option Nat × Act)}
    (hacts : acts = front ++ (who, act) :: back) :
    ∃ mid d, History r c front mid ∧ Step r mid who act d ∧ History r d back e := by
  obtain ⟨mid, hfront, hrest⟩ := h.exists_of_append hacts
  obtain ⟨d, hone, hback⟩ := hrest.exists_of_append (List.singleton_append).symm
  exact ⟨mid, d, hfront, hone.step_of_singleton, hback⟩

theorem main_course (h : History r c acts d) : Strand.Course c.main (own none acts) d.main := by
  induction h with
  | nil => exact .refl _
  | @snoc acts d e who act _ hstep ih =>
    rw [own_append]
    rcases hstep.main_cases with ⟨rfl, hmove⟩ | ⟨hwho, hmain⟩
    · rw [own_singleton_self]
      exact ih.snoc hmove
    · rw [own_singleton_of_ne hwho, List.append_nil, hmain]
      exact ih

theorem unit_course_of_some (h : History r c acts d) (hunit : c.units[n]? = some (u, s)) :
    ∃ t, d.units[n]? = some (u, t) ∧ Strand.Course s (own (some n) acts) t := by
  induction h with
  | nil => exact ⟨s, hunit, .refl s⟩
  | snoc _ hstep ih =>
    obtain ⟨t, ht, hcourse⟩ := ih
    obtain ⟨t', ht', ⟨rfl, hmove⟩ | ⟨hwho, rfl⟩⟩ := hstep.unit_of_some ht
    · refine ⟨t', ht', ?_⟩
      rw [own_append, own_singleton_self]
      exact hcourse.snoc hmove
    · refine ⟨t', ht', ?_⟩
      rw [own_append, own_singleton_of_ne hwho, List.append_nil]
      exact hcourse

theorem own_eq_nil (h : History r c acts d) (hnone : d.units[n]? = none) :
    own (some n) acts = [] := by
  induction h with
  | nil => rfl
  | snoc _ hstep ih =>
    have hd := hstep.of_none hnone
    rw [own_append, ih hd, own_singleton_of_ne (hstep.ne_some hd)]
    rfl

/-- A unit that is launched in a history starts its course at the launch. -/
theorem unit_course_of_none (h : History r c acts d) (hnone : c.units[n]? = none)
    (hunit : d.units[n]? = some (u, t)) :
    Strand.Course (r.unitStrand u) (own (some n) acts) t ∧
      ∃ entry ∈ acts, .launched u ∈ entry.2.events := by
  induction h generalizing u t with
  | nil =>
    rw [hnone] at hunit
    cases hunit
  | @snoc acts d e who act hacts hstep ih =>
    rw [own_append]
    cases hd : d.units[n]? with
    | none =>
      obtain ⟨rfl, hlaunched⟩ := hstep.unit_of_none hd hunit
      rw [hacts.own_eq_nil hd, own_singleton_of_ne (hstep.ne_some hd)]
      exact ⟨.refl _, (who, act), by simp, hlaunched⟩
    | some entry =>
      obtain ⟨u', s⟩ := entry
      obtain ⟨hcourse, entry, hentry, hlaunched⟩ := ih hd
      obtain ⟨t', ht', hmoved⟩ := hstep.unit_of_some hd
      rw [hunit] at ht'
      obtain ⟨rfl, rfl⟩ := Prod.mk.inj (Option.some.inj ht')
      refine ⟨?_, entry, List.mem_append_left _ hentry, hlaunched⟩
      rcases hmoved with ⟨rfl, hmove⟩ | ⟨hwho, rfl⟩
      · rw [own_singleton_self]
        exact hcourse.snoc hmove
      · rw [own_singleton_of_ne hwho, List.append_nil]
        exact hcourse

/-- In a run every unit is on its course from its launch. -/
theorem unit_course {ops : List Operation} {store : Store}
    (h : History r (start r ops store) acts d) (hunit : d.units[n]? = some (u, t)) :
    Strand.Course (r.unitStrand u) (own (some n) acts) t ∧
      ∃ entry ∈ acts, .launched u ∈ entry.2.events :=
  h.unit_course_of_none rfl hunit

end History

end Crew

/-! ## Interleavings as histories -/

/-- The strand has not come to its end. -/
def Strand.isLive : Strand α → Bool
  | .done _ => false
  | _ => true

namespace Crew

/-- The strands of the live units among some. -/
def live (units : List (Launch × Strand Unit)) : List (Strand Unit) :=
  (units.filter (·.2.isLive)).map (·.2)

theorem live_append (units more : List (Launch × Strand Unit)) :
    live (units ++ more) = live units ++ live more := by
  rw [live, List.filter_append, List.map_append]
  rfl

theorem exists_of_live_eq {units : List (Launch × Strand Unit)} {front back : List (Strand Unit)}
    {strand : Strand Unit} (h : live units = front ++ strand :: back) :
    ∃ earlier u later, units = earlier ++ (u, strand) :: later ∧ live earlier = front ∧
      live later = back := by
  obtain ⟨before, rest, hfilter, rfl, hrest⟩ := List.map_eq_append_iff.1 h
  obtain ⟨⟨u, strand'⟩, after, rfl, rfl, rfl⟩ := List.map_eq_cons_iff.1 hrest
  obtain ⟨earlier, tail, rfl, rfl, htail⟩ := List.filter_eq_append_iff.1 hfilter
  obtain ⟨between, later, rfl, hbetween, -, rfl⟩ := List.filter_eq_cons_iff.1 htail
  have hended : between.filter (·.2.isLive) = [] := by
    rw [List.filter_eq_nil_iff]
    exact hbetween
  refine ⟨earlier ++ between, u, later, by rw [List.append_assoc], ?_, rfl⟩
  rw [live, List.filter_append, hended, List.append_nil]

end Crew

namespace Schedule

open Crew (History launched live own)

variable {σ : Type} {r : Run} {w : Surroundings σ} {s t : Schedule σ} {c : Crew}

/-- The live units of a crew are the units of a schedule. -/
structure Shows (s : Schedule σ) (c : Crew) : Prop where
  store : c.store = s.scene.store
  main : c.main = s.main.strand
  units : live c.units = s.units.map (·.strand)

theorem launched_eq {scene : Scene σ} {strand : Strand α} {step : Step σ α}
    (h : strand.step? w scene = some step) :
    launched r (strand.events w scene) =
      step.started.toList.map fun unit => (unit, r.unitStrand unit) := by
  cases strand with
  | done => cases h
  | endless => cases h
  | await next =>
    simp only [Strand.step?] at h
    split at h
    · obtain rfl := Option.some.inj h
      rfl
    · cases h
  | _ =>
    obtain rfl := Option.some.inj h
    rfl

theorem live_launched {scene : Scene σ} {strand : Strand α} {step : Step σ α}
    (h : strand.step? w scene = some step) :
    live (launched r (strand.events w scene)) = step.started.toList.map r.unitStrand := by
  rw [launched_eq h]
  cases step.started <;> rfl

theorem strands_join (units : List (Ready Unit)) (time : Nat) (started : Option Launch) :
    (join r units time started).map (·.strand) =
      units.map (·.strand) ++ started.toList.map r.unitStrand := by
  cases started with
  | none => simp [join]
  | some unit => simp [join]

theorem strands_settle (unit : Ready Unit) (launch : Launch) :
    (settle unit).map (·.strand) = live [(launch, unit.strand)] := by
  obtain ⟨strand, time⟩ := unit
  cases strand <;> rfl

theorem Shows.exists_main (h : s.Shows c) {time : Nat} (hstep : s.stepMain? r w time = some t) :
    ∃ act d, Crew.Step r c none act d ∧ act.events = s.main.strand.events w s.scene ∧
      t.Shows d := by
  have hmove := move_of_stepMain? hstep
  rw [← h.main, ← h.store] at hmove
  refine ⟨_, _, .main hmove, by rw [h.main], ?_⟩
  obtain ⟨step, hstrand, rfl⟩ := Option.map_eq_some_iff.1 hstep
  refine ⟨rfl, rfl, ?_⟩
  rw [Crew.live_append, h.units, h.main, live_launched hstrand, strands_join]

theorem Shows.exists_unit (h : s.Shows c) {before behind : List (Ready Unit)} {unit : Ready Unit}
    (hunits : s.units = before ++ unit :: behind)
    (hstep : s.stepUnit? r w before unit behind = some t) :
    ∃ n act d, Crew.Step r c (some n) act d ∧ t.Shows d := by
  have hlive := h.units
  rw [hunits, List.map_append, List.map_cons] at hlive
  obtain ⟨earlier, u, later, hcrew, hearlier, hlater⟩ := Crew.exists_of_live_eq hlive
  obtain ⟨step, hstrand, rfl⟩ := Option.map_eq_some_iff.1 hstep
  have hmove := Strand.move_of_step? hstrand
  rw [← h.store] at hmove
  refine ⟨_, _, _, .unit hcrew hmove, rfl, h.main, ?_⟩
  rw [strands_join, List.map_append, List.map_append, strands_settle _ u, ← hearlier, ← hlater,
    ← live_launched hstrand, ← List.singleton_append (x := (u, step.strand))]
  simp only [Crew.live_append, List.append_assoc]

/-- What the strands of an interleaving do is a history, with the acts of the main strand. -/
theorem Runs.exists_history {events : List Event} (h : Runs r w s events t) (hshows : s.Shows c) :
    ∃ acts d, History r c acts d ∧ t.Shows d ∧ (own none acts).flatMap (·.events) = events := by
  induction h generalizing c with
  | refl => exact ⟨[], c, .nil, hshows, rfl⟩
  | main time hstep _ ih =>
    obtain ⟨act, mid, hfirst, hevents, hmid⟩ := hshows.exists_main hstep
    obtain ⟨acts, d, hrest, hd, hmore⟩ := ih hmid
    refine ⟨[(none, act)] ++ acts, d, (History.snoc .nil hfirst).trans hrest, hd, ?_⟩
    rw [Crew.own_append, Crew.own_singleton_self, List.flatMap_append, hmore, ← hevents]
    simp
  | unit before hunits hstep _ ih =>
    obtain ⟨n, act, mid, hfirst, hmid⟩ := hshows.exists_unit hunits hstep
    obtain ⟨acts, d, hrest, hd, hmore⟩ := ih hmid
    refine ⟨[(some n, act)] ++ acts, d, (History.snoc .nil hfirst).trans hrest, hd, ?_⟩
    rw [Crew.own_append, Crew.own_singleton_of_ne (Option.some_ne_none n), List.nil_append, hmore]

theorem shows_start (ops : List Operation) (store : Store) (outside : σ) :
    (start r ops store outside).Shows (Crew.start r ops store) :=
  ⟨rfl, rfl, rfl⟩

end Schedule

end RecipeRunner
