import RecipeRunner.Proofs.Run.Alone
import RecipeRunner.Proofs.Run.Passes
/-!
# Loops over values

A loop that counts, and one over the items of a text, read what they go over once, before their
first pass.  Then they make a pass for each value, whatever the passes do to the variables of the
loop and to what its values were read from.

* `Supplied`: the values that a loop goes over.
* `turns`: the two kinds of loop as one loop over values.
* `loop_iterates`: the passes of such a loop, in every run of it.
-/

namespace RecipeRunner.Run

open Event (unreported)
open Relation (ReflTransGen)
open Strand (Inside Moves done)

variable {others : Store → Store → Prop} {store last : Store} {events : List Event}
  {body : Strand Signal}

/-- The values that a loop gives to its bound name, if it reads them in the store: the numbers below
the count, or the items of the collection. -/
inductive Supplied (s : Store) : ControlFlow → (name : String) → List Value → Prop
  | counted {times name text : String} {progress bar : Bool} {n : Int} :
    Template.render s.bindings times = .ok text →
      Decimal.readBounded? (Text.trimmed text).toList = some n →
        Supplied s (.counted times name progress bar) name
          ((List.range n.toNat).map fun j : Nat => .int j)
  | each {collection name text : String} {progress : Bool} :
    Template.render s.bindings collection = .ok text →
      Supplied s (.each collection name progress) name ((Text.itemsOf text).map .str)

/-- Takes a turn for each value, with the number of the turn, until one of them signals. -/
def turns (turn : Value → Nat → Strand Signal) : List Value → (number : Nat) → Strand Signal
  | [], _ => pure .next
  | value :: rest, number => do
    match ← turn value number with
    | .next => turns turn rest (number + 1)
    | signal => pure signal

theorem passes_eq_turns (turn : Value → Nat → Strand Signal) (left j : Nat) :
    passes (fun number => turn (.int (number - 1 : Nat)) number) left (j + 1) =
      turns turn ((List.range' j left).map fun i : Nat => .int i) (j + 1) := by
  induction left generalizing j with
  | zero => rfl
  | succ left ih =>
    rw [passes, ih (j + 1)]
    rfl

theorem passesOver_eq_turns (turn : Value → Nat → Strand Signal) (items : List String)
    (number : Nat) :
    passesOver (fun item number => turn (.str item) number) items number =
      turns turn (items.map .str) number := by
  induction items generalizing number with
  | nil => rfl
  | cons item rest ih =>
    rw [passesOver, ih (number + 1)]
    rfl

/-- The turn of a loop: it sets the bound name, then the number of the pass, and runs the body. -/
def bindingTurn (name : String) (body : Strand Signal)
    (close : Nat → Except Error Signal → Strand Signal) (value : Value) (number : Nat) :
    Strand Signal :=
  Strand.update (·.setVar name value) fun _ =>
    Strand.update (·.setVar passName (.int number)) fun _ => body.continueWith (close number)

/-- A pass begins: the bound name has got its value, then the number of the pass has been set. -/
def Binds (others : Store → Store → Prop) (name : String) (values : List Value) (number : Nat)
    (s start : Store) : Prop :=
  ∃ value before between, values[number - 1]? = some value ∧ ReflTransGen others s before ∧
    ReflTransGen others (before.setVar name value) between ∧
      start = between.setVar passName (.int number)

/-- The loop has no value left. -/
def RunsOut (values : List Value) (number : Nat) (_ : Store) (result : Except Error Signal) :
    Prop :=
  number = values.length + 1 ∧ result = .ok .next

theorem progress_turns {name : String} {close : Nat → Except Error Signal → Strand Signal}
    (hclose : ∀ number outcome, (close number outcome).Settles (ReflTransGen others) outcome)
    {front rest values : List Value} (hvalues : front ++ rest = values) {t : Strand Signal}
    (h : Moves others (turns (bindingTurn name body close) rest (front.length + 1)) store events t
      last) :
    Progress others body (Binds others name values) (RunsOut values) False (front.length + 1) store
      events t last := by
  induction rest generalizing front store events with
  | nil =>
    obtain ⟨rfl, rfl, -⟩ := h.of_done
    rw [List.append_nil] at hvalues
    exact progress_stopped ⟨by rw [hvalues], rfl⟩
  | cons value rest ih =>
    have hvalue : values[front.length]? = some value := by
      rw [← hvalues, List.getElem?_append_right (Nat.le_refl _), Nat.sub_self]
      rfl
    rcases h.of_update with ⟨rfl, rfl⟩ | ⟨before, hbefore, h⟩
    · exact progress_update _ _
    · rcases h.of_update with ⟨rfl, rfl⟩ | ⟨between, hbetween, h⟩
      · exact progress_update _ _
      · have hstart : Binds others name values (front.length + 1) store
            (between.setVar passName (.int (front.length + 1 : Nat))) :=
          ⟨value, before, between, hvalue, hbefore, hbetween, rfl⟩
        refine progress_turn (fun number s mid start hmid hstart => ?_) (fun _ _ _ _ _ h => h)
          hstart (hclose _) (fun mid more h => ?_) h
        · obtain ⟨value, before, between, hvalue, hbefore, hrest⟩ := hstart
          exact ⟨value, before, between, hvalue, hmid.trans hbefore, hrest⟩
        · have hlength : (front ++ [value]).length = front.length + 1 := by
            rw [List.length_append, List.length_singleton]
          rw [← hlength] at h ⊢
          exact ih ((List.append_cons front value rest).symm.trans hvalues) h

/-- What a counting loop does behind its body in a pass: it may draw its progress. -/
def drawing (r : Run) (bar : Bool) (count number : Nat) (outcome : Except Error Signal) :
    Strand Signal := do
  let signal ← Strand.ofExcept outcome
  if bar then Strand.write (r.console.progressBar number count)
  pure signal

theorem drawing_settles (r : Run) (bar : Bool) (count number : Nat)
    (outcome : Except Error Signal) :
    (r.drawing bar count number outcome).Settles (ReflTransGen others) outcome := by
  cases outcome with
  | ok signal =>
    cases bar with
    | true => exact rfl
    | false => exact rfl
  | error e => exact rfl

section

variable (r : Run) (depth : Nat) (body : Strand Signal)

theorem repeated_counted (times name : String) (progress bar : Bool) :
    r.repeated (.counted times name progress bar) depth body = (do
      let text ← render times
      let count ← Strand.ofExcept (passCount (Text.trimmed text))
      inLoop "for" depth [name, passName] (turns (bindingTurn name body (r.drawing bar count))
        ((List.range count).map fun j : Nat => .int j) 1)) := by
  have hpasses : ∀ count, passes (fun number => (do
      setVar name (.int (number - 1 : Nat))
      let signal ← numbered body number
      if bar then Strand.write (r.console.progressBar number count)
      pure signal)) count 1 = turns (bindingTurn name body (r.drawing bar count))
        ((List.range count).map fun j : Nat => .int j) 1 := by
    intro count
    rw [List.range_eq_range', ← passes_eq_turns]
    rfl
  simp only [repeated, hpasses]

theorem repeated_each (collection name : String) (progress : Bool) :
    r.repeated (.each collection name progress) depth body = (do
      let text ← render collection
      inLoop "foreach" depth [name, passName] (turns (bindingTurn name body fun _ => done)
        ((Text.itemsOf text).map .str) 1)) := by
  have hturn : (fun value number => (setVar name value >>= fun _ => numbered body number)) =
      bindingTurn name body fun _ => done := by
    funext value number
    rw [bindingTurn, Strand.continueWith_done]
    rfl
  simp only [repeated, ← hturn, ← passesOver_eq_turns]

end

variable {r : Run} {depth : Nat} {t : Strand Signal}

theorem ofExcept_ok_bind {α β : Type} (a : α) (k : α → Strand β) :
    (Strand.ofExcept (.ok a) >>= k) = k a := rfl

/-- A strand that renders a template goes on with its text in the store that it finds. -/
theorem inside_render {f : Except Error Signal → Except Error Signal} {template : String}
    {k : String → Strand Signal}
    (h : Inside others f (render template >>= k) store events t last) :
    ∃ read, ReflTransGen others store read ∧
      Inside others f (Strand.ofExcept (Template.render read.bindings template) >>= k) read.drawn
        events t last :=
  Strand.Inside.update h

/-- Once it has read its values, a loop over values takes a turn for each of them. -/
theorem inside_repeated {f : Except Error Signal → Except Error Signal} {flow : ControlFlow}
    (h : Inside others f (r.repeated flow depth body) store events t last) :
    ∃ read, ReflTransGen others store read ∧ ∀ name values, Supplied read flow name values →
      ∃ first entered close,
        ReflTransGen others read.drawn first ∧
        ReflTransGen others (first.pushLoop flow.kind depth) entered ∧
        (∀ number outcome, (close number outcome).Settles (ReflTransGen others) outcome) ∧
        Inside others f (turns (bindingTurn name body close) values 1) entered events t last := by
  cases flow with
  | counted times name progress bar =>
    rw [repeated_counted] at h
    obtain ⟨read, hread, hinside⟩ := inside_render h
    refine ⟨read, hread, ?_⟩
    rintro _ _ (@⟨_, _, text, _, _, n, htext, hcount⟩ | _)
    have hpassCount : passCount (Text.trimmed text) = .ok n.toNat := by rw [passCount, hcount]
    rw [htext, ofExcept_ok_bind, hpassCount, ofExcept_ok_bind] at hinside
    obtain ⟨first, entered, hfirst, hentered, hturns⟩ := inside_inLoop hinside
    exact ⟨first, entered, _, hfirst, hentered, drawing_settles r bar n.toNat, hturns⟩
  | each collection name progress =>
    rw [repeated_each] at h
    obtain ⟨read, hread, hinside⟩ := inside_render h
    refine ⟨read, hread, ?_⟩
    rintro _ _ (_ | @⟨_, _, text, _, htext⟩)
    rw [htext, ofExcept_ok_bind] at hinside
    obtain ⟨first, entered, hfirst, hentered, hturns⟩ := inside_inLoop hinside
    exact ⟨first, entered, fun _ => done, hfirst, hentered, fun _ _ => rfl, hturns⟩
  | whileHolds condition progress => exact ⟨store, .refl, nofun⟩

theorem Binds.start_eq {name : String} {values : List Value} {j : Nat} {s start : Store}
    (h : Binds others name values (j + 1) s start) :
    start.vars.get? passName = some (.int (j + 1)) ∧
      (name ≠ passName → (∀ s t, others s t → t.vars.get? name = s.vars.get? name) →
        start.vars.get? name = values[j]?) := by
  obtain ⟨value, before, between, hvalue, -, hbetween, rfl⟩ := h
  refine ⟨Table.get?_set_self _ _ _, fun hname hothers => ?_⟩
  have hkept : between.vars.get? name = (before.setVar name value).vars.get? name := by
    induction hbetween with
    | refl => rfl
    | tail _ hother ih => exact (hothers _ _ hother).trans ih
  change (between.vars.set passName _).get? name = _
  rw [Table.get?_set, if_neg hname, hkept]
  exact (Table.get?_set_self _ _ _).trans hvalue.symm

/-- A loop over values makes exactly one pass for each value, if all its passes signal to go on, and
otherwise ends with the first one that does not.  The values are those read before the first pass,
whatever the body and others do, and each pass begins with its value and its number. -/
theorem loop_iterates {flow : ControlFlow} {op : Operation} {id : String}
    (h : Moves others (r.loop flow op id depth body) store events t last) :
    ∃ mid read, ReflTransGen others store mid ∧
      ReflTransGen others (if flow.progress then mid.setProgress true else mid) read ∧
      ∀ name values, Supplied read flow name values → ∃ first entered ps,
        ReflTransGen others read.drawn first ∧
        ReflTransGen others (first.pushLoop flow.kind depth) entered ∧
        unreported events = Pass.unreported ps ∧ ps.length ≤ values.length ∧
        (∀ j p, ps[j]? = some p → p.Runs others body ∧
          Binds others name values (j + 1) (Pass.leftBy entered (ps.take j)) p.start ∧
          p.start.vars.get? passName = some (.int (j + 1)) ∧
          (name ≠ passName → (∀ s t, others s t → t.vars.get? name = s.vars.get? name) →
            p.start.vars.get? name = values[j]?) ∧
          (j + 1 < ps.length → p.GoesOn)) ∧
        (∀ result, t = done result →
          (ps.length = values.length ∧ (∀ p ∈ ps, p.GoesOn) ∧ result = .ok (.ofOperation op)) ∨
            ∃ p outcome, ps.getLast? = some p ∧ p.state = done outcome ∧ outcome ≠ .ok .next ∧
              result = loopResult op outcome) ∧
        (t.Stuck last → ∃ p, ps.getLast? = some p ∧ p.state.Stuck p.last) := by
  obtain ⟨mid, hmid, hinside⟩ := inside_loop h
  obtain ⟨read, hread, hvalues⟩ := inside_repeated hinside
  refine ⟨mid, read, hmid, hread, fun name values hsupplied => ?_⟩
  obtain ⟨first, entered, close, hfirst, hentered, hclose, own, inner, last', hmoves, hown, hresult,
    hstuck⟩ := hvalues name values hsupplied
  obtain ⟨ps, result?, hps, hpasses, hresult?, hstuck'⟩ :=
    progress_turns hclose (List.nil_append values) hmoves
  refine ⟨first, entered, ps, hfirst, hentered, hown.trans hpasses, ?_, fun j p hp => ?_,
    fun result ht => ?_, fun ht => (hstuck' (hstuck ht)).resolve_left not_false⟩
  · -- a pass too many would have a value to begin with
    by_contra hlong
    obtain ⟨-, ⟨value, before, between, hvalue, -⟩, -⟩ :=
      hps.pass (List.getElem?_eq_getElem (Nat.lt_of_not_le hlong))
    rw [List.length_nil, Nat.zero_add, Nat.add_sub_cancel_left,
      List.getElem?_eq_none (Nat.le_refl _)] at hvalue
    cases hvalue
  · obtain ⟨hruns, hbinds, hgoes⟩ := hps.pass hp
    rw [List.length_nil, Nat.zero_add, Nat.add_comm] at hbinds
    exact ⟨hruns, hbinds, hbinds.start_eq.1, hbinds.start_eq.2, hgoes⟩
  · obtain ⟨outcome, hinner, rfl⟩ := hresult result ht
    rw [hresult? outcome hinner] at hps
    rcases hps.result with ⟨hgoes, hlength, rfl⟩ | ⟨p, hp, hstate, hne⟩
    · rw [List.length_nil] at hlength
      exact .inl ⟨by omega, hgoes, rfl⟩
    · exact .inr ⟨p, outcome, hp, hstate, hne, rfl⟩

/-- A body that gives another value to the variable `i`. -/
def overwriting : Strand Signal := do
  setVar "i" (.str "new")
  pure .next

/-- The loop counts on, whatever its body makes of its variable. -/
theorem loop_iterates_overwriting :
    ∃ events last, Moves Strand.nobody
      (loop ⟨1, 0, 0, .empty, "", {}⟩ (.counted "2" "i" false false) {} "" 0 overwriting)
      {} events (done (.ok .next)) last ∧
    ∃ ps : List Pass, ps.length = 2 ∧ ∀ (j : Nat) (p : Pass), ps[j]? = some p →
      p.start.vars.get? passName = some (.int (j + 1)) ∧
      p.start.vars.get? "i" = [.int 0, .int 1][j]? := by
  obtain ⟨events, last, h⟩ : ∃ events last, Moves Strand.nobody
      (loop ⟨1, 0, 0, .empty, "", {}⟩ (.counted "2" "i" false false) {} "" 0 overwriting)
      {} events (done (.ok .next)) last :=
    ⟨_, _, .own (.update _ _ _) <| .own (.update _ _ _) <| .own (.update _ _ _) <|
      .own (.update _ _ _) <| .own (.update _ _ _) <| .own (.update _ _ _) <|
      .own (.update _ _ _) <| .own (.update _ _ _) <| .own (.update _ _ _) <|
      .own (.update _ _ _) <| .own (.update _ _ _) <| .refl _ _⟩
  obtain ⟨mid, read, -, -, hvalues⟩ := loop_iterates h
  have htext : Template.render read.bindings "2" = .ok "2" := rfl
  have htwo : Supplied read (.counted "2" "i" false false) "i" [.int 0, .int 1] :=
    .counted htext (n := 2) (by decide)
  obtain ⟨first, entered, ps, -, -, -, -, hpass, hresult, -⟩ :=
    hvalues "i" [.int 0, .int 1] htwo
  refine ⟨events, last, h, ps, ?_, fun j p hp => ?_⟩
  · rcases hresult _ rfl with ⟨hlength, -, -⟩ | ⟨p, outcome, hp, hstate, hne, -⟩
    · exact hlength
    · -- the body comes to nothing else than the signal to go on
      have hends : overwriting.Ends p.start fun _ result _ => result = .ok .next :=
        (Strand.ends_update _ _).2 ((Strand.ends_done _).2 rfl)
      rw [List.getLast?_eq_getElem?] at hp
      have hruns := (hpass _ p hp).1
      rw [Pass.Runs, hstate] at hruns
      exact absurd (hends _ _ _ hruns) hne
  · obtain ⟨-, -, hnumber, hname, -⟩ := hpass j p hp
    exact ⟨hnumber, hname (by decide) fun _ _ h => h.elim⟩

end RecipeRunner.Run
