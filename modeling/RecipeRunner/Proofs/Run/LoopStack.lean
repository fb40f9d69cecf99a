import RecipeRunner.Store
/-!
# The stack of loops

Whoever enters a loop holds its key and leaves it with that key, and loops are left in any order:
the main strand and the handlers of background units share one stack.  What is on the stack is told
by the calls alone: the loops that were entered and not left since, in the order of entering.

* `LoopCall.live`: the loops that calls leave, from the calls.
* `Store.LoopKeys`: what every call keeps, that the loops have keys of their own.
* `LoopCall.loops_replay`: the stack behind calls.
-/

namespace RecipeRunner

/-- A call that enters a loop, notes how long one has been running, or leaves one. -/
inductive LoopCall where
  | push (kind : String) (depth : Nat)
  | tick (key elapsed : Nat)
  | drop (key : Nat)
  deriving DecidableEq

namespace LoopCall

/-- The store behind a call. -/
def apply (s : Store) : LoopCall → Store
  | push kind depth => s.pushLoop kind depth
  | tick key elapsed => s.tickLoop key elapsed
  | drop key => s.popLoop key

/-- The store behind calls, one after the other. -/
def replay (s : Store) (calls : List LoopCall) : Store :=
  calls.foldl apply s

/-- Whether a call enters a loop. -/
def isPush : LoopCall → Bool
  | push .. => true
  | tick .. | drop .. => false

/-- How long a loop is noted to have been running behind a call. -/
def noted (key elapsed : Nat) : LoopCall → Nat
  | tick key' elapsed' => if key' = key then elapsed' else elapsed
  | push .. | drop .. => elapsed

/-- What calls leave of a loop that was entered before them. -/
def left? (calls : List LoopCall) (l : Loop) : Option Loop :=
  if drop l.key ∈ calls then none
  else some { l with elapsed := calls.foldl (noted l.key) l.elapsed }

/-- The loops that calls enter and do not leave, in the order of entering; their keys are numbered
from `first` on. -/
def live (first : Nat) : List LoopCall → List Loop
  | [] => []
  | push kind depth :: rest =>
    (left? rest { key := first, kind := kind, depth := depth }).toList ++ live (first + 1) rest
  | tick .. :: rest => live first rest
  | drop _ :: rest => live first rest

/-- Every loop that was entered has been left since. -/
def AllLeft (first : Nat) (calls : List LoopCall) : Prop :=
  ∀ before kind depth rest, calls = before ++ push kind depth :: rest →
    drop (first + before.countP isPush) ∈ rest

end LoopCall

/-! ## Keys -/

/-- The loops of a store have keys of their own, and a further loop has one as well. -/
structure Store.LoopKeys (s : Store) : Prop where
  distinct : s.loops.Pairwise fun a b => a.key ≠ b.key
  lt : ∀ l ∈ s.loops, l.key < s.nextKey

namespace Store.LoopKeys

variable {s : Store}

theorem pushLoop (h : s.LoopKeys) (kind : String) (depth : Nat) :
    (s.pushLoop kind depth).LoopKeys where
  distinct := List.pairwise_cons.2 ⟨fun l hl => Nat.ne_of_gt (h.lt l hl), h.distinct⟩
  lt := List.forall_mem_cons.2 ⟨Nat.lt_succ_self _, fun l hl => Nat.lt_succ_of_lt (h.lt l hl)⟩

theorem tickLoop (h : s.LoopKeys) (key elapsed : Nat) : (s.tickLoop key elapsed).LoopKeys := by
  have hkey (l : Loop) :
      (if l.key = key then { l with elapsed := elapsed } else l).key = l.key := by
    split <;> rfl
  refine ⟨List.pairwise_map.2 ?_, List.forall_mem_map.2 fun l hl => ?_⟩
  · simpa only [hkey] using h.distinct
  · rw [hkey]
    exact h.lt l hl

theorem popLoop (h : s.LoopKeys) (key : Nat) : (s.popLoop key).LoopKeys where
  distinct := h.distinct.sublist List.eraseP_sublist
  lt := fun l hl => h.lt l (List.mem_of_mem_eraseP hl)

theorem apply (h : s.LoopKeys) (call : LoopCall) : (call.apply s).LoopKeys := by
  cases call with
  | push kind depth => exact h.pushLoop kind depth
  | tick key elapsed => exact h.tickLoop key elapsed
  | drop key => exact h.popLoop key

end Store.LoopKeys

/-- Where keys are distinct, a loop that is left is the only one with its key. -/
theorem eraseP_key_eq_filter {loops : List Loop} (h : loops.Pairwise fun a b => a.key ≠ b.key)
    (key : Nat) : loops.eraseP (·.key = key) = loops.filter (·.key ≠ key) := by
  induction loops with
  | nil => rfl
  | cons l rest ih =>
    obtain ⟨hl, hrest⟩ := List.pairwise_cons.1 h
    by_cases hkey : l.key = key
    · subst hkey
      rw [List.eraseP_cons_of_pos (by simp), List.filter_cons_of_neg (by simp)]
      exact (List.filter_eq_self.2 fun a ha => by simpa using (hl a ha).symm).symm
    · rw [List.eraseP_cons_of_neg (by simpa using hkey),
        List.filter_cons_of_pos (by simpa using hkey), ih hrest]

/-! ## Calls in a row -/

namespace LoopCall

variable {first : Nat} {calls rest : List LoopCall}

theorem replay_cons (s : Store) (call : LoopCall) (rest : List LoopCall) :
    replay s (call :: rest) = replay (call.apply s) rest := rfl

theorem nextKey_replay (s : Store) (calls : List LoopCall) :
    (replay s calls).nextKey = s.nextKey + calls.countP isPush := by
  induction calls generalizing s with
  | nil => rfl
  | cons call rest ih =>
    have hcall : (call.apply s).nextKey = s.nextKey + if isPush call then 1 else 0 := by
      cases call <;> rfl
    rw [replay_cons, ih, hcall,
      List.countP_cons, Nat.add_assoc, Nat.add_comm (rest.countP isPush)]

theorem left?_push (kind : String) (depth : Nat) :
    left? (push kind depth :: rest) = left? rest := by
  funext l
  simp [left?, noted]

theorem left?_tick (key elapsed : Nat) (l : Loop) : left? (tick key elapsed :: rest) l =
    left? rest (if l.key = key then { l with elapsed := elapsed } else l) := by
  by_cases hkey : l.key = key
  · simp [left?, noted, hkey]
  · simp [left?, noted, hkey, Ne.symm hkey]

theorem left?_drop (key : Nat) (l : Loop) : left? (drop key :: rest) l =
    if l.key ≠ key then left? rest l else none := by
  by_cases hkey : l.key = key
  · simp [left?, hkey]
  · simp [left?, noted, hkey]

/-- Calls leave of a stack what they leave of its loops, and behind that the loops that they enter
themselves. -/
theorem reverse_loops_replay {s : Store} (h : s.LoopKeys) (calls : List LoopCall) :
    (replay s calls).loops.reverse =
      s.loops.reverse.filterMap (left? calls) ++ live s.nextKey calls := by
  induction calls generalizing s with
  | nil =>
    have hnil : left? [] = some := by
      funext l
      simp [left?]
    rw [hnil, List.filterMap_some]
    exact (List.append_nil _).symm
  | cons call rest ih =>
    rw [replay_cons, ih (h.apply call)]
    cases call with
    | push kind depth =>
      simp only [apply, Store.pushLoop, live, left?_push, List.reverse_cons, List.filterMap_append,
        List.append_assoc]
      congr 2
    | tick key elapsed =>
      simp only [apply, Store.tickLoop, live, ← List.map_reverse, List.filterMap_map]
      congr 2
      funext l
      exact (left?_tick key elapsed l).symm
    | drop key =>
      simp only [apply, Store.popLoop, live, eraseP_key_eq_filter h.distinct, ← List.filter_reverse,
        List.filterMap_filter]
      congr 2
      funext l
      simpa using (left?_drop key l).symm

theorem left?_eq_none_iff {l : Loop} : left? calls l = none ↔ drop l.key ∈ calls := by
  unfold left?
  split
  · next hdrop => exact iff_of_true rfl hdrop
  · next hdrop => exact iff_of_false nofun hdrop

theorem allLeft_cons {call : LoopCall} : AllLeft first (call :: rest) ↔
    (∀ kind depth, call = push kind depth → drop first ∈ rest) ∧
      AllLeft (first + if isPush call then 1 else 0) rest := by
  refine ⟨fun h => ⟨?_, ?_⟩, fun ⟨hfirst, hrest⟩ => ?_⟩
  · rintro kind depth rfl
    exact h [] kind depth rest rfl
  · rintro before kind depth behind rfl
    have hdrop := h (call :: before) kind depth behind rfl
    rwa [List.countP_cons, Nat.add_comm (before.countP isPush), ← Nat.add_assoc] at hdrop
  · intro before kind depth behind heq
    cases before with
    | nil =>
      obtain ⟨hcall, rfl⟩ := List.cons.inj heq
      exact hfirst kind depth hcall
    | cons other before =>
      obtain ⟨rfl, rfl⟩ := List.cons.inj heq
      have hdrop := hrest before kind depth behind rfl
      rwa [List.countP_cons, Nat.add_comm (before.countP isPush), ← Nat.add_assoc]

theorem live_eq_nil_iff : live first calls = [] ↔ AllLeft first calls := by
  induction calls generalizing first with
  | nil => exact iff_of_true rfl fun before kind depth rest h => by simp at h
  | cons call rest ih =>
    rw [allLeft_cons]
    cases call with
    | push kind depth =>
      have hdrop : (left? rest { key := first, kind := kind, depth := depth }).toList = [] ↔
          drop first ∈ rest := by
        rw [Option.toList_eq_nil_iff, left?_eq_none_iff]
      rw [live, List.append_eq_nil_iff, hdrop, ih]
      refine and_congr_left' ⟨fun h _ _ _ => h, fun h => h kind depth rfl⟩
    | tick key elapsed => exact ih.trans ⟨fun h => ⟨nofun, h⟩, And.right⟩
    | drop key => exact ih.trans ⟨fun h => ⟨nofun, h⟩, And.right⟩

/-- The stack behind calls, on a store that started without loops: the loops that were entered and
not left since, whichever were left before, in the order of entering and with the kinds and depths
that they were entered with.  The loop entered last is the present one, and the stack is empty
exactly if every loop has been left.  Each loop has been given a key that no call was given
before. -/
theorem loops_replay (s : Store) (calls : List LoopCall) :
    let t := replay { s with loops := [] } calls
    t.loops.reverse = live s.nextKey calls ∧
      t.loops.length = (live s.nextKey calls).length ∧
      t.currentLoop? = (live s.nextKey calls).getLast? ∧
      (t.loops = [] ↔ AllLeft s.nextKey calls) ∧
      t.nextKey = s.nextKey + calls.countP isPush := by
  have hkeys : ({ s with loops := [] } : Store).LoopKeys :=
    ⟨List.Pairwise.nil, List.forall_mem_nil _⟩
  have hloops := reverse_loops_replay hkeys calls
  rw [List.reverse_nil, List.filterMap_nil, List.nil_append] at hloops
  refine ⟨hloops, ?_, ?_, ?_, nextKey_replay _ calls⟩
  · rw [← hloops, List.length_reverse]
  · rw [← hloops, List.getLast?_reverse]
    rfl
  · rw [← live_eq_nil_iff, ← hloops, List.reverse_eq_nil_iff]

end LoopCall

end RecipeRunner
