import RecipeRunner.Pattern.Basic
import RecipeRunner.Proofs.Text.Search
import Mathlib.Data.List.TakeWhile
/-!
# Matches of patterns

A pattern reads texts, and a match from a place to another passes over a text that is read.  Of
several matches the preferred one is found part by part: a sequence takes the first end of its first
part from which the second goes on, and a repetition of a set passes over as many characters as it
can.  Where matches are replaced, the leftmost one is, and then those behind it.

* `Reads`: the texts that a pattern reads.
* `exists_reads_of_mem_ends`: every end that is listed lies behind a text that is read.
* `matchAt?_seq`, `matchAt?_alt`, `matchAt?_atLeast`: the preferred match.
* `Rewrites`: a text and what replacing the matches in it gives.
* `Blots.occursIn`: where what stands in a text with parts replaced comes from.
-/

namespace RecipeRunner.Pattern

/-- The texts that a pattern reads, conditions on what stands around a place left aside. -/
inductive Reads : Pattern → List Char → Prop
  | empty : Reads empty []
  | one {s : CharSet} {c : Char} (h : s.contains c = true) : Reads (one s) [c]
  | boundary {b : Boundary} : Reads (boundary b) []
  | seq {a b : Pattern} {v w : List Char} (ha : Reads a v) (hb : Reads b w) :
      Reads (seq a b) (v ++ w)
  | altLeft {a b : Pattern} {w : List Char} (h : Reads a w) : Reads (alt a b) w
  | altRight {a b : Pattern} {w : List Char} (h : Reads b w) : Reads (alt a b) w
  | repeated {greedy : Bool} {least : Nat} {further : Option Nat} {a : Pattern}
      {texts : List (List Char)} (hleast : least ≤ texts.length)
      (hmost : ∀ n ∈ further, texts.length ≤ least + n) (h : ∀ t ∈ texts, Reads a t) :
      Reads (repeated greedy least further a) texts.flatten

/-- One place is reached from another by as many steps. -/
inductive Reaches (step : Place → List Place) : Nat → Place → Place → Prop
  | zero (p : Place) : Reaches step 0 p p
  | succ {n : Nat} {p q r : Place} (hstep : q ∈ step p) (h : Reaches step n q r) :
      Reaches step (n + 1) p r

variable {a b : Pattern} {p q : Place} {s : CharSet} {w : List Char} {greedy : Bool}
  {step : Place → List Place} {places seen : List Place} {n : Nat}

/-! ## Places that are listed -/

theorem of_mem_addNew (h : q ∈ addNew seen places) : q ∈ seen ∨ q ∈ places := by
  induction places generalizing seen with
  | nil => exact .inl h
  | cons p places ih =>
    rcases ih h with hseen | hplaces
    · dsimp only at hseen
      split at hseen
      · exact .inl hseen
      · exact (List.mem_cons.1 hseen).elim (fun heq => .inr (heq ▸ List.mem_cons_self)) .inl
    · exact .inr (List.mem_cons_of_mem _ hplaces)

theorem of_mem_stepAll (h : q ∈ stepAll step places) : ∃ p ∈ places, q ∈ step p := by
  have hfold : ∀ seen, q ∈ places.foldl (fun seen p => addNew seen (step p)) seen →
      q ∈ seen ∨ ∃ p ∈ places, q ∈ step p := by
    clear h
    induction places with
    | nil => exact fun seen h => .inl h
    | cons p places ih =>
      intro seen h
      rcases ih _ h with hseen | ⟨p', hp', hq⟩
      · exact (of_mem_addNew hseen).imp id fun hq => ⟨p, List.mem_cons_self, hq⟩
      · exact .inr ⟨p', List.mem_cons_of_mem _ hp', hq⟩
  exact (hfold [] (List.mem_reverse.1 h)).resolve_left List.not_mem_nil

theorem reaches_of_mem_times (h : q ∈ times step n places) : ∃ p ∈ places, Reaches step n p q := by
  induction n generalizing places with
  | zero => exact ⟨q, h, .zero q⟩
  | succ n ih =>
    obtain ⟨p', hp', hreaches⟩ := ih h
    obtain ⟨p, hp, hstep⟩ := of_mem_stepAll hp'
    exact ⟨p, hp, .succ hstep hreaches⟩

theorem reaches_of_mem_explore {fuel : Nat} (h : q ∈ explore greedy step fuel seen p) :
    q ∈ seen ∨ ∃ n, Reaches step n p q := by
  induction fuel generalizing seen p with
  | zero => exact .inl h
  | succ fuel ih =>
    have hfold : ∀ (next : List Place), (∀ p' ∈ next, p' ∈ step p) → ∀ seen,
        q ∈ next.foldl (explore greedy step fuel) seen →
          q ∈ seen ∨ ∃ n, Reaches step n p q := by
      intro next
      induction next with
      | nil => exact fun _ seen h => .inl h
      | cons p' next ihnext =>
        intro hnext seen h
        obtain ⟨hp', hrest⟩ := List.forall_mem_cons.1 hnext
        rcases ihnext hrest _ h with hmem | hreaches
        · exact (ih hmem).imp id fun ⟨n, hn⟩ => ⟨n + 1, .succ hp' hn⟩
        · exact .inr hreaches
    have hnext : ∀ p' ∈ (step p).filter (·.after.length < p.after.length), p' ∈ step p :=
      fun p' hp' => (List.mem_filter.1 hp').1
    rw [explore] at h
    split at h
    · exact .inl h
    · cases greedy with
      | true =>
        rcases List.mem_cons.1 h with rfl | h
        · exact .inr ⟨0, .zero q⟩
        · exact hfold _ hnext _ h
      | false =>
        rcases hfold _ hnext _ h with hmem | hreaches
        · rcases List.mem_cons.1 hmem with rfl | hseen
          · exact .inr ⟨0, .zero q⟩
          · exact .inl hseen
        · exact .inr hreaches

theorem reaches_of_mem_atMost (h : q ∈ atMost greedy step n p) : ∃ k ≤ n, Reaches step k p q := by
  induction n generalizing p with
  | zero =>
    obtain rfl := List.mem_singleton.1 h
    exact ⟨0, Nat.le_refl _, .zero q⟩
  | succ n ih =>
    have hor : q ∈ stepAll (atMost greedy step n) (step p) ∨ q = p := by
      rw [atMost, List.mem_reverse] at h
      split at h
      · rcases of_mem_addNew h with h | h
        · exact .inl ((of_mem_addNew h).resolve_left List.not_mem_nil)
        · exact .inr (List.mem_singleton.1 h)
      · exact (of_mem_addNew h).symm.imp id List.mem_singleton.1
    rcases hor with h | rfl
    · obtain ⟨p', hp', hq⟩ := of_mem_stepAll h
      obtain ⟨k, hk, hreaches⟩ := ih hq
      exact ⟨k + 1, Nat.succ_le_succ hk, .succ hp' hreaches⟩
    · exact ⟨0, Nat.zero_le _, .zero q⟩

/-! ## Texts that are read -/

theorem Reaches.exists_texts {R : List Char → Prop}
    (hstep : ∀ p q, q ∈ step p → ∃ w, p.after = w ++ q.after ∧ R w) (h : Reaches step n p q) :
    ∃ texts : List (List Char), texts.length = n ∧ p.after = texts.flatten ++ q.after ∧
      ∀ t ∈ texts, R t := by
  induction h with
  | zero p => exact ⟨[], rfl, rfl, List.forall_mem_nil _⟩
  | succ hfirst _ ih =>
    obtain ⟨w, hafter, hw⟩ := hstep _ _ hfirst
    obtain ⟨texts, hlength, hrest, htexts⟩ := ih
    refine ⟨w :: texts, congrArg (· + 1) hlength, ?_, List.forall_mem_cons.2 ⟨hw, htexts⟩⟩
    rw [hafter, hrest, List.flatten_cons, List.append_assoc]

/-- Every end that is listed lies behind a text that the pattern reads. -/
theorem exists_reads_of_mem_ends (h : q ∈ a.ends p) : ∃ w, p.after = w ++ q.after ∧ Reads a w := by
  induction a generalizing p q with
  | empty =>
    obtain rfl := List.mem_singleton.1 h
    exact ⟨[], rfl, .empty⟩
  | one s =>
    obtain ⟨before, after⟩ := p
    rw [ends, Option.mem_toList] at h
    cases after with
    | nil => cases h
    | cons c after =>
      rw [Place.step?] at h
      split at h
      · next hc =>
        obtain rfl := Option.some.inj h
        exact ⟨[c], rfl, .one hc⟩
      · cases h
  | boundary b =>
    rw [ends] at h
    split at h
    · obtain rfl := List.mem_singleton.1 h
      exact ⟨[], rfl, .boundary⟩
    · cases h
  | seq a b iha ihb =>
    obtain ⟨r, hr, hq⟩ := of_mem_stepAll h
    obtain ⟨v, hv, ha⟩ := iha hr
    obtain ⟨w, hw, hb⟩ := ihb hq
    exact ⟨v ++ w, by rw [hv, hw, List.append_assoc], .seq ha hb⟩
  | alt a b iha ihb =>
    rcases of_mem_addNew (List.mem_reverse.1 h) with h | h
    · obtain ⟨w, hw, ha⟩ := iha ((of_mem_addNew h).resolve_left List.not_mem_nil)
      exact ⟨w, hw, .altLeft ha⟩
    · obtain ⟨w, hw, hb⟩ := ihb h
      exact ⟨w, hw, .altRight hb⟩
  | repeated greedy least further a ih =>
    obtain ⟨r, hr, hq⟩ := of_mem_stepAll h
    obtain ⟨p', hp', hfirst⟩ := reaches_of_mem_times hr
    obtain rfl := List.mem_singleton.1 hp'
    have htail : ∃ k, (∀ n ∈ further, k ≤ n) ∧ Reaches a.ends k r q := by
      cases further with
      | none =>
        obtain ⟨k, hk⟩ := (reaches_of_mem_explore (List.mem_reverse.1 hq)).resolve_left
          List.not_mem_nil
        exact ⟨k, nofun, hk⟩
      | some n =>
        obtain ⟨k, hle, hk⟩ := reaches_of_mem_atMost hq
        exact ⟨k, fun m hm => Option.some.inj hm ▸ hle, hk⟩
    obtain ⟨k, hmost, hrest⟩ := htail
    obtain ⟨front, hfront, hafter, hread⟩ := hfirst.exists_texts fun p q => ih (p := p) (q := q)
    obtain ⟨back, hback, hbehind, hread'⟩ := hrest.exists_texts fun p q => ih (p := p) (q := q)
    refine ⟨(front ++ back).flatten, ?_, .repeated ?_ ?_ ?_⟩
    · rw [hafter, hbehind, List.flatten_append, List.append_assoc]
    · rw [List.length_append, hfront]
      exact Nat.le_add_right _ _
    · intro n hn
      rw [List.length_append, hfront, hback]
      exact Nat.add_le_add_left (hmost n hn) _
    · exact List.forall_mem_append.2 ⟨hread, hread'⟩

/-- A match passes over a text that the pattern reads. -/
theorem exists_reads_of_matchAt? (h : a.matchAt? p = some q) :
    ∃ w, p.after = w ++ q.after ∧ Reads a w :=
  exists_reads_of_mem_ends (List.mem_of_mem_head? h)

theorem reads_seq_iff : Reads (seq a b) w ↔ ∃ u v, w = u ++ v ∧ Reads a u ∧ Reads b v := by
  constructor
  · rintro ⟨⟩
    exact ⟨_, _, rfl, ‹_›, ‹_›⟩
  · rintro ⟨u, v, rfl, hu, hv⟩
    exact .seq hu hv

theorem reads_alt_iff : Reads (alt a b) w ↔ Reads a w ∨ Reads b w := by
  constructor
  · rintro ⟨⟩
    · exact .inl ‹_›
    · exact .inr ‹_›
  · exact fun h => h.elim .altLeft .altRight

theorem reads_one_iff : Reads (one s) w ↔ ∃ c, w = [c] ∧ s.contains c = true := by
  constructor
  · rintro ⟨⟩
    exact ⟨_, rfl, ‹_›⟩
  · rintro ⟨c, rfl, hc⟩
    exact .one hc

theorem reads_empty_iff : Reads empty w ↔ w = [] := by
  constructor
  · rintro ⟨⟩
    rfl
  · rintro rfl
    exact .empty

theorem exists_texts_of_reads {least : Nat} {further : Option Nat}
    (h : Reads (repeated greedy least further a) w) :
    ∃ texts : List (List Char), w = texts.flatten ∧ least ≤ texts.length ∧
      ∀ t ∈ texts, Reads a t := by
  cases h with
  | repeated hleast _ htexts => exact ⟨_, rfl, hleast, htexts⟩

/-- A repetition of a set reads texts of its members. -/
theorem forall_contains_of_reads (h : Reads (atLeast n (one s)) w) :
    n ≤ w.length ∧ ∀ c ∈ w, s.contains c = true := by
  obtain ⟨texts, rfl, hleast, htexts⟩ := exists_texts_of_reads h
  have hchars : ∃ cs : List Char, texts = cs.map ([·]) ∧ ∀ c ∈ cs, s.contains c = true := by
    clear hleast h
    induction texts with
    | nil => exact ⟨[], rfl, List.forall_mem_nil _⟩
    | cons t texts ih =>
      obtain ⟨ht, hrest⟩ := List.forall_mem_cons.1 htexts
      obtain ⟨c, rfl, hc⟩ := reads_one_iff.1 ht
      obtain ⟨cs, rfl, hcs⟩ := ih hrest
      exact ⟨c :: cs, rfl, List.forall_mem_cons.2 ⟨hc, hcs⟩⟩
  obtain ⟨cs, rfl, hcs⟩ := hchars
  have hflatten : (cs.map ([·])).flatten = cs := by
    rw [← List.flatMap_def, List.flatMap_singleton']
  rw [List.length_map] at hleast
  rw [hflatten]
  exact ⟨hleast, hcs⟩

/-- Whether a set of a pattern has a character. -/
def mentions : Pattern → Char → Bool
  | empty, _ => false
  | one s, c => s.contains c
  | boundary _, _ => false
  | seq a b, c => a.mentions c || b.mentions c
  | alt a b, c => a.mentions c || b.mentions c
  | repeated _ _ _ a, c => a.mentions c

theorem Reads.mentions (h : Reads a w) : ∀ c ∈ w, a.mentions c = true := by
  induction h with
  | empty => exact List.forall_mem_nil _
  | one hc => exact List.forall_mem_singleton.2 hc
  | boundary => exact List.forall_mem_nil _
  | seq _ _ iha ihb =>
    refine List.forall_mem_append.2 ⟨fun c hc => ?_, fun c hc => ?_⟩
    · exact Bool.or_eq_true_iff.2 (.inl (iha c hc))
    · exact Bool.or_eq_true_iff.2 (.inr (ihb c hc))
  | altLeft _ ih => exact fun c hc => Bool.or_eq_true_iff.2 (.inl (ih c hc))
  | altRight _ ih => exact fun c hc => Bool.or_eq_true_iff.2 (.inr (ih c hc))
  | repeated _ _ _ ih =>
    intro c hc
    obtain ⟨t, ht, hct⟩ := List.mem_flatten.1 hc
    exact ih t ht c hct

/-- Every text that a pattern reads ends in a member of a set. -/
def EndsIn (last : CharSet) (a : Pattern) : Prop :=
  ∀ w, Reads a w → ∃ front c, w = front ++ [c] ∧ last.contains c = true

theorem endsIn_one (s : CharSet) : EndsIn s (one s) := by
  intro w h
  obtain ⟨c, rfl, hc⟩ := reads_one_iff.1 h
  exact ⟨[], c, rfl, hc⟩

theorem EndsIn.alt (ha : EndsIn s a) (hb : EndsIn s b) : EndsIn s (alt a b) :=
  fun w h => (reads_alt_iff.1 h).elim (ha w) (hb w)

theorem EndsIn.seq (a : Pattern) (hb : EndsIn s b) : EndsIn s (seq a b) := by
  intro w h
  obtain ⟨u, v, rfl, -, hv⟩ := reads_seq_iff.1 h
  obtain ⟨front, c, rfl, hc⟩ := hb v hv
  exact ⟨u ++ front, c, (List.append_assoc _ _ _).symm, hc⟩

/-- A sequence ends as its last part does. -/
theorem EndsIn.seqs (parts : List Pattern) (ha : EndsIn s a) : EndsIn s (seqs (parts ++ [a])) := by
  induction parts with
  | nil =>
    intro w h
    obtain ⟨u, v, rfl, hu, hv⟩ := reads_seq_iff.1 h
    rw [reads_empty_iff.1 hv, List.append_nil]
    exact ha u hu
  | cons b parts ih => exact ih.seq b

theorem endsIn_atLeast (n : Nat) (s : CharSet) : EndsIn s (atLeast (n + 1) (one s)) := by
  intro w h
  obtain ⟨hlength, hw⟩ := forall_contains_of_reads h
  rcases List.eq_nil_or_concat w with rfl | ⟨front, c, rfl⟩
  · exact absurd hlength (Nat.not_succ_le_zero n)
  · exact ⟨front, c, List.concat_eq_append, hw c (by simp)⟩

/-! ## Preferred matches -/

theorem getLast?_addNew (seen places : List Place) :
    (addNew seen places).getLast? = seen.getLast?.or places.head? := by
  induction places generalizing seen with
  | nil => exact (Option.or_none).symm
  | cons p places ih =>
    rw [addNew, List.foldl_cons, ← addNew, ih]
    cases seen with
    | nil => simp
    | cons q seen =>
      have hlast := List.getLast?_eq_some_getLast (List.cons_ne_nil q seen)
      split
      · rw [hlast, Option.some_or, Option.some_or]
      · rw [List.getLast?_cons_cons, hlast, Option.some_or, Option.some_or]

/-- Of the places that a step reaches from several, the first one is preferred: it is never listed
before. -/
theorem head?_stepAll (step : Place → List Place) (places : List Place) :
    (stepAll step places).head? = places.findSome? fun p => (step p).head? := by
  have hfold : ∀ seen, (places.foldl (fun seen p => addNew seen (step p)) seen).getLast? =
      seen.getLast?.or (places.findSome? fun p => (step p).head?) := by
    induction places with
    | nil => exact fun seen => (Option.or_none).symm
    | cons p places ih =>
      intro seen
      rw [List.foldl_cons, ih, getLast?_addNew, Option.or_assoc, List.findSome?_cons]
      cases (step p).head? <;> rfl
  rw [stepAll, List.head?_reverse, hfold]
  rfl

theorem matchAt?_one {c : Char} (hc : s.contains c = true) (before after : List Char) :
    (one s).matchAt? ⟨before, c :: after⟩ = some ⟨c :: before, after⟩ := by
  rw [matchAt?, ends, Place.step?, if_pos hc]
  rfl

/-- A sequence takes the first end of its first part from which its second part goes on. -/
theorem matchAt?_seq (a b : Pattern) (p : Place) :
    (seq a b).matchAt? p = (a.ends p).findSome? b.matchAt? :=
  head?_stepAll b.ends (a.ends p)

theorem matchAt?_seq_of_some {r : Place} (ha : a.matchAt? p = some r) (hb : b.matchAt? r = some q) :
    (seq a b).matchAt? p = some q := by
  obtain ⟨rest, hends⟩ := List.head?_eq_some_iff.1 ha
  rw [matchAt?_seq, hends, List.findSome?_cons, hb]

theorem exists_of_matchAt?_seq (h : (seq a b).matchAt? p = some q) :
    ∃ r ∈ a.ends p, b.matchAt? r = some q := by
  rw [matchAt?_seq] at h
  exact List.exists_of_findSome?_eq_some h

/-- What holds of the ends of the second part holds of those of a sequence. -/
theorem of_matchAt?_seq {P : Place → Prop} (hb : ∀ p q, b.matchAt? p = some q → P q) (p q : Place)
    (h : (seq a b).matchAt? p = some q) : P q :=
  have ⟨r, _, hr⟩ := exists_of_matchAt?_seq h
  hb r q hr

theorem matchAt?_seq_empty (a : Pattern) (p : Place) :
    (seq a empty).matchAt? p = a.matchAt? p := by
  rw [matchAt?_seq, matchAt?]
  cases a.ends p <;> rfl

theorem matchAt?_alt (a b : Pattern) (p : Place) :
    (alt a b).matchAt? p = (a.matchAt? p).or (b.matchAt? p) := by
  rw [matchAt?, ends, List.head?_reverse, getLast?_addNew, getLast?_addNew]
  rfl

/-! ## Repetitions of sets -/

/-- The place behind the longest stretch of members of a set. -/
def Place.over (s : CharSet) (p : Place) : Place :=
  ⟨(p.after.takeWhile s.contains).reverse ++ p.before, p.after.dropWhile s.contains⟩

theorem getLast?_explore_one (s : CharSet) {fuel : Nat} (h : p.after.length < fuel) :
    (explore true (one s).ends fuel [] p).getLast? = some (p.over s) := by
  induction fuel generalizing p with
  | zero => exact absurd h (Nat.not_lt_zero _)
  | succ fuel ih =>
    obtain ⟨before, after⟩ := p
    cases after with
    | nil => rfl
    | cons c after =>
      by_cases hc : s.contains c = true
      · have hstep : (one s).ends ⟨before, c :: after⟩ = [⟨c :: before, after⟩] := by
          rw [ends, Place.step?, if_pos hc]
          rfl
        have hnext := ih (p := ⟨c :: before, after⟩) (Nat.lt_of_succ_lt_succ h)
        rw [explore, if_neg (by simp), hstep, List.filter_cons_of_pos (by simp)]
        rw [if_pos rfl, List.filter_nil, List.foldl_cons, List.foldl_nil, List.getLast?_cons, hnext]
        simp [Place.over, hc]
      · have hstep : (one s).ends ⟨before, c :: after⟩ = [] := by
          rw [ends, Place.step?, if_neg hc]
          rfl
        rw [explore, if_neg (by simp), hstep]
        simp [Place.over, hc]

theorem times_nil (step : Place → List Place) (n : Nat) : times step n [] = [] := by
  induction n with
  | zero => rfl
  | succ n ih => exact ih

/-- A repetition of a set passes over as many members as there are. -/
theorem matchAt?_atLeast (n : Nat) (s : CharSet) (p : Place) : (atLeast n (one s)).matchAt? p =
    if n ≤ (p.after.takeWhile s.contains).length then some (p.over s) else none := by
  have hends : (atLeast n (one s)).matchAt? p =
      (times (one s).ends n [p]).findSome? fun r => some (r.over s) := by
    rw [atLeast, matchAt?, ends, head?_stepAll]
    simp only [List.head?_reverse, getLast?_explore_one s (Nat.lt_succ_self _)]
  rw [hends]
  clear hends
  induction n generalizing p with
  | zero => rfl
  | succ n ih =>
    obtain ⟨before, after⟩ := p
    cases after with
    | nil =>
      rw [times, show stepAll (one s).ends [⟨before, []⟩] = [] from rfl, times_nil]
      rfl
    | cons c after =>
      by_cases hc : s.contains c = true
      · have hstep : stepAll (one s).ends [⟨before, c :: after⟩] = [⟨c :: before, after⟩] := by
          simp [stepAll, ends, Place.step?, hc, addNew]
        rw [times, hstep, ih]
        simp [Place.over, hc]
      · have hstep : stepAll (one s).ends [⟨before, c :: after⟩] = [] := by
          simp [stepAll, ends, Place.step?, hc, addNew]
        rw [times, hstep, times_nil]
        simp [hc]

theorem matchAt?_star_of_not (h : ∀ c ∈ p.after.head?, s.contains c = false) :
    (star (one s)).matchAt? p = some p := by
  have hover : p.over s = p := by
    obtain ⟨before, after⟩ := p
    cases after with
    | nil => rfl
    | cons c after => simp [Place.over, h c rfl]
  rw [show star (one s) = atLeast 0 (one s) from rfl, matchAt?_atLeast, if_pos (Nat.zero_le _),
    hover]

theorem matchAt?_atLeast_of_forall (h : ∀ c ∈ p.after, s.contains c = true)
    (hn : n ≤ p.after.length) :
    (atLeast n (one s)).matchAt? p = some ⟨p.after.reverse ++ p.before, []⟩ := by
  have htake : p.after.takeWhile s.contains = p.after := List.takeWhile_eq_self_iff.2 h
  have hdrop : p.after.dropWhile s.contains = [] := List.dropWhile_eq_nil_iff.2 h
  rw [matchAt?_atLeast, Place.over, htake, hdrop, if_pos hn]

/-- A repetition of a set goes on to the end of the text or to a character outside the set. -/
theorem head?_of_matchAt?_atLeast (h : (atLeast n (one s)).matchAt? p = some q) :
    ∀ c ∈ q.after.head?, s.contains c = false := by
  rw [matchAt?_atLeast] at h
  split at h
  · obtain rfl := Option.some.inj h
    intro c hc
    have hnot := List.head?_dropWhile_not s.contains p.after
    rw [Place.over, Option.mem_def] at hc
    rw [hc] at hnot
    exact hnot
  · cases h

/-! ## Replacements -/

/-- What comes of a text where the leftmost match is replaced by a mark, and then what stands behind
it in the same way.  A match of nothing is none. -/
inductive Rewrites (pattern : Pattern) (mark : List Char) :
    List Char → List Char → List Char → Prop
  | nil (before : List Char) : Rewrites pattern mark before [] []
  | keep {before rest u : List Char} {c : Char}
      (hnone : ∀ q, pattern.matchAt? ⟨before, c :: rest⟩ = some q → q.after = c :: rest)
      (h : Rewrites pattern mark (c :: before) rest u) :
      Rewrites pattern mark before (c :: rest) (c :: u)
  | replace {before part rest u : List Char} {q : Place} (hpart : part ≠ [])
      (hmatch : pattern.matchAt? ⟨before, part ++ rest⟩ = some q) (hq : q.after = rest)
      (h : Rewrites pattern mark (part.reverse ++ before) rest u) :
      Rewrites pattern mark before (part ++ rest) (mark ++ u)

/-- A text in which parts are replaced by a mark, wherever they are. -/
inductive Blots (mark : List Char) : List Char → List Char → Prop
  | nil : Blots mark [] []
  | keep (c : Char) {t u : List Char} (h : Blots mark t u) : Blots mark (c :: t) (c :: u)
  | blot (part : List Char) {t u : List Char} (h : Blots mark t u) :
      Blots mark (part ++ t) (mark ++ u)

variable {pattern : Pattern} {mark before rest t u v : List Char}

theorem rewrites_replaceFrom (pattern : Pattern) (mark : List Char) {skip : Nat} {text : List Char}
    (hskip : skip ≤ text.length) (before : List Char) :
    Rewrites pattern mark ((text.take skip).reverse ++ before) (text.drop skip)
      (pattern.replaceFrom mark skip before text) := by
  induction text generalizing skip before with
  | nil =>
    obtain rfl := Nat.le_zero.1 hskip
    exact .nil _
  | cons c rest ih =>
    cases skip with
    | succ skip =>
      have h := ih (Nat.le_of_succ_le_succ hskip) (c :: before)
      rwa [List.append_cons, ← List.reverse_cons, ← List.take_succ_cons] at h
    | zero =>
      have hkeep := ih (Nat.zero_le _) (c :: before)
      rw [replaceFrom]
      split
      · next q hmatch =>
        obtain ⟨part, hpart, -⟩ := exists_reads_of_matchAt? hmatch
        dsimp only at hpart ⊢
        have hlength : (c :: rest).length - q.after.length = part.length := by
          rw [hpart, List.length_append, Nat.add_sub_cancel]
        rw [hlength]
        split
        · next hnil =>
          rw [List.length_eq_zero_iff.1 hnil, List.nil_append] at hpart
          refine .keep (fun q' hq' => ?_) hkeep
          obtain rfl := Option.some.inj (hmatch.symm.trans hq')
          exact hpart.symm
        · next hne =>
          obtain ⟨d, part, rfl⟩ := List.exists_cons_of_ne_nil (mt List.length_eq_zero_iff.2 hne)
          obtain ⟨rfl, htail⟩ := List.cons.inj hpart
          have hrest : rest = part ++ q.after := htail
          have hle : part.length ≤ rest.length := by
            rw [hrest, List.length_append]
            exact Nat.le_add_right _ _
          have h := ih hle (c :: before)
          rw [List.length_cons, Nat.add_sub_cancel, List.take_zero, List.reverse_nil,
            List.nil_append, List.drop_zero]
          have htake : rest.take part.length = part := by rw [hrest, List.take_left]
          have hdrop : rest.drop part.length = q.after := by rw [hrest, List.drop_left]
          rw [htake, hdrop] at h
          rw [hpart] at hmatch ⊢
          refine .replace (List.cons_ne_nil c part) hmatch rfl ?_
          rwa [List.reverse_cons, List.append_assoc]
      · next hnone =>
        exact .keep (fun q hq => nomatch hnone.symm.trans hq) hkeep

theorem rewrites_replaceIn (pattern : Pattern) (mark text : List Char) :
    Rewrites pattern mark [] text (pattern.replaceIn mark text) :=
  rewrites_replaceFrom pattern mark (Nat.zero_le _) []

/-- Where nothing matches nothing is replaced. -/
theorem Rewrites.eq_self (h : Rewrites pattern mark before t u)
    (hnone : ∀ part, part <:+ t → part ≠ [] → ∀ before, pattern.matchAt? ⟨before, part⟩ = none) :
    u = t := by
  induction h with
  | nil => rfl
  | keep _ _ ih => rw [ih fun part hpart => hnone part (hpart.trans (List.suffix_cons _ _))]
  | replace hpart hmatch =>
    rw [hnone _ (List.suffix_refl _) (by simp [hpart])] at hmatch
    cases hmatch

theorem exists_of_append_eq_append {part back t rest : List Char} (h : t ++ rest = part ++ back)
    (hle : rest.length ≤ back.length) : ∃ gap, t = part ++ gap ∧ back = gap ++ rest := by
  obtain ⟨gap, rfl, hback⟩ | ⟨gap, ht, hback⟩ := List.append_eq_append_iff.1 h
  · rw [hback, List.length_append] at hle
    obtain rfl : gap = [] := List.eq_nil_of_length_eq_zero (by omega)
    exact ⟨[], by simp, hback.symm⟩
  · exact ⟨gap, ht, hback⟩

/-- Where no match reaches from one text into the next one, and none starts there, the next one
stays as it is. -/
theorem Rewrites.exists_append (h : Rewrites pattern mark before (t ++ rest) u)
    (hstays : ∀ part, part <:+ t → part ≠ [] → ∀ before q,
      pattern.matchAt? ⟨before, part ++ rest⟩ = some q → rest.length ≤ q.after.length)
    (hnone : ∀ part, part <:+ rest → part ≠ [] → ∀ before,
      pattern.matchAt? ⟨before, part⟩ = none) :
    ∃ v, u = v ++ rest ∧ Blots mark t v := by
  generalize htext : t ++ rest = text at h
  induction h generalizing t with
  | nil =>
    obtain ⟨rfl, rfl⟩ := List.append_eq_nil_iff.1 htext
    exact ⟨[], rfl, .nil⟩
  | keep hmatch h ih =>
    cases t with
    | nil =>
      obtain rfl : rest = _ := htext
      exact ⟨[], (Rewrites.keep hmatch h).eq_self hnone, .nil⟩
    | cons c t =>
      obtain ⟨rfl, htail⟩ := List.cons.inj htext
      obtain ⟨v, rfl, hblots⟩ :=
        ih (fun part hpart => hstays part (hpart.trans (List.suffix_cons _ _))) htail
      exact ⟨c :: v, rfl, .keep c hblots⟩
  | replace hpart hmatch hq h ih =>
    by_cases ht : t = []
    · obtain rfl := ht
      obtain rfl : rest = _ := htext
      exact ⟨[], (Rewrites.replace hpart hmatch hq h).eq_self hnone, .nil⟩
    · have hle := hstays t (List.suffix_refl t) ht _ _ (htext ▸ hmatch)
      obtain ⟨gap, rfl, hback⟩ := exists_of_append_eq_append htext (hq ▸ hle)
      obtain ⟨v, rfl, hblots⟩ := ih
        (fun part hpart => hstays part (hpart.trans (List.suffix_append _ _))) hback.symm
      exact ⟨mark ++ v, (List.append_assoc _ _ _).symm, .blot _ hblots⟩

/-- Where a match that reaches from one text into the next one goes on to its end, and so does one
that starts with it, the next one is replaced, perhaps with the end of the first one. -/
theorem Rewrites.exists_append_mark (h : Rewrites pattern mark before (t ++ rest) u)
    (hrest : rest ≠ [])
    (hthrough : ∀ part, part <:+ t → part ≠ [] → ∀ before q,
      pattern.matchAt? ⟨before, part ++ rest⟩ = some q →
        rest.length ≤ q.after.length ∨ q.after = [])
    (hmatches : ∀ before, ∃ q, pattern.matchAt? ⟨before, rest⟩ = some q ∧ q.after = []) :
    ∃ part v, part <+: t ∧ Blots mark part v ∧ u = v ++ mark := by
  generalize htext : t ++ rest = text at h
  have hend {before u : List Char} (h : Rewrites pattern mark before [] u) :
      mark ++ u = [] ++ mark := by
    rw [h.eq_self fun part hpart hne => absurd (List.suffix_nil.1 hpart) hne, List.append_nil,
      List.nil_append]
  induction h generalizing t with
  | nil => exact absurd (List.append_eq_nil_iff.1 htext).2 hrest
  | @keep before _ _ _ hmatch h ih =>
    cases t with
    | nil =>
      obtain rfl : rest = _ := htext
      obtain ⟨q, hq, hafter⟩ := hmatches before
      exact absurd ((hmatch q hq).symm.trans hafter) (List.cons_ne_nil _ _)
    | cons c t =>
      obtain ⟨rfl, htail⟩ := List.cons.inj htext
      obtain ⟨part, v, hprefix, hblots, rfl⟩ :=
        ih (fun part hpart => hthrough part (hpart.trans (List.suffix_cons _ _))) htail
      exact ⟨c :: part, c :: v, List.prefix_cons_inj c |>.2 hprefix, .keep c hblots, rfl⟩
  | @replace before first back _ _ hpart hmatch hq h ih =>
    by_cases ht : t = []
    · obtain rfl := ht
      obtain rfl : rest = _ := htext
      obtain ⟨q', hq', hafter⟩ := hmatches before
      obtain rfl := Option.some.inj (hmatch.symm.trans hq')
      rw [← hq, hafter] at h
      exact ⟨[], [], List.prefix_rfl, .nil, hend h⟩
    · rcases hthrough t (List.suffix_refl t) ht _ _ (htext ▸ hmatch) with hle | hafter
      · obtain ⟨gap, rfl, hback⟩ := exists_of_append_eq_append htext (hq ▸ hle)
        obtain ⟨part, v, hprefix, hblots, rfl⟩ := ih
          (fun part hpart => hthrough part (hpart.trans (List.suffix_append _ _))) hback.symm
        exact ⟨first ++ part, mark ++ v, (List.prefix_append_right_inj first).2 hprefix,
          .blot first hblots, (List.append_assoc _ _ _).symm⟩
      · rw [← hq, hafter] at h
        exact ⟨[], [], List.nil_prefix, .nil, hend h⟩

/-! ## Texts with parts replaced -/

/-- A match is replaced where it is found. -/
theorem Rewrites.blots (h : Rewrites pattern mark before t u) : Blots mark t u := by
  induction h with
  | nil => exact .nil
  | keep _ _ ih => exact .keep _ ih
  | replace _ _ _ _ ih => exact .blot _ ih

theorem Blots.refl (mark t : List Char) : Blots mark t t := by
  induction t with
  | nil => exact .nil
  | cons c t ih => exact .keep c ih

theorem Blots.append {t' u' : List Char} (h : Blots mark t u) (h' : Blots mark t' u') :
    Blots mark (t ++ t') (u ++ u') := by
  induction h with
  | nil => exact h'
  | keep c _ ih => exact .keep c ih
  | blot part _ ih =>
    rw [List.append_assoc, List.append_assoc]
    exact .blot part ih

/-- Parts are replaced in what is written for the characters one by one. -/
theorem Blots.flatMap (f : Char → List Char) (h : Blots mark t u) :
    Blots (mark.flatMap f) (t.flatMap f) (u.flatMap f) := by
  induction h with
  | nil => exact .nil
  | keep c _ ih => exact (Blots.refl _ (f c)).append ih
  | blot part _ ih =>
    rw [List.flatMap_append, List.flatMap_append]
    exact .blot _ ih

theorem Blots.eq_nil (hmark : mark ≠ []) (h : Blots mark t []) : t = [] := by
  generalize hu : ([] : List Char) = u at h
  cases h with
  | nil => rfl
  | keep => cases hu
  | blot => exact absurd (List.append_eq_nil_iff.1 hu.symm).1 hmark

/-- A mark that would have to end in a text does not reach into it. -/
theorem Blots.exists_of_append {inner : List Char} {close : Char}
    (h : Blots (inner ++ [close]) t (u ++ rest)) (hclose : close ∉ rest) :
    ∃ v, t = v ++ rest ∧ Blots (inner ++ [close]) v u := by
  generalize htext : u ++ rest = text at h
  induction h generalizing u rest with
  | nil =>
    obtain ⟨rfl, rfl⟩ := List.append_eq_nil_iff.1 htext
    exact ⟨[], rfl, .nil⟩
  | @keep c t text h ih =>
    cases u with
    | nil =>
      obtain rfl : rest = c :: text := htext
      obtain ⟨v, rfl, hv⟩ := ih (u := []) (mt (List.mem_cons_of_mem c) hclose) rfl
      obtain rfl := hv.eq_nil (by simp)
      exact ⟨[], rfl, .nil⟩
    | cons d u =>
      obtain ⟨rfl, htail⟩ := List.cons.inj htext
      obtain ⟨v, rfl, hv⟩ := ih hclose htail
      exact ⟨d :: v, rfl, .keep d hv⟩
  | @blot part t text h ih =>
    obtain ⟨gap, hmark, rfl⟩ | ⟨gap, rfl, hrest⟩ := List.append_eq_append_iff.1 htext
    · cases gap using List.reverseRecOn with
      | nil =>
        obtain ⟨v, rfl, hv⟩ := ih (u := []) hclose rfl
        rw [List.append_nil] at hmark
        exact ⟨part ++ v, (List.append_assoc _ _ _).symm, by
          simpa [hmark] using Blots.blot part hv⟩
      | append_singleton gap c =>
        rw [← List.append_assoc] at hmark
        obtain ⟨-, hlast⟩ := List.append_inj' hmark rfl
        exact absurd (by simp [List.cons.inj hlast]) hclose
    · obtain ⟨v, rfl, hv⟩ := ih hclose hrest.symm
      exact ⟨part ++ v, (List.append_assoc _ _ _).symm, .blot part hv⟩

/-- What starts a text without a mark in it starts the text in which nothing is replaced yet. -/
theorem Blots.prefix_of_not_mem {inner : List Char} {first : Char}
    (h : Blots (first :: inner) t (v ++ rest)) (hfirst : first ∉ v) : v <+: t := by
  generalize htext : v ++ rest = text at h
  induction h generalizing v with
  | nil =>
    obtain rfl := (List.append_eq_nil_iff.1 htext).1
    exact List.nil_prefix
  | keep c _ ih =>
    cases v with
    | nil => exact List.nil_prefix
    | cons d v =>
      obtain ⟨rfl, htail⟩ := List.cons.inj htext
      exact (List.prefix_cons_inj d).2 (ih (mt (List.mem_cons_of_mem d) hfirst) htail)
  | blot part h ih =>
    cases v with
    | nil => exact List.nil_prefix
    | cons d v =>
      obtain ⟨rfl, -⟩ := List.cons.inj htext
      exact absurd List.mem_cons_self hfirst

/-- What lacks the first and the last character of the mark stands in a text with parts replaced
only where it stood before, or inside the mark. -/
theorem Blots.occursIn {inner w : List Char} {first close : Char} (hw : w ≠ [])
    (hfirst : first ∉ w) (hclose : close ∉ w) (h : Blots (first :: (inner ++ [close])) t u)
    (hoccurs : Text.occursIn w u = true) :
    Text.occursIn w t = true ∨ Text.occursIn w inner = true := by
  have hempty : ¬ Text.occursIn w [] = true := fun h => by
    obtain ⟨front, back, heq⟩ := Text.occursIn_iff.1 h
    simp [hw] at heq
  induction h with
  | nil => exact absurd hoccurs hempty
  | @keep c t u h ih =>
    obtain ⟨front, back, heq⟩ := Text.occursIn_iff.1 hoccurs
    cases front with
    | nil =>
      have hkeep : Blots (first :: (inner ++ [close])) (c :: t) (w ++ back) := heq ▸ .keep c h
      obtain ⟨rest, hrest⟩ := hkeep.prefix_of_not_mem hfirst
      exact .inl (Text.occursIn_iff.2 ⟨[], rest, hrest.symm⟩)
    | cons d front =>
      obtain ⟨rfl, rfl⟩ := List.cons.inj heq
      refine (ih (Text.occursIn_append front w back)).imp_left fun hin => ?_
      obtain ⟨front', back', rfl⟩ := Text.occursIn_iff.1 hin
      exact Text.occursIn_append (c :: front') w back'
  | @blot part t u h ih =>
    have hsplit : first :: (inner ++ [close]) ++ u = [] ++ first :: (inner ++ close :: u) := by simp
    rw [hsplit] at hoccurs
    rcases Text.occursIn_append_cons hfirst hw hoccurs with hnil | hback
    · exact absurd hnil hempty
    · rcases Text.occursIn_append_cons hclose hw hback with hinner | hu
      · exact .inr hinner
      · refine (ih hu).imp_left fun hin => ?_
        obtain ⟨front, back, rfl⟩ := Text.occursIn_iff.1 hin
        rw [← List.append_assoc]
        exact Text.occursIn_append (part ++ front) w back

end RecipeRunner.Pattern
