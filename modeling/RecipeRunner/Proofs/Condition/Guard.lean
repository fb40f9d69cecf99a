import RecipeRunner.Proofs.Condition.Evaluation
import RecipeRunner.Proofs.Template.Joining
import RecipeRunner.Recipe.Expansion
import Mathlib.Data.Bool.AllAny
/-!
# Guards

The condition of a reference is pasted in front of those of its operations.  A guard is read apart
from what it guards, because parentheses and the operator stand between them.  But what has no
template itself is rendered all the same once a template stands behind it, and each evaluation draws
random numbers of its own.

* `Sound`: conditions whose templates give texts in which parentheses balance, whatever is drawn.
* `Guards`: conditions with a verdict that is the same whether they are rendered or not, and
  whatever is drawn.
* `Guards.conjoin`: the verdict of a guard that does not hold is that of all that it guards.
* `Guards.evaluate_conjoin_ne_true`: behind such a guard no condition holds, sound or not.
-/

namespace RecipeRunner.Condition

open Template (hasTemplate render renderRaw noValue Bindings IsFirm)
open Text (trim trimmed Tight Meet)

/-- What a condition is read as: the text that its templates give, or itself if it has none. -/
structure ReadsAs (b : Bindings) (condition text : String) : Prop where
  rendered : hasTemplate (trimmed condition) = true → render b (trimmed condition) = .ok text
  literal : hasTemplate (trimmed condition) = false → text = trimmed condition

/-- Whatever is drawn, a condition is read as a text that closes every group which it opens, and no
other. -/
def Sound (b : Bindings) (condition : String) : Prop :=
  ∀ c, ∃ text, ReadsAs (b.drawing c) condition text ∧ Balanced text.toList

theorem trimmed_trimmed (s : String) : trimmed (trimmed s) = trimmed s := by
  rw [trimmed, trimmed, String.toList_ofList, Text.trim_trim]

theorem evaluate_of_isEmpty (s : Scope) {condition : String}
    (h : (trimmed condition).isEmpty = true) : evaluate s condition = .ok true := by
  simp [evaluate, h]

/-! ## Conjunctions -/

/-- Two texts as the two sides of a conjunction. -/
def conjunction (outer inner : String) : String :=
  "(" ++ outer ++ ") && (" ++ inner ++ ")"

theorem isFirm_open : IsFirm '(' := ⟨by decide, by decide⟩

theorem isFirm_close : IsFirm ')' := ⟨by decide, by decide⟩

/-- The two sides of a conjunction draw random numbers of their own. -/
theorem exists_renderRaw_conjunction (b : Bindings) (outer inner : String) :
    ∃ c, ∀ text, renderRaw (b.drawing c) outer = .ok text →
      ∃ c', (renderRaw b (conjunction outer inner)).toOption =
        (renderRaw (b.drawing c') (inner ++ ")")).toOption.map ("(" ++ text ++ ") && (" ++ ·) := by
  have hassoc : conjunction outer inner = "(" ++ (outer ++ (") && (" ++ (inner ++ ")"))) := by
    simp only [conjunction, String.append_assoc]
  obtain ⟨c, hopen⟩ := Template.exists_renderRaw_append_of_getLast? b (s := "(")
    (outer ++ (") && (" ++ (inner ++ ")"))) (by decide) rfl isFirm_open
  refine ⟨c, fun text htext => ?_⟩
  obtain ⟨c₁, hmiddle⟩ := @Template.exists_renderRaw_append_of_head? (b.drawing c) outer
    (") && (" ++ (inner ++ ")")) text _ htext (by rw [String.toList_append]; rfl) isFirm_close
  obtain ⟨c₂, hinner⟩ := Template.exists_renderRaw_append_of_getLast? ((b.drawing c).drawing c₁)
    (s := ") && (") (inner ++ ")") (by decide) rfl isFirm_open
  refine ⟨c₂, ?_⟩
  rw [hassoc, hopen, hmiddle, hinner]
  simp only [Option.map_map]
  congr 1
  funext t
  simp only [Function.comp, String.append_assoc]

/-- Markers for absent data are replaced on both sides of a conjunction alone. -/
theorem replaced_conjunction (outer rest : String) :
    Text.replaced noValue "false" ("(" ++ outer ++ ") && (" ++ rest) =
      "(" ++ Text.replaced noValue "false" outer ++ ") && (" ++
        Text.replaced noValue "false" rest := by
  have hcons : ∀ {c : Char}, c ∉ noValue.toList → ∀ text rest : List Char,
      Text.replaceAll noValue.toList "false".toList (text ++ c :: rest) =
        Text.replaceAll noValue.toList "false".toList text ++
          c :: Text.replaceAll noValue.toList "false".toList rest :=
    fun hc text rest => Text.replaceAll_append_cons hc (by decide) _ text rest
  have htext : ("(" ++ outer ++ ") && (" ++ rest).toList =
      [] ++ '(' :: (outer.toList ++ ')' :: ([' '] ++ '&' :: ([] ++ '&' ::
        ([' '] ++ '(' :: rest.toList)))) := by
    simp [String.toList_append]
  have hnil : Text.replaceAll noValue.toList "false".toList [] = [] := rfl
  have hblank : Text.replaceAll noValue.toList "false".toList [' '] = [' '] := by decide
  rw [Text.replaced, htext, hcons (by decide), hcons (by decide), hcons (by decide),
    hcons (by decide), hcons (by decide), hnil, hblank]
  apply String.toList_injective
  simp [Text.replaced, String.toList_append]

theorem exists_renderRaw {b : Bindings} {template text : String}
    (h : render b template = .ok text) :
    ∃ raw, renderRaw b template = .ok raw ∧ Text.replaced noValue "false" raw = text := by
  rw [render] at h
  cases hraw : renderRaw b template with
  | error e =>
    rw [hraw] at h
    cases h
  | ok raw =>
    rw [hraw] at h
    exact ⟨raw, rfl, Except.ok.inj h⟩

/-- Both sides of a conjunction are rendered as if they stood alone. -/
theorem exists_render_conjunction {b : Bindings} {outer inner : String}
    (h : ∀ c, ∃ text, render (b.drawing c) outer = .ok text)
    (h' : ∀ c, ∃ text, render (b.drawing c) inner = .ok text) :
    ∃ c c' text text', render (b.drawing c) outer = .ok text ∧
      render (b.drawing c') inner = .ok text' ∧
      render b (conjunction outer inner) = .ok (conjunction text text') := by
  obtain ⟨c, hfirst⟩ := exists_renderRaw_conjunction b outer inner
  obtain ⟨text, htext⟩ := h c
  obtain ⟨raw, hraw, rfl⟩ := exists_renderRaw htext
  obtain ⟨c', hsecond⟩ := hfirst raw hraw
  obtain ⟨text', htext'⟩ := h' c'
  obtain ⟨raw', hraw', rfl⟩ := exists_renderRaw htext'
  refine ⟨c, c', _, _, htext, htext', ?_⟩
  have hwhole : renderRaw b (conjunction outer inner) = .ok (conjunction raw raw') := by
    obtain ⟨c₁, hlast⟩ := @Template.exists_renderRaw_append_of_head? _ _ ")" _ _ hraw' rfl
      isFirm_close
    rw [← toOption_eq_some_iff, hsecond, hlast,
      Template.renderRaw_of_not_hasTemplate _ (by decide)]
    exact congrArg some (by simp only [conjunction, String.append_assoc])
  have hreplaced : Text.replaced noValue "false" (raw' ++ ")") =
      Text.replaced noValue "false" raw' ++ ")" := by
    have htext : (raw' ++ ")").toList = raw'.toList ++ ')' :: [] := String.toList_append
    have hnil : Text.replaceAll noValue.toList "false".toList [] = [] := rfl
    rw [Text.replaced, htext, Text.replaceAll_append_cons (by decide) (by decide), hnil]
    apply String.toList_injective
    simp [Text.replaced, String.toList_append]
  rw [render, hwhole]
  refine congrArg Except.ok ?_
  rw [conjunction, String.append_assoc, replaced_conjunction, hreplaced, conjunction]
  simp only [String.append_assoc]

/-- Whatever the right side of a conjunction gives, the left side gives what it gives alone. -/
theorem exists_of_render_conjunction {b : Bindings} {outer inner whole : String}
    (h : ∀ c, ∃ text, render (b.drawing c) outer = .ok text)
    (hwhole : render b (conjunction outer inner) = .ok whole) :
    ∃ c text rest, render (b.drawing c) outer = .ok text ∧
      whole = "(" ++ text ++ ") && (" ++ rest := by
  obtain ⟨c, hfirst⟩ := exists_renderRaw_conjunction b outer inner
  obtain ⟨text, htext⟩ := h c
  obtain ⟨raw, hraw, rfl⟩ := exists_renderRaw htext
  obtain ⟨c', hsecond⟩ := hfirst raw hraw
  obtain ⟨rawWhole, hrawWhole, rfl⟩ := exists_renderRaw hwhole
  rw [hrawWhole] at hsecond
  obtain ⟨rest, -, rfl⟩ := Option.map_eq_some_iff.1 hsecond.symm
  exact ⟨c, _, _, htext, replaced_conjunction raw rest⟩

theorem not_hasTemplate_of_append {before text after : String}
    (h : hasTemplate (before ++ text ++ after) = false) : hasTemplate text = false := by
  rw [Bool.eq_false_iff] at h ⊢
  intro htext
  obtain ⟨⟨front, rest⟩, hcut⟩ := Option.isSome_iff_exists.1 htext
  apply h
  rw [hasTemplate, String.toList_append, String.toList_append, Text.eq_append_of_cutAt? hcut]
  have := Text.occursIn_append (before.toList ++ front) Template.opening (rest ++ after.toList)
  simpa using this

theorem not_hasTemplate_conjunction {outer inner : String}
    (h : hasTemplate (conjunction outer inner) = false) :
    hasTemplate outer = false ∧ hasTemplate inner = false := by
  have hright : conjunction outer inner = "(" ++ outer ++ (") && (" ++ (inner ++ ")")) := by
    simp only [conjunction, String.append_assoc]
  refine ⟨?_, not_hasTemplate_of_append h⟩
  rw [hright] at h
  exact not_hasTemplate_of_append h

theorem hasTemplate_of_conjunction {outer inner : String}
    (h : hasTemplate (conjunction outer inner) = true) :
    hasTemplate outer = true ∨ hasTemplate inner = true := by
  have hcut : ∀ {c : Char} {front back : List Char}, c ∉ Template.opening →
      Text.occursIn Template.opening (front ++ c :: back) = true →
      Text.occursIn Template.opening front = true ∨ Text.occursIn Template.opening back = true :=
    fun hc h => Text.occursIn_append_cons hc (by decide) h
  have htext : (conjunction outer inner).toList = [] ++ '(' :: (outer.toList ++ ')' ::
      ([' ', '&', '&', ' '] ++ '(' :: (inner.toList ++ ')' :: []))) := by
    simp [conjunction, String.toList_append]
  rw [hasTemplate, htext] at h
  rcases hcut (by decide) h with h | h
  · cases h
  rcases hcut (by decide) h with h | h
  · exact .inl h
  rcases hcut (by decide) h with h | h
  · cases h
  rcases hcut (by decide) h with h | h
  · exact .inr h
  · cases h

/-! ## Evaluation of conjunctions -/

theorem toList_conjunction (outer inner : String) :
    (conjunction outer inner).toList =
      group outer.toList ++ ([' '] ++ ['&', '&'] ++ [' '] ++ group inner.toList) := by
  simp [conjunction, String.toList_append, group]

theorem operand_group {cs : List Char} (h : Balanced cs) : Operand '&' (group cs) where
  balanced := h.group
  notMem := by simp [outside_group h]
  tight := tight_group cs

theorem tight_conjunction (outer inner : String) : Tight (conjunction outer inner).toList := by
  rw [toList_conjunction]
  refine Text.tight_append (by simp [group]) (by simp) (tight_group _).1 ?_
  intro c hc
  rw [List.getLast?_append_of_ne_nil _ (by simp [group])] at hc
  exact (tight_group _).2 c hc

/-- A conjunction of balanced conditions is evaluated side by side. -/
theorem eval_conjunction (s : Scope) {outer inner : String} (h : Balanced outer.toList)
    (h' : Balanced inner.toList) :
    eval s (conjunction outer inner).toList =
      allHold (eval s) [outer.toList, inner.toList] := by
  have hcore : core (conjunction outer inner).toList = (conjunction outer inner).toList := by
    refine core_eq_self (tight_conjunction outer inner) ?_
    rw [toList_conjunction]
    exact isGroup_append h.group (by simp [group]) (by simp)
  have hjoin : (conjunction outer inner).toList =
      Text.joinWith ([' '] ++ ['&', '&'] ++ [' ']) [group outer.toList, group inner.toList] := by
    rw [toList_conjunction]
    simp [Text.joinWith]
  obtain ⟨parts, hsplit, hparts⟩ := @split_joinWith '&' ['&'] (by decide) (by decide) (by decide)
    (group outer.toList) (group inner.toList) []
    (by simpa using ⟨operand_group h, operand_group h'⟩)
  rw [hjoin] at hcore ⊢
  rw [eval_of_and s hcore hsplit, hparts]
  simp only [allHold, eval_group s h, eval_group s h']

theorem core_of_guard {guard : List Char} (h : Balanced guard) (rest : List Char) :
    core (group guard ++ [' '] ++ (['&', '&'] ++ ([' ', '('] ++ rest))) =
      group guard ++ [' '] ++ (['&', '&'] ++ ([' ', '('] ++ Text.trimEnd rest)) := by
  have hstart : Text.trimStart (group guard ++ [' '] ++ (['&', '&'] ++ ([' ', '('] ++ rest))) =
      group guard ++ [' '] ++ (['&', '&'] ++ ([' ', '('] ++ rest)) :=
    Text.dropWhile_eq_self_of_head? (by simp [group]; decide)
  have hmeet : Meet (group guard ++ [' '] ++ (['&', '&'] ++ [' ', '('])) rest :=
    .inl ⟨'(', by simp, by decide⟩
  have htrim : trim (group guard ++ [' '] ++ (['&', '&'] ++ ([' ', '('] ++ rest))) =
      group guard ++ [' '] ++ (['&', '&'] ++ ([' ', '('] ++ Text.trimEnd rest)) := by
    rw [trim, hstart]
    simpa using Text.trimEnd_append hmeet
  have hfront : Balanced (group guard ++ [' ']) :=
    h.group.append (balanced_of_plain (by decide) (by decide))
  rw [core, htrim, ungroup_of_not_isGroup (isGroup_append hfront (by simp [group]) (by simp))]

theorem partsFrom_of_guard {guard : List Char} (h : Balanced guard) (rest : List Char) :
    partsFrom ['&', '&'] 0 0 (group guard ++ [' '] ++ (['&', '&'] ++ rest)) =
      (partsFrom ['&', '&'] 0 0 rest).map ((group guard ++ [' ']) :: ·) := by
  have hfront : Balanced (group guard ++ [' ']) :=
    h.group.append (balanced_of_plain (by decide) (by decide))
  have hoperator : '&' ∉ outside 0 (group guard ++ [' ']) := by
    rw [outside_append h.group, outside_group h]
    decide
  rw [partsFrom_append hfront hoperator, partsFrom_operator (by decide) (by decide),
    Option.map_map]
  congr 1
  funext parts
  simp [prependFirst_cons]

/-- A conjunction does not hold if its balanced left side does not, whatever stands behind. -/
theorem eval_ne_true_of_guard (s : Scope) {guard : List Char} (h : Balanced guard)
    (hguard : eval s guard ≠ .ok true) (rest : List Char) :
    eval s (group guard ++ [' '] ++ (['&', '&'] ++ ([' ', '('] ++ rest))) ≠ .ok true := by
  have hfirst : eval s (group guard ++ [' ']) = eval s guard := by
    rw [← eval_trim, ← eval_group s h]
    congr 1
    exact Text.trim_between [] [' '] (by simp) (tight_group guard)
      (List.forall_mem_singleton.2 rfl)
  rw [eval_eq, core_of_guard h, split, if_pos (Text.occursIn_append _ _ _), partsFrom_of_guard h]
  cases hrest : partsFrom ['&', '&'] 0 0 ([' ', '('] ++ Text.trimEnd rest) with
  | none => simp
  | some parts =>
    obtain ⟨second, more, rfl⟩ := List.exists_cons_of_ne_nil (partsFrom_ne_nil hrest)
    simp only [Option.map_some, allHold, hfirst]
    split
    · simp
    · next htrue => exact absurd htrue hguard
    · simp

/-! ## Guards of conditions -/

theorem conjoin_of_isEmpty_left {outer : String} (h : (trimmed outer).isEmpty = true)
    (inner : String) : conjoin outer inner = trimmed inner := by
  simp [conjoin, h]

theorem conjoin_of_isEmpty_right {outer inner : String} (h : (trimmed outer).isEmpty = false)
    (h' : (trimmed inner).isEmpty = true) : conjoin outer inner = trimmed outer := by
  simp [conjoin, h, h']

theorem conjoin_eq_conjunction {outer inner : String} (h : (trimmed outer).isEmpty = false)
    (h' : (trimmed inner).isEmpty = false) :
    conjoin outer inner = conjunction (trimmed outer) (trimmed inner) := by
  simp [conjoin, conjunction, h, h']

theorem trimmed_conjunction (outer inner : String) :
    trimmed (conjunction outer inner) = conjunction outer inner := by
  rw [trimmed, Text.trim_of_tight (tight_conjunction outer inner), String.ofList_toList]

theorem evaluate_trimmed (s : Scope) (condition : String) :
    evaluate s (trimmed condition) = evaluate s condition := by
  unfold evaluate
  rw [trimmed_trimmed]

theorem Balanced.conjunction {outer inner : String} (h : Balanced outer.toList)
    (h' : Balanced inner.toList) : Balanced (Condition.conjunction outer inner).toList := by
  rw [toList_conjunction]
  exact h.group.append ((balanced_of_plain (by decide) (by decide)).append h'.group)

theorem eval_nil (s : Scope) : eval s [] = .error (fault .unrecognised []) := by
  have hcore : core [] = [] := by rw [core, ungroup_of_not_isGroup] <;> rfl
  rw [eval_of_atom s hcore rfl rfl rfl]
  rfl

/-- A text that is blank is no condition. -/
theorem eval_ne_ok_of_isEmpty (s : Scope) {text : String} (h : (trimmed text).isEmpty = true)
    (holds : Bool) : eval s text.toList ≠ .ok holds := by
  have hnil : trim text.toList = [] := by simpa [trimmed] using h
  rw [← eval_trim, hnil, eval_nil]
  simp

/-! ## Verdicts -/

/-- Markers for absent data are no parentheses. -/
theorem Nested.replaced {d e : Nat} {cs : List Char} (h : Nested d cs e) :
    Nested d (Text.replaceAll noValue.toList "false".toList cs) e := by
  induction hlength : cs.length using Nat.strong_induction_on generalizing d cs with
  | h n ih =>
    cases hcut : Text.cutAt? noValue.toList cs with
    | none => rwa [Text.replaceAll_of_none (by decide) hcut]
    | some found =>
      obtain ⟨before, after⟩ := found
      obtain rfl := Text.eq_append_of_cutAt? hcut
      obtain ⟨f, hfront, hafter⟩ := h.of_append
      obtain ⟨f', hbefore, hmark⟩ := hfront.of_append
      obtain rfl := hmark.eq_of_plain (by decide) (by decide)
      have hword : Nested f "false".toList f := by
        simpa using (balanced_of_plain (by decide) (by decide)).nested f
      rw [Text.replaceAll_of_some (by decide) hcut]
      refine (hbefore.append hword).append (ih after.length ?_ hafter rfl)
      simp [← hlength, noValue]
      omega

/-- A sound condition is rendered as a balanced text, also if it is no template itself. -/
theorem Sound.exists_render {b : Bindings} {condition : String} (h : Sound b condition)
    (c : Chance) : ∃ text, render (b.drawing c) (trimmed condition) = .ok text ∧
      Balanced text.toList := by
  obtain ⟨text, hreads, hbalanced⟩ := h c
  cases htemplate : hasTemplate (trimmed condition) with
  | true => exact ⟨text, hreads.rendered htemplate, hbalanced⟩
  | false =>
    obtain rfl := hreads.literal htemplate
    refine ⟨Text.replaced noValue "false" (trimmed condition), ?_, ?_⟩
    · rw [render, Template.renderRaw_of_not_hasTemplate _ htemplate]
      rfl
    · rw [Text.replaced, String.toList_ofList]
      exact Nested.replaced hbalanced

theorem Sound.balanced_of_plain {b : Bindings} {condition : String} (h : Sound b condition)
    (hplain : hasTemplate (trimmed condition) = false) :
    Balanced (trimmed condition).toList := by
  obtain ⟨text, hreads, hbalanced⟩ := h b.chance
  rwa [hreads.literal hplain] at hbalanced

/-- A balanced text on which a verdict is passed. -/
structure Judged (s : Scope) (verdict : Except Error Bool → Prop) (cs : List Char) : Prop where
  balanced : Balanced cs
  verdict : verdict (eval s cs)

/-- A condition on which a verdict is passed as it is read, whatever is drawn.  If there are
`templates` among the conditions that stand together it may be rendered, though it is none itself,
and so the verdict is passed on what rendering it gives as well. -/
structure Guards (s : Scope) (templates : Prop) (verdict : Except Error Bool → Prop)
    (condition : String) : Prop where
  nonempty : (trimmed condition).isEmpty = false
  allowed : hasTemplate (trimmed condition) = true → templates
  literal : hasTemplate (trimmed condition) = false →
    Judged s verdict (trimmed condition).toList
  rendered : templates → ∀ c, ∃ text,
    render (s.bindings.drawing c) (trimmed condition) = .ok text ∧ Judged s verdict text.toList

section

variable {s : Scope} {templates : Prop} {verdict : Except Error Bool → Prop} {outer inner : String}

/-- What is false or fails on the left side is that on the whole. -/
theorem Judged.conjunction (hverdict : ¬ verdict (.ok true)) {text text' : String}
    (h : Judged s verdict text.toList) (h' : Balanced text'.toList) :
    Judged s verdict (Condition.conjunction text text').toList := by
  refine ⟨h.balanced.conjunction h', ?_⟩
  have hleft := h.verdict
  rw [eval_conjunction s h.balanced h', allHold]
  cases hout : eval s text.toList with
  | error e => rwa [hout] at hleft
  | ok on =>
    rw [hout] at hleft
    cases on with
    | false => exact hleft
    | true => exact absurd hleft hverdict

theorem Guards.trimmed (h : Guards s templates verdict outer) :
    Guards s templates verdict (trimmed outer) := by
  constructor <;> rw [trimmed_trimmed]
  · exact h.nonempty
  · exact h.allowed
  · exact h.literal
  · exact h.rendered

/-- The verdict of a guard is that of a sound condition which it guards. -/
theorem Guards.conjoin (hverdict : ¬ verdict (.ok true)) (h : Guards s templates verdict outer)
    (h' : Sound s.bindings inner) (hinner : hasTemplate (Text.trimmed inner) = true → templates) :
    Guards s templates verdict (Condition.conjoin outer inner) := by
  cases hempty : (Text.trimmed inner).isEmpty with
  | true =>
    rw [conjoin_of_isEmpty_right h.nonempty hempty]
    exact h.trimmed
  | false =>
    rw [conjoin_eq_conjunction h.nonempty hempty]
    constructor
    · rw [trimmed_conjunction]
      simp [Condition.conjunction]
    · rw [trimmed_conjunction]
      exact fun hwhole => (hasTemplate_of_conjunction hwhole).elim h.allowed hinner
    · rw [trimmed_conjunction]
      intro hplain
      obtain ⟨hout, hin⟩ := not_hasTemplate_conjunction hplain
      exact (h.literal hout).conjunction hverdict (h'.balanced_of_plain hin)
    · rw [trimmed_conjunction]
      intro htemplates c
      obtain ⟨c₁, c₂, text, text', hout, hin, hwhole⟩ :=
        @exists_render_conjunction (s.bindings.drawing c) _ _
          (fun c => (h.rendered htemplates c).imp fun _ h => h.1)
          (fun c => (h'.exists_render c).imp fun _ h => h.1)
      obtain ⟨_, hout', hjudged⟩ := h.rendered htemplates c₁
      obtain ⟨_, hin', hbalanced⟩ := h'.exists_render c₂
      obtain rfl := Except.ok.inj (hout.symm.trans hout')
      obtain rfl := Except.ok.inj (hin.symm.trans hin')
      exact ⟨_, hwhole, hjudged.conjunction hverdict hbalanced⟩

theorem eval_trimmed (s : Scope) (text : String) :
    eval s (Text.trimmed text).toList = eval s text.toList := by
  rw [Text.trimmed, String.toList_ofList, eval_trim]

/-- A guard is evaluated to its verdict, or to false if its templates give nothing. -/
theorem Guards.evaluate (h : Guards s templates verdict outer) (c : Chance) :
    Condition.evaluate (s.drawing c) outer = .ok false ∨
      verdict (Condition.evaluate (s.drawing c) outer) := by
  unfold Condition.evaluate
  simp only [h.nonempty, Bool.false_eq_true, if_false]
  split
  · next htemplate =>
    obtain ⟨text, htext, hjudged⟩ := h.rendered (h.allowed htemplate) c
    have hrender : render (s.drawing c).bindings (Text.trimmed outer) = .ok text := htext
    rw [hrender]
    dsimp only
    split
    · exact .inl rfl
    · rw [eval_trimmed, eval_drawing]
      exact .inr hjudged.verdict
  · next hplain =>
    rw [eval_drawing]
    exact .inr (h.literal (Bool.not_eq_true _ ▸ hplain)).verdict

/-- A condition does not hold behind a guard that does not, whatever it is. -/
theorem Guards.evaluate_conjoin_ne_true (h : Guards s templates (· ≠ .ok true) outer)
    (hinner : hasTemplate (Text.trimmed inner) = true → templates) (c : Chance) :
    Condition.evaluate (s.drawing c) (Condition.conjoin outer inner) ≠ .ok true := by
  have hguard : ∀ text rest : String, Judged s (· ≠ .ok true) text.toList →
      eval s ("(" ++ text ++ ") && (" ++ rest).toList ≠ .ok true := by
    intro text rest hjudged
    have := eval_ne_true_of_guard s hjudged.balanced hjudged.verdict rest.toList
    simpa [String.toList_append, group] using this
  cases hempty : (Text.trimmed inner).isEmpty with
  | true =>
    rw [conjoin_of_isEmpty_right h.nonempty hempty, evaluate_trimmed]
    rcases h.evaluate c with hfalse | hne
    · simp [hfalse]
    · exact hne
  | false =>
    rw [conjoin_eq_conjunction h.nonempty hempty, Condition.evaluate, trimmed_conjunction]
    split
    · next hnothing => simp [Condition.conjunction] at hnothing
    · split
      · next hwhole =>
        have htemplates : templates := (hasTemplate_of_conjunction hwhole).elim h.allowed hinner
        split
        · simp
        · next whole hrender =>
          obtain ⟨c₁, text, rest, hout, rfl⟩ := exists_of_render_conjunction
            (fun c => (h.rendered htemplates c).imp fun _ h => h.1) hrender
          obtain ⟨_, hout', hjudged⟩ := h.rendered htemplates c₁
          obtain rfl := Except.ok.inj (hout.symm.trans hout')
          dsimp only
          split
          · simp
          · rw [eval_trimmed, eval_drawing]
            exact hguard text rest hjudged
      · next hplain =>
        rw [eval_drawing, Condition.conjunction, String.append_assoc]
        exact hguard _ _ (h.literal (not_hasTemplate_conjunction (by simpa using hplain)).1)

end

/-! ## Guards that do not hold -/

/-- A text in which no marker stands is rendered as it is. -/
theorem render_of_plain (b : Bindings) {condition : String} (h : hasTemplate condition = false)
    (hmark : Text.contains noValue condition = false) : render b condition = .ok condition := by
  have hcut : Text.cutAt? noValue.toList condition.toList = none := by
    simpa [Text.contains, Text.occursIn] using hmark
  rw [render, Template.renderRaw_of_not_hasTemplate b h]
  refine congrArg Except.ok ?_
  rw [Text.replaced, Text.replaceAll_of_none (by decide) hcut, String.ofList_toList]

theorem sound_of_plain (b : Bindings) {condition : String} (h : hasTemplate condition = false)
    (htrimmed : trimmed condition = condition) (hopen : '(' ∉ condition.toList)
    (hclose : ')' ∉ condition.toList) : Sound b condition :=
  fun _ => ⟨condition,
    ⟨fun htemplate => Bool.noConfusion ((htrimmed ▸ h).symm.trans htemplate),
      fun _ => htrimmed.symm⟩,
    balanced_of_plain hopen hclose⟩

/-- A condition is a template, or no marker for absent data stands in it. -/
def Unmarked (condition : String) : Prop :=
  hasTemplate (trimmed condition) = false → Text.contains noValue (trimmed condition) = false

/-- A sound condition guards others if its verdict does not depend on what is drawn.  If it is no
template and a marker stands in it, it does so where no template stands behind it. -/
theorem Sound.guards {s : Scope} {verdict : Except Error Bool → Prop} {condition : String}
    (h : Sound s.bindings condition) (hverdict : ¬ verdict (.ok true))
    (hno : ∀ c, verdict (evaluate (s.drawing c) condition))
    (hblank : ∀ c text, ReadsAs (s.bindings.drawing c) condition text →
      (trimmed text).isEmpty = true → verdict (eval s text.toList)) :
    Guards s (Unmarked condition) verdict condition := by
  have hnonempty : (trimmed condition).isEmpty = false := by
    rw [Bool.eq_false_iff]
    intro hempty
    have htrue := hno s.bindings.chance
    rw [evaluate_of_isEmpty _ hempty] at htrue
    exact hverdict htrue
  have hliteral : hasTemplate (trimmed condition) = false →
      Judged s verdict (trimmed condition).toList := by
    intro hplain
    refine ⟨h.balanced_of_plain hplain, ?_⟩
    have heval := hno s.bindings.chance
    simp only [evaluate, hnonempty, hplain, Bool.false_eq_true, if_false, eval_drawing] at heval
    exact heval
  refine ⟨hnonempty, fun htemplate hplain => ?_, hliteral, fun hunmarked c => ?_⟩
  · rw [htemplate] at hplain
    cases hplain
  cases htemplate : hasTemplate (trimmed condition) with
  | false =>
    exact ⟨_, render_of_plain _ htemplate (hunmarked htemplate), hliteral htemplate⟩
  | true =>
    obtain ⟨text, hreads, hbalanced⟩ := h c
    refine ⟨text, hreads.rendered htemplate, hbalanced, ?_⟩
    cases hnothing : (trimmed text).isEmpty with
    | true => exact hblank c text hreads hnothing
    | false =>
      have hrender : render (s.drawing c).bindings (trimmed condition) = .ok text :=
        hreads.rendered htemplate
      have heval := hno c
      simp only [evaluate, hnonempty, htemplate, hrender, hnothing, Bool.false_eq_true, if_false,
        if_true, eval_trimmed, eval_drawing] at heval
      exact heval

/-- The word for what does not hold. -/
theorem evaluate_false (s : Scope) : evaluate s "false" = .ok false := by
  have hcore : core "false".toList = "false".toList := core_of_unblank (by decide) (by decide)
  have htrimmed : trimmed "false" = "false" := by decide +kernel
  rw [evaluate, htrimmed]
  exact eval_of_atom s hcore rfl rfl rfl

end RecipeRunner.Condition
