import RecipeRunner.Proofs.Decimal.Integer
import RecipeRunner.Proofs.Except
import RecipeRunner.Prompt.Answer
/-!
# Answers to prompts with options

A reply to a prompt with options is a number before it is a text, and an empty one takes the
fallback.  Only a reply that is the exit word itself stops the recipe.

* `Numbers`: the options that replies are the numbers of.
* `pick_eq_ok_iff`: the option that a reply names.
* `ofReply_exitWord`: which replies give the exit word, and which stop the recipe.
* `ofReply_option`: what the text of an option gives.
-/

namespace RecipeRunner.Answer

open Decimal (Counts readCount?_eq_some_iff)
open Text (equalIgnoringCase trimmed)

/-- A reply is the number of an option, counted from one. -/
def Numbers (options : List String) (reply choice : String) : Prop :=
  ∃ n, Counts (n + 1) reply.toList ∧ options[n]? = some choice

variable {options : List String} {reply choice other word : String}

/-- The option that a reply is the number of. -/
def numbered? (options : List String) (reply : String) : Option String :=
  match Decimal.readCount? reply.toList with
  | some (n + 1) => options[n]?
  | _ => none

theorem numbered?_eq_some_iff :
    numbered? options reply = some choice ↔ Numbers options reply choice := by
  unfold numbered? Numbers
  simp only [← readCount?_eq_some_iff]
  constructor
  · intro h
    split at h
    · next n hread => exact ⟨n, hread, h⟩
    · cases h
  · rintro ⟨n, hread, hoption⟩
    rw [hread]
    exact hoption

theorem Numbers.unique (h : Numbers options reply choice) (h' : Numbers options reply other) :
    choice = other := by
  rw [← numbered?_eq_some_iff] at h h'
  exact Option.some.inj (h.symm.trans h')

theorem Numbers.mem (h : Numbers options reply choice) : choice ∈ options := by
  obtain ⟨n, -, hoption⟩ := h
  exact List.mem_of_getElem? hoption

theorem pick_eq (hoptions : options ≠ []) : pick options reply =
    match (numbered? options reply).or (options.find? (equalIgnoringCase reply)) with
    | some choice => .ok choice
    | none => .error (.notAnOption reply) := by
  rw [pick, if_neg (by simpa using hoptions)]
  rfl

/-- Among options a reply names the one that it is the number of, or else the first one that it is
the text of. -/
theorem pick_eq_ok_iff (hoptions : options ≠ []) : pick options reply = .ok choice ↔
    Numbers options reply choice ∨ (∀ other, ¬ Numbers options reply other) ∧
      options.find? (equalIgnoringCase reply) = some choice := by
  simp only [← numbered?_eq_some_iff]
  rw [pick_eq hoptions]
  cases numbered? options reply with
  | some named => simp
  | none =>
    rw [Option.none_or]
    cases options.find? (equalIgnoringCase reply) <;> simp

/-! ## The exit word -/

/-- The exit word is not a number. -/
theorem not_numbers_of_exitWord (h : equalIgnoringCase exitWord reply = true) :
    ¬ Numbers options reply choice := by
  rintro ⟨n, hcounts, -⟩
  have hchars := hcounts.isDigit_or_plus
  have hsame : reply.toList.map Char.toLower = reply.toList := by
    refine (List.map_congr_left fun c hc => ?_).trans (List.map_id _)
    rcases hchars c hc with hdigit | rfl
    · simpa using Decimal.of_isDigit (p := fun c => c.toLower = c) (by decide) hdigit
    · rfl
  rw [equalIgnoringCase, hsame, beq_iff_eq] at h
  have hletter : 'e' ∈ reply.toList := h ▸ (by decide)
  rcases hchars 'e' hletter with hdigit | hplus
  · exact absurd hdigit (by decide)
  · exact absurd hplus (by decide)

theorem equalIgnoringCase_trans (h : equalIgnoringCase reply choice = true)
    (h' : equalIgnoringCase other choice = true) : equalIgnoringCase other reply = true := by
  simp only [equalIgnoringCase, beq_iff_eq] at h h' ⊢
  rw [h, h']

/-- A reply that is not the exit word names an exit word only by its number. -/
theorem pick_exitWord_iff (hreply : equalIgnoringCase exitWord reply = false)
    (hword : equalIgnoringCase exitWord word = true) :
    pick options reply = .ok word ↔ Numbers options reply word := by
  by_cases hoptions : options = []
  · subst hoptions
    refine ⟨fun h => ?_, fun h => absurd h.mem List.not_mem_nil⟩
    obtain rfl : reply = word := Except.ok.inj h
    rw [hword] at hreply
    cases hreply
  · rw [pick_eq_ok_iff hoptions]
    refine or_iff_left fun hfound => ?_
    have hsame : equalIgnoringCase reply word = true := List.find?_some hfound.2
    rw [equalIgnoringCase_trans hsame hword] at hreply
    cases hreply

/-! ## Replies -/

theorem text_inj : text choice = text other ↔ choice = other := by
  simp [text]

theorem not_numbers_empty : ¬ Numbers options "" choice := by
  rw [← numbered?_eq_some_iff]
  exact nofun

/-- The fallback is a text of the prompt, or there is nothing to choose from. -/
theorem firstChoice_cases (spec : PromptSpec) :
    (∃ v, spec.fallback = some v ∧ firstChoice spec = v.render) ∨
      firstChoice spec ∈ spec.options ∨ firstChoice spec = "" := by
  unfold firstChoice
  split
  · next v hfallback => exact .inl ⟨v, hfallback, rfl⟩
  · cases spec.options with
    | nil => exact .inr (.inr rfl)
    | cons option rest => exact .inr (.inl List.mem_cons_self)

variable {spec : PromptSpec}

section

variable (hkind : spec.kind = .select ∨ spec.kind = .autocomplete)

include hkind

theorem ofReply_eq (reply : String) : ofReply spec reply =
    if equalIgnoringCase exitWord (trimmed reply) then .ok .exit
    else if (trimmed reply).isEmpty then .ok (.text (firstChoice spec))
    else (pick spec.options (trimmed reply)).map .text := by
  unfold ofReply
  rcases hkind with hselect | hautocomplete
  · rw [hselect]
  · rw [hautocomplete]

theorem ofReply_eq_exit_iff (reply : String) : ofReply spec reply = .ok .exit ↔
    equalIgnoringCase exitWord (trimmed reply) = true := by
  rw [ofReply_eq hkind]
  split
  · next hexit => exact iff_of_true rfl hexit
  · next hexit =>
    refine iff_of_false (fun h => ?_) hexit
    split at h
    · cases h
    · obtain ⟨choice, -, heq⟩ := map_eq_ok.1 h
      cases heq

/-- An exit word is given as a text by a number or by an empty reply. -/
theorem ofReply_eq_text_iff (hword : equalIgnoringCase exitWord word = true) (reply : String) :
    ofReply spec reply = .ok (.text word) ↔
      trimmed reply = "" ∧ firstChoice spec = word ∨
        Numbers spec.options (trimmed reply) word := by
  rw [ofReply_eq hkind]
  split
  · next hexit =>
    refine iff_of_false nofun (not_or.2 ⟨fun hempty => ?_, not_numbers_of_exitWord hexit⟩)
    rw [hempty.1] at hexit
    exact absurd hexit (by decide)
  · next hexit =>
    split
    · next hempty =>
      rw [String.isEmpty_iff] at hempty
      rw [Except.ok.injEq, text_inj, hempty, or_iff_left not_numbers_empty, and_iff_right rfl]
    · next hempty =>
      rw [String.isEmpty_iff] at hempty
      rw [or_iff_right fun h => hempty h.1, ← pick_exitWord_iff (by simpa using hexit) hword,
        map_eq_ok]
      simp only [text_inj, exists_eq_right]

/-- Only the exit word itself stops the recipe.  An exit word that is chosen by its number, or that
is the fallback of an empty reply, is a text like any other, so none comes up where there is none
among the options nor as the fallback. -/
theorem ofReply_exitWord (reply : String) :
    (ofReply spec reply = .ok .exit ↔ equalIgnoringCase exitWord (trimmed reply) = true) ∧
      (∀ word, equalIgnoringCase exitWord word = true →
        (ofReply spec reply = .ok (.text word) ↔
          trimmed reply = "" ∧ firstChoice spec = word ∨
            Numbers spec.options (trimmed reply) word)) ∧
      ((∀ v, spec.fallback = some v → equalIgnoringCase exitWord v.render = false) →
        (∀ option ∈ spec.options, equalIgnoringCase exitWord option = false) →
          ∀ word, ofReply spec reply = .ok (.text word) →
            equalIgnoringCase exitWord word = false) := by
  refine ⟨ofReply_eq_exit_iff hkind reply, fun word hword => ofReply_eq_text_iff hkind hword reply,
    fun hfallback hoptions word h => Bool.eq_false_iff.2 fun hword => ?_⟩
  rcases (ofReply_eq_text_iff hkind hword reply).1 h with ⟨-, rfl⟩ | hnumbers
  · rcases firstChoice_cases spec with ⟨v, hv, hrender⟩ | hmem | hempty
    · rw [hrender, hfallback v hv] at hword
      cases hword
    · rw [hoptions _ hmem] at hword
      cases hword
    · rw [hempty] at hword
      exact absurd hword (by decide)
  · rw [hoptions word hnumbers.mem] at hword
    cases hword

end

/-- A choice between two ways to go on, one of which is to leave. -/
def leaving : PromptSpec where
  id := "choice"
  kind := .select
  options := ["deploy", "exit"]

/-- The exit word is understood in any case.  Its number is not, and without an exit word among the
options none comes up. -/
theorem ofReply_exitWord_leaving :
    ofReply leaving " Exit " = .ok .exit ∧ ofReply leaving "2" = .ok (.text "exit") ∧
      ∀ reply word, ofReply { leaving with options := ["deploy", "wait"] } reply =
        .ok (.text word) → equalIgnoringCase exitWord word = false := by
  refine ⟨(ofReply_exitWord (.inl rfl) _).1.2 (by decide), ?_, fun reply => ?_⟩
  · have htwo : Numbers leaving.options (trimmed "2") "exit" := numbered?_eq_some_iff.1 (by decide)
    exact ((ofReply_exitWord (.inl rfl) "2").2.1 "exit" (by decide)).2 (.inr htwo)
  · exact (ofReply_exitWord (.inl rfl) reply).2.2 nofun (by decide)

/-- The exit word is a text where it is chosen by its number, and where it is the fallback, its own
one or the first option. -/
theorem ofReply_leaving :
    ofReply leaving "2" = .ok (.text "exit") ∧
      ofReply { leaving with fallback := some (.str "exit") } "" = .ok (.text "exit") ∧
      ofReply { leaving with options := ["exit", "deploy"] } "" = .ok (.text "exit") ∧
      ofReply leaving "exit" = .ok .exit :=
  ⟨rfl, rfl, rfl, rfl⟩

section

variable (hkind : spec.kind = .select ∨ spec.kind = .autocomplete)

include hkind

/-- An option is given by its own text, unless that is the number of an option which differs in
more than case and is given instead. -/
theorem ofReply_option {option : String} (hoption : option ∈ spec.options) (hne : option ≠ "")
    (htrimmed : trimmed option = option) (hexit : equalIgnoringCase exitWord option = false) :
    ∃ choice ∈ spec.options, ofReply spec option = .ok (.text choice) ∧
      (Numbers spec.options option choice ∨ (∀ other, ¬ Numbers spec.options option other) ∧
        spec.options.find? (equalIgnoringCase option) = some choice) ∧
      (equalIgnoringCase option choice = true ↔
        ∀ other, Numbers spec.options option other → equalIgnoringCase option other = true) := by
  have hpicked : ∀ {choice}, ofReply spec option = .ok (.text choice) ↔
      Numbers spec.options option choice ∨ (∀ other, ¬ Numbers spec.options option other) ∧
        spec.options.find? (equalIgnoringCase option) = some choice := by
    intro choice
    rw [ofReply_eq hkind, htrimmed, if_neg (by simpa using hexit), if_neg (by simpa using hne),
      map_eq_ok, ← pick_eq_ok_iff (List.ne_nil_of_mem hoption)]
    simp only [text_inj, exists_eq_right]
  by_cases hnumbered : ∃ choice, Numbers spec.options option choice
  · obtain ⟨choice, hchoice⟩ := hnumbered
    refine ⟨choice, hchoice.mem, hpicked.2 (.inl hchoice), .inl hchoice, fun h other hother => ?_,
      fun h => h choice hchoice⟩
    rwa [hother.unique hchoice]
  · rw [not_exists] at hnumbered
    have hfound : (spec.options.find? (equalIgnoringCase option)).isSome :=
      List.find?_isSome.2 ⟨option, hoption, beq_self_eq_true _⟩
    obtain ⟨choice, hchoice⟩ := Option.isSome_iff_exists.1 hfound
    have hsame : equalIgnoringCase option choice = true := List.find?_some hchoice
    refine ⟨choice, List.mem_of_find?_eq_some hchoice, hpicked.2 (.inr ⟨hnumbered, hchoice⟩),
      .inr ⟨hnumbered, hchoice⟩, iff_of_true hsame fun other hother => ?_⟩
    exact absurd hother (hnumbered other)

end

/-- A choice of how long to wait, the longest time first. -/
def waiting : PromptSpec where
  id := "seconds"
  kind := .autocomplete
  options := ["3", "2", "1", "None"]

/-- The text of the last option is no number, and the one in the middle is its own number. -/
theorem ofReply_option_waiting :
    ("None" ∈ waiting.options ∧ "None" ≠ "" ∧ trimmed "None" = "None" ∧
        equalIgnoringCase exitWord "None" = false) ∧
      ofReply waiting "None" = .ok (.text "None") ∧ ofReply waiting "2" = .ok (.text "2") := by
  have hgiven : ∀ option ∈ ["2", "None"], option ∈ waiting.options ∧ option ≠ "" ∧
      trimmed option = option ∧ equalIgnoringCase exitWord option = false := by decide
  have hnumbered : ∀ option ∈ ["2", "None"], ∀ other ∈ numbered? waiting.options option,
      equalIgnoringCase option other = true := by decide
  have hsame : ∀ option ∈ ["2", "None"], ∀ choice ∈ waiting.options,
      equalIgnoringCase option choice = true → choice = option := by decide
  have hanswers : ∀ option ∈ ["2", "None"], ofReply waiting option = .ok (.text option) := by
    intro option hoption
    obtain ⟨hmem, hne, htrimmed, hexit⟩ := hgiven option hoption
    obtain ⟨choice, hchoice, hanswer, -, hiff⟩ :=
      ofReply_option (.inr rfl) hmem hne htrimmed hexit
    have hequal : equalIgnoringCase option choice = true := hiff.2 fun other hother =>
      hnumbered option hoption other (numbered?_eq_some_iff.2 hother)
    rw [hanswer, hsame option hoption choice hchoice hequal]
  exact ⟨hgiven "None" (by decide), hanswers "None" (by decide), hanswers "2" (by decide)⟩

/-- The text of the first option is the number of the third one. -/
theorem ofReply_waiting : "3" ∈ waiting.options ∧ trimmed "3" = "3" ∧
    equalIgnoringCase exitWord "3" = false ∧ ofReply waiting "3" = .ok (.text "1") ∧
      equalIgnoringCase "3" "1" = false :=
  ⟨by decide, by decide, by decide, rfl, by decide⟩

end RecipeRunner.Answer
