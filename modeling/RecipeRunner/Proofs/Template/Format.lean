import RecipeRunner.Template.Function
/-!
# Formats

A format of texts and plain verbs.  Where each percent sign of a text is doubled, the text comes out
as it is, whatever stands next to it, and each verb takes one argument.  The arguments are written
once the format has been read, so nothing in them is a verb.

* `Directive.ofFormat_literal`: a text in a format is read as itself.
* `Directive.write_slots`: what the verbs write, and which is the first to find no argument.
* `call_printf`: the same of the function.
-/

namespace RecipeRunner.Template

namespace Function

/-- A text as it stands in a format: each percent sign is doubled. -/
def literal (text : List Char) : List Char :=
  text.flatMap fun c => if c = '%' then ['%', '%'] else [c]

/-- A verb that stands for an argument as it is, and the text behind it. -/
structure Slot where
  verb : Char
  text : String
  isPlain : verb = 's' ∨ verb = 'v' := by decide

namespace Slot

/-- How a slot is written in a format. -/
def format (slot : Slot) : List Char :=
  '%' :: slot.verb :: literal slot.text.toList

/-- An argument and the text behind it. -/
def fill (slot : Slot) (arg : Value) : String :=
  arg.render ++ slot.text

end Slot

/-- The format of a text and the slots behind it. -/
def formatOf (text : String) (slots : List Slot) : String :=
  String.ofList (literal text.toList ++ slots.flatMap Slot.format)

/-- A text and the filled slots behind it.  Arguments for which there is no slot are left out. -/
def filled (text : String) (slots : List Slot) (args : List Value) : String :=
  text ++ String.join (List.zipWith Slot.fill slots args)

namespace Directive

/-! ## Reading -/

theorem ofFormat_plain {c : Char} (hc : c ≠ '%') (rest : List Char) :
    ofFormat (c :: rest) = text [c] :: ofFormat rest := by
  rw [ofFormat]
  exact hc

/-- A verb stands right behind its percent sign, unless a precision begins there. -/
theorem ofFormat_verb {c : Char} (hc : c ≠ '.') (rest : List Char) :
    ofFormat ('%' :: c :: rest) = ofVerb none c :: ofFormat rest := by
  have hread : readPrecision (c :: rest) = (none, c :: rest) := by
    simp [readPrecision, hc]
  rw [ofFormat]
  split
  · next heq => simp [hread] at heq
  · next heq =>
    rw [hread] at heq
    cases heq
    rfl

/-- No percent sign of a text is read together with what stands before or behind the text. -/
theorem ofFormat_literal (cs rest : List Char) :
    ofFormat (literal cs ++ rest) = cs.map (fun c => text [c]) ++ ofFormat rest := by
  induction cs with
  | nil => rfl
  | cons c cs ih =>
    rw [literal, List.flatMap_cons, ← literal, List.append_assoc, List.map_cons, List.cons_append,
      ← ih]
    by_cases hc : c = '%'
    · rw [if_pos hc, hc]
      exact ofFormat_verb (by decide) _
    · rw [if_neg hc]
      exact ofFormat_plain hc _

theorem ofFormat_slot (slot : Slot) (rest : List Char) :
    ofFormat (slot.format ++ rest) = argument slot.verb none ::
      (slot.text.toList.map (fun c => text [c]) ++ ofFormat rest) := by
  have hverb : slot.verb ≠ '.' ∧ ofVerb none slot.verb = argument slot.verb none := by
    rcases slot.isPlain with h | h
    · rw [h]; exact ⟨by decide, rfl⟩
    · rw [h]; exact ⟨by decide, rfl⟩
  rw [← ofFormat_literal, ← hverb.2]
  exact ofFormat_verb hverb.1 _

/-! ## Writing -/

theorem write_literal (cs : List Char) (rest : List Directive) (args : List Value) :
    write (cs.map (fun c => text [c]) ++ rest) args = (write rest args).map (cs ++ ·) := by
  induction cs with
  | nil => cases h : write rest args <;> simp [h, Except.map]
  | cons c cs ih =>
    rw [List.map_cons, List.cons_append, write, ih]
    cases write rest args <;> rfl

theorem formatArg_plain (slot : Slot) (places : Option Nat) (arg : Value) :
    formatArg slot.verb places arg = .ok arg.render := by
  rcases slot.isPlain with h | h
  · rw [h]; rfl
  · rw [h]; rfl

/-- Each slot takes one argument, and the first that finds none is the error. -/
theorem write_slots (slots : List Slot) (args : List Value) :
    write (ofFormat (slots.flatMap Slot.format)) args =
      if h : args.length < slots.length then .error (.missingArgument slots[args.length].verb)
      else .ok ((List.zipWith Slot.fill slots args).flatMap String.toList) := by
  induction slots generalizing args with
  | nil =>
    rw [List.flatMap_nil, ofFormat, write]
    simp
  | cons slot slots ih =>
    rw [List.flatMap_cons, ofFormat_slot]
    cases args with
    | nil => rfl
    | cons arg args =>
      rw [write, formatArg_plain, write_literal, ih]
      by_cases h : args.length < slots.length
      · have hcons : (arg :: args).length < (slot :: slots).length := Nat.succ_lt_succ h
        rw [dif_pos h, dif_pos hcons]
        rfl
      · have hcons : ¬(arg :: args).length < (slot :: slots).length :=
          mt Nat.lt_of_succ_lt_succ h
        rw [dif_neg h, dif_neg hcons]
        simp [Except.map, Slot.fill]

end Directive

theorem sprintf_formatOf (text : String) (slots : List Slot) (args : List Value) :
    sprintf (formatOf text slots).toList args =
      if h : args.length < slots.length then .error (.missingArgument slots[args.length].verb)
      else .ok (filled text slots args).toList := by
  rw [sprintf, formatOf, String.toList_ofList, Directive.ofFormat_literal, Directive.write_literal,
    Directive.write_slots]
  split
  · rfl
  · simp [Except.map, filled]

example : sprintf "100%% %s of %v%%s".toList [.str "%d", .bool true, .int 3] =
    .ok "100% %d of true%s".toList := by cbv

end Function

/-- Texts and arguments come out as they are, however many arguments there are beyond the last verb;
a verb without an argument is an error. -/
theorem call_printf (b : Bindings) (text : String) (slots : List Function.Slot)
    (args : List Value) :
    call b "printf" (.str (Function.formatOf text slots) :: args) =
      if h : args.length < slots.length then .error (.missingArgument slots[args.length].verb)
      else .ok (.str (Function.filled text slots args)) := by
  have hcall : call b "printf" (.str (Function.formatOf text slots) :: args) =
      (Function.sprintf (Function.formatOf text slots).toList args).map
        fun cs => .str (String.ofList cs) := by
    simp only [call, Function.callText]
    rfl
  rw [hcall, Function.sprintf_formatOf]
  split
  · rfl
  · simp [Except.map]

end RecipeRunner.Template
