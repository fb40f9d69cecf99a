import RecipeRunner.Prompt.Dialogue
import RecipeRunner.Proofs.Text.Utf8
/-!
# Dialogues line by line

Whatever was read ahead, a line is taken off the input as a whole, and no byte behind it.  So a
prompt is answered by the first line that is an answer, the lines before it are refused one by one,
and the lines behind it are there for the next prompt.

* `Input.Holds`: the lines that are still to be read.
* `Input.readLine?_eq`: what is read depends on the bytes to be read only.
* `Dialogue.repeatLine_of_holds`: the line of a prompt is repeated up to the first answer.
* `Dialogue.ask_of_holds`: what comes of a prompt.
-/

namespace RecipeRunner

/-- Lines as they are typed in: each ends at its only line feed, except that the last one may end
with the input. -/
inductive AreLines : List String → Prop
  | nil : AreLines []
  | unended {line : String} : line ≠ "" → '\n' ∉ line.toList → AreLines [line]
  | ended {line : String} {rest : List String} : '\n' ∉ line.toList → AreLines rest →
      AreLines ((line ++ "\n") :: rest)

theorem AreLines.tail {line : String} {rest : List String} (h : AreLines (line :: rest)) :
    AreLines rest := by
  cases h with
  | unended => exact .nil
  | ended _ h => exact h

/-- Every line takes a byte at least. -/
theorem AreLines.length_le {lines : List String} (h : AreLines lines) :
    lines.length ≤ (Text.Utf8.encode (String.join lines)).length := by
  induction h with
  | nil => exact Nat.zero_le _
  | @unended line hline _ =>
    rw [String.join_cons, Text.Utf8.encode_append, List.length_append]
    have hbytes := List.length_pos_iff.2 (mt Text.Utf8.encode_eq_nil_iff.1 hline)
    exact Nat.le_add_right_of_le hbytes
  | ended _ _ ih =>
    rw [String.join_cons, Text.Utf8.encode_append, Text.Utf8.encode_append,
      Text.Utf8.encode_newline]
    simp only [List.length_append, List.length_cons, List.length_nil]
    omega

namespace Input

/-- The bytes that are still to be read, read ahead or not. -/
def bytes (i : Input) : List UInt8 :=
  i.held ++ i.waiting

/-- The lines that are still to be read. -/
structure Holds (i : Input) (lines : List String) : Prop where
  areLines : AreLines lines
  bytes_eq : i.bytes = Text.Utf8.encode (String.join lines)

/-! ## Cutting off a line -/

theorem cutLine?_cons (b : UInt8) (bytes : List UInt8) :
    cutLine? (b :: bytes) =
      if b = 10 then some ([10], bytes)
      else (cutLine? bytes).map fun (line, rest) => (b :: line, rest) := by
  by_cases hb : b = 10
  · simp [cutLine?, hb]
  · have hkept : (b != 10) = true := by simpa using hb
    simp only [cutLine?, List.dropWhile_cons, List.takeWhile_cons, hkept, if_true, if_neg hb]
    cases bytes.dropWhile (· != 10) <;> rfl

theorem cutLine?_append {front : List UInt8} (h : 10 ∉ front) (back : List UInt8) :
    cutLine? (front ++ back) =
      (cutLine? back).map fun (line, rest) => (front ++ line, rest) := by
  induction front with
  | nil => cases h : cutLine? back <;> simp [h]
  | cons b front ih =>
    simp only [List.mem_cons, not_or] at h
    rw [List.cons_append, cutLine?_cons, if_neg (Ne.symm h.1), ih h.2, Option.map_map]
    rfl

/-- What is cut off stays when more bytes come. -/
theorem cutLine?_append_of_some {bytes line rest : List UInt8}
    (h : cutLine? bytes = some (line, rest)) (more : List UInt8) :
    cutLine? (bytes ++ more) = some (line, rest ++ more) := by
  induction bytes generalizing line with
  | nil => cases h
  | cons b bytes ih =>
    rw [List.cons_append, cutLine?_cons] at *
    split at h
    · next hb =>
      obtain ⟨rfl, rfl⟩ := Prod.mk.inj (Option.some.inj h)
      rw [if_pos hb]
    · next hb =>
      obtain ⟨⟨line', rest'⟩, hcut, heq⟩ := Option.map_eq_some_iff.1 h
      obtain ⟨rfl, rfl⟩ := Prod.mk.inj heq
      rw [if_neg hb, ih hcut]
      rfl

/-- The first line of bytes and the bytes behind it, if there are any bytes. -/
def firstLine? (bytes : List UInt8) : Option (List UInt8 × List UInt8) :=
  (cutLine? bytes).or (if bytes.isEmpty then none else some (bytes, []))

theorem firstLine?_encode {line : String} {rest : List String} (h : AreLines (line :: rest)) :
    firstLine? (Text.Utf8.encode (String.join (line :: rest))) =
      some (Text.Utf8.encode line, Text.Utf8.encode (String.join rest)) := by
  rw [String.join_cons, Text.Utf8.encode_append, firstLine?]
  cases h with
  | unended hline hnewline =>
    rw [← Text.Utf8.newline_mem_encode_iff] at hnewline
    have hsome : (Text.Utf8.encode line).isEmpty = false := by
      rwa [List.isEmpty_eq_false_iff, ne_eq, Text.Utf8.encode_eq_nil_iff]
    have hrest : Text.Utf8.encode (String.join []) = [] := Text.Utf8.encode_empty
    rw [cutLine?_append hnewline, hrest, List.append_nil, hsome]
    rfl
  | ended hnewline =>
    rw [← Text.Utf8.newline_mem_encode_iff] at hnewline
    rw [Text.Utf8.encode_append, Text.Utf8.encode_newline, List.append_assoc,
      cutLine?_append hnewline, List.singleton_append, cutLine?_cons, if_pos rfl]
    rfl

/-! ## Reading -/

/-- Reading another block ahead does not change what is to be read. -/
theorem bytes_readAhead (i : Input) :
    bytes ⟨i.held ++ i.waiting.take blockSize, i.waiting.drop blockSize⟩ = i.bytes := by
  simp [bytes]

/-- What is read, with the bytes that are left. -/
def withBytes (read : Option (List UInt8 × Input)) : Option (List UInt8 × List UInt8) :=
  read.map fun (line, i) => (line, i.bytes)

/-- A block is read ahead if no line ends in what was read before and more bytes wait. -/
theorem readLineWithin_succ (blocks : Nat) (i : Input) :
    withBytes (readLineWithin (blocks + 1) i) =
      if cutLine? i.held = none ∧ i.waiting ≠ [] then
        withBytes (readLineWithin blocks
          ⟨i.held ++ i.waiting.take blockSize, i.waiting.drop blockSize⟩)
      else firstLine? i.bytes := by
  rw [readLineWithin, firstLine?]
  cases hcut : cutLine? i.held with
  | some cut =>
    have hheld : ¬(some cut = none ∧ i.waiting ≠ []) := fun h => Option.some_ne_none cut h.1
    rw [if_neg hheld, bytes, cutLine?_append_of_some hcut]
    rfl
  | none =>
    by_cases hwaiting : i.waiting = []
    · have hlast : ¬((none : Option (List UInt8 × List UInt8)) = none ∧ i.waiting ≠ []) :=
        fun h => h.2 hwaiting
      rw [if_neg hlast, bytes, hwaiting, List.append_nil, hcut]
      cases hheld : i.held with
      | nil => simp [readLineWithin, hheld, withBytes]
      | cons b held => simp [readLineWithin, hheld, withBytes, bytes, hwaiting]
    · have hmore : (none : Option (List UInt8 × List UInt8)) = none ∧ i.waiting ≠ [] :=
        ⟨rfl, hwaiting⟩
      have hempty : ¬i.waiting.isEmpty = true := by simpa using hwaiting
      rw [if_pos hmore, if_neg hempty]

/-- With blocks for all bytes that wait, it does not matter how many bytes were read ahead. -/
theorem readLineWithin_eq {blocks : Nat} {i : Input}
    (hblocks : i.waiting.length ≤ blocks * blockSize) :
    withBytes (readLineWithin (blocks + 1) i) = firstLine? i.bytes := by
  induction blocks generalizing i with
  | zero =>
    have hwaiting : i.waiting = [] := by simpa using hblocks
    rw [readLineWithin_succ, if_neg (by simp [hwaiting])]
  | succ blocks ih =>
    rw [readLineWithin_succ]
    split
    · rw [ih, bytes_readAhead]
      simp only [List.length_drop]
      rw [Nat.succ_mul] at hblocks
      omega
    · rfl

/-- What is read depends on the bytes that are to be read only. -/
theorem readLine?_eq (i : Input) :
    i.readLine?.map (fun (line, i) => (line, i.bytes)) =
      (firstLine? i.bytes).map fun (line, rest) => (Text.Utf8.decode line, rest) := by
  have hblocks : i.waiting.length ≤ (i.waiting.length / blockSize + 1) * blockSize := by
    have hdivision := Nat.div_add_mod' i.waiting.length blockSize
    have hmod := Nat.mod_lt i.waiting.length (show 0 < blockSize by decide)
    rw [Nat.succ_mul]
    omega
  rw [readLine?, ← readLineWithin_eq hblocks, withBytes, Option.map_map, Option.map_map]
  rfl

theorem readLine?_of_holds_nil {i : Input} (h : i.Holds []) : i.readLine? = none := by
  have hread := readLine?_eq i
  have hbytes : i.bytes = [] := h.bytes_eq.trans Text.Utf8.encode_empty
  rw [hbytes] at hread
  exact Option.map_eq_none_iff.1 hread

theorem exists_readLine?_of_holds {i : Input} {line : String} {rest : List String}
    (h : i.Holds (line :: rest)) : ∃ i', i.readLine? = some (line, i') ∧ i'.Holds rest := by
  have hread := readLine?_eq i
  rw [h.bytes_eq, firstLine?_encode h.areLines] at hread
  obtain ⟨⟨line', i'⟩, hline, heq⟩ := Option.map_eq_some_iff.1 hread
  obtain ⟨hline', hbytes⟩ := Prod.mk.inj heq
  rw [hline', Text.Utf8.decode_encode] at hline
  exact ⟨i', hline, h.areLines.tail, hbytes⟩

theorem length_le_size {i : Input} {lines : List String} (h : i.Holds lines) :
    lines.length ≤ i.size := by
  have hsize : i.size = i.bytes.length := List.length_append.symm
  rw [hsize, h.bytes_eq]
  exact h.areLines.length_le

end Input

namespace Dialogue

/-- What is written for a line that is no answer: the line of the prompt, and why. -/
def refusal (spec : PromptSpec) (fault : PromptFault) : String :=
  line spec ++ fault.message ++ "\n"

/-- How an exchange ends when these lines are left: with the first of them as its answer and the
others unread, or without an answer where none is left. -/
inductive EndsAt (spec : PromptSpec) (e : Exchange Answer) : List String → Prop
  | answered {reply : String} {unread : List String} {answer : Answer} :
      Answer.ofReply spec reply = .ok answer → e.outcome = .ok answer → e.input.Holds unread →
      EndsAt spec e (reply :: unread)
  | closed : e.outcome = .error .inputClosed → e.input.Holds [] → EndsAt spec e []

theorem EndsAt.congr {spec : PromptSpec} {e e' : Exchange Answer} {lines : List String}
    (h : EndsAt spec e lines) (houtcome : e'.outcome = e.outcome) (hinput : e'.input = e.input) :
    EndsAt spec e' lines := by
  cases h with
  | answered hreply hanswer hunread =>
    exact .answered hreply (houtcome.trans hanswer) (hinput ▸ hunread)
  | closed hclosed hunread => exact .closed (houtcome.trans hclosed) (hinput ▸ hunread)

/-- One line after the other is refused, up to the first answer. -/
theorem repeatLine_of_holds (spec : PromptSpec) {fuel : Nat} {input : Input} {lines : List String}
    (h : input.Holds lines) (hfuel : lines.length < fuel) :
    ∃ (refused rest : List String) (faults : List PromptFault), lines = refused ++ rest ∧
      refused.map (Answer.ofReply spec) = faults.map .error ∧
      (repeatLine spec fuel input).written =
        String.join (faults.map (refusal spec)) ++ line spec ∧
      EndsAt spec (repeatLine spec fuel input) rest := by
  induction lines generalizing input fuel with
  | nil =>
    obtain ⟨fuel, rfl⟩ := Nat.exists_eq_add_one_of_ne_zero (Nat.ne_zero_of_lt hfuel)
    have hrepeat : repeatLine spec (fuel + 1) input = ⟨line spec, .error .inputClosed, input⟩ := by
      rw [repeatLine, Input.readLine?_of_holds_nil h]
    rw [hrepeat]
    exact ⟨[], [], [], rfl, rfl, by simp, .closed rfl h⟩
  | cons reply unread ih =>
    obtain ⟨fuel, rfl⟩ := Nat.exists_eq_add_one_of_ne_zero (Nat.ne_zero_of_lt hfuel)
    obtain ⟨input', hread, hunread⟩ := Input.exists_readLine?_of_holds h
    cases hreply : Answer.ofReply spec reply with
    | ok answer =>
      have hrepeat : repeatLine spec (fuel + 1) input = ⟨line spec, .ok answer, input'⟩ := by
        simp only [repeatLine, hread, hreply]
      rw [hrepeat]
      exact ⟨[], reply :: unread, [], rfl, rfl, by simp, .answered hreply rfl hunread⟩
    | error fault =>
      have hrepeat : repeatLine spec (fuel + 1) input =
          { repeatLine spec fuel input' with
            written := refusal spec fault ++ (repeatLine spec fuel input').written } := by
        simp only [repeatLine, hread, hreply, refusal]
      obtain ⟨refused, rest, faults, hlines, hrefused, hwritten, hends⟩ :=
        ih hunread (Nat.lt_of_succ_lt_succ hfuel)
      rw [hrepeat]
      refine ⟨reply :: refused, rest, fault :: faults, by rw [hlines, List.cons_append], ?_, ?_,
        hends.congr rfl rfl⟩
      · rw [List.map_cons, List.map_cons, hreply, hrefused]
      · rw [hwritten, List.map_cons, String.join_cons, String.append_assoc]

/-- A prompt is answered by the first line that is an answer, with one refusal for each line before
it and the lines behind it unread.  If no line is an answer, all are refused and the input is at its
end. -/
theorem ask_of_holds (spec : PromptSpec) {input : Input} {lines : List String}
    (h : input.Holds lines) :
    ∃ (refused rest : List String) (faults : List PromptFault), lines = refused ++ rest ∧
      refused.map (Answer.ofReply spec) = faults.map .error ∧
      (ask spec input).written =
        heading spec ++ String.join (faults.map (refusal spec)) ++ line spec ∧
      EndsAt spec (ask spec input) rest := by
  obtain ⟨refused, rest, faults, hlines, hrefused, hwritten, hends⟩ :=
    repeatLine_of_holds spec h (Nat.lt_succ_of_le (Input.length_le_size h))
  refine ⟨refused, rest, faults, hlines, hrefused, ?_, hends.congr rfl rfl⟩
  rw [ask, hwritten, String.append_assoc]

/-- A prompt for a number. -/
def countPrompt : PromptSpec := { kind := .number }

/-- The word is refused, the first number is the answer, and the second one is left, which nothing
ends but the input. -/
theorem ask_of_holds_count :
    (Input.ofText "many\n7\n8").Holds ["many\n", "7\n", "8"] ∧
      (ask countPrompt (Input.ofText "many\n7\n8")).outcome = .ok (.value (.int 7)) ∧
      (ask countPrompt (Input.ofText "many\n7\n8")).input.Holds ["8"] := by
  have hword : Answer.ofReply countPrompt "many\n" = .error (.notNumber "many") := by rfl
  have hnumber : Answer.ofReply countPrompt "7\n" = .ok (.value (.int 7)) := by rfl
  have hlines : AreLines ["many\n", "7\n", "8"] :=
    @AreLines.ended "many" _ (by decide) (@AreLines.ended "7" _ (by decide)
      (.unended (by decide) (by decide)))
  have hholds : (Input.ofText "many\n7\n8").Holds ["many\n", "7\n", "8"] := by
    have htext : "many\n7\n8" = String.join ["many\n", "7\n", "8"] := by decide
    exact ⟨hlines, by rw [← htext]; rfl⟩
  obtain ⟨refused, rest, faults, heq, hrefused, -, hends⟩ := ask_of_holds countPrompt hholds
  refine ⟨hholds, ?_⟩
  match refused, heq with
  | [], heq =>
    obtain rfl : ["many\n", "7\n", "8"] = rest := heq
    cases hends with
    | answered hreply => cases hword.symm.trans hreply
  | [_], heq =>
    obtain ⟨rfl, rfl⟩ := List.cons.inj heq
    cases hends with
    | answered hreply houtcome hunread =>
      cases hnumber.symm.trans hreply
      exact ⟨houtcome, hunread⟩
  | _ :: _ :: _, heq =>
    obtain ⟨-, heq⟩ := List.cons.inj heq
    obtain ⟨rfl, -⟩ := List.cons.inj heq
    have hmem : Answer.ofReply countPrompt "7\n" ∈ faults.map .error := by
      rw [← hrefused]
      exact List.mem_cons_of_mem _ List.mem_cons_self
    obtain ⟨fault, -, hfault⟩ := List.mem_map.1 hmem
    cases hfault.trans hnumber

end Dialogue

end RecipeRunner
