import RecipeRunner.Template.Item
import RecipeRunner.Proofs.Text.Search
/-!
# Sources in a row

How a template is cut up when a text follows it.  Every action of the first text that opens is
closed there, so the cuts of the first text stay where they are, and its last text goes on in the
second text.

* `Source.ofChars_append`: the source of two texts in a row is the sources of the texts, joined.
* `Source.items?_join`: what another source behind it changes of the items of a source is those of
  its last text.
-/

namespace RecipeRunner.Template

namespace Source

/-- Puts the source of a text before that of the text behind it. -/
def join : Source → Source → Source
  | .text last, .text first => .text (last ++ first)
  | .text last, .action before a rest => .action (last ++ before) a rest
  | .text last, .unclosed before inside => .unclosed (last ++ before) inside
  | .action before a rest, next => .action before a (join rest next)
  | .unclosed before inside, _ => .unclosed before inside

/-- Every action that opens is closed. -/
def IsClosed : Source → Prop
  | .text _ => True
  | .action _ _ rest => rest.IsClosed
  | .unclosed .. => False

theorem ofChars_of_none {cs : List Char} (h : Text.cutAt? opening cs = none) :
    ofChars cs = .text cs := by
  rw [ofChars]
  split
  · rfl
  · next hcut => rw [h] at hcut; cases hcut

theorem ofChars_of_unclosed {cs before inside : List Char}
    (h : Text.cutAt? opening cs = some (before, inside))
    (hclosing : Text.cutAt? closing (splitDash inside).2 = none) :
    ofChars cs = .unclosed before inside := by
  rw [ofChars]
  split
  · next hcut => rw [h] at hcut; cases hcut
  · next hcut =>
    rw [h] at hcut
    cases hcut
    split
    · rfl
    · next hcut => rw [hclosing] at hcut; cases hcut

theorem ofChars_of_action {cs before inside body rest : List Char}
    (h : Text.cutAt? opening cs = some (before, inside))
    (hclosing : Text.cutAt? closing (splitDash inside).2 = some (body, rest)) :
    ofChars cs = .action before ⟨(splitDash inside).1, body⟩ (ofChars rest) := by
  rw [ofChars]
  split
  · next hcut => rw [h] at hcut; cases hcut
  · next hcut =>
    rw [h] at hcut
    cases hcut
    split
    · next hcut => rw [hclosing] at hcut; cases hcut
    · next hcut =>
      rw [hclosing] at hcut
      cases hcut
      rfl

theorem cutAt?_opening_append {cs next : List Char} (h : Text.cutAt? opening cs = none)
    (hnext : cs.getLast? = some '\x7b' → next.head? ≠ some '\x7b') :
    Text.cutAt? opening (cs ++ next) =
      (Text.cutAt? opening next).map fun (before, inside) => (cs ++ before, inside) := by
  induction cs with
  | nil => simp
  | cons c cs ih =>
    rw [Text.cutAt?] at h
    split at h
    · cases h
    · next hstart =>
      have hrest := Option.map_eq_none_iff.1 h
      have hlast : cs.getLast? = some '\x7b' → next.head? ≠ some '\x7b' := by
        intro hcs
        refine hnext ?_
        cases cs with
        | nil => cases hcs
        | cons d cs => simpa using hcs
      have hnone : Text.afterStart? opening (c :: (cs ++ next)) = none := by
        cases cs with
        | cons d cs => simpa [Text.afterStart?, opening] using hstart
        | nil =>
          cases next with
          | nil => simp [Text.afterStart?, opening]
          | cons d next =>
            by_cases hc : c = '\x7b'
            · have hd : d ≠ '\x7b' := by simpa [hc] using hnext
              simp [Text.afterStart?, opening, Ne.symm hd]
            · simp [Text.afterStart?, opening, Ne.symm hc]
      rw [List.cons_append, Text.cutAt?, hnone, ih hrest hlast, Option.map_map]
      rfl

theorem splitDash_suffix (inside : List Char) : (splitDash inside).2 <:+ inside := by
  unfold splitDash
  split
  · exact List.drop_suffix 1 inside
  · exact List.suffix_rfl

theorem splitDash_append {inside : List Char} (h : 2 ≤ inside.length) (next : List Char) :
    splitDash (inside ++ next) = ((splitDash inside).1, (splitDash inside).2 ++ next) := by
  match inside, h with
  | c :: d :: rest, _ =>
    have hdash : startsWithDash (c :: d :: rest ++ next) = startsWithDash (c :: d :: rest) := by
      simp only [List.cons_append]
      unfold startsWithDash
      split <;> simp_all
    unfold splitDash
    rw [hdash]
    split <;> rfl

/-- The source of a text that goes on, if no delimiter opens where the two texts meet. -/
theorem ofChars_append {cs next : List Char} (h : (ofChars cs).IsClosed)
    (hnext : cs.getLast? = some '\x7b' → next.head? ≠ some '\x7b') :
    ofChars (cs ++ next) = (ofChars cs).join (ofChars next) := by
  fun_induction ofChars cs with
  | case1 cs hopening =>
    have hcut := cutAt?_opening_append hopening hnext
    match hsecond : Text.cutAt? opening next with
    | none =>
      rw [hsecond] at hcut
      rw [ofChars_of_none hcut, ofChars_of_none hsecond]
      rfl
    | some (before, inside) =>
      rw [hsecond] at hcut
      match hclosing : Text.cutAt? closing (splitDash inside).2 with
      | none => rw [ofChars_of_unclosed hcut hclosing, ofChars_of_unclosed hsecond hclosing]; rfl
      | some (body, rest) =>
        rw [ofChars_of_action hcut hclosing, ofChars_of_action hsecond hclosing]
        rfl
  | case2 cs before inside hopening hclosing => exact h.elim
  | case3 cs before inside hopening body rest hclosing _ ih =>
    have hinside := Text.eq_append_of_cutAt? hclosing
    have htext := Text.eq_append_of_cutAt? hopening
    have hlength : 2 ≤ inside.length := by
      have h1 := congrArg List.length hinside
      have h2 := length_splitDash inside
      simp only [List.length_append, closing, List.length_cons, List.length_nil] at h1
      omega
    have hlast : rest.getLast? = some '\x7b' → next.head? ≠ some '\x7b' := by
      intro hrest
      obtain ⟨front, hfront⟩ := splitDash_suffix inside
      refine hnext ?_
      rw [htext, ← hfront, hinside, ← List.append_assoc, ← List.append_assoc,
        ← List.append_assoc, List.getLast?_append, hrest]
      rfl
    have hclosing' : Text.cutAt? closing (splitDash (inside ++ next)).2 =
        some (body, rest ++ next) := by
      rw [splitDash_append hlength]
      exact Text.cutAt?_append_of_some hclosing next
    rw [ofChars_of_action (Text.cutAt?_append_of_some hopening next) hclosing', ih h hlast,
      splitDash_append hlength]
    rfl

/-- The text before the first action. -/
def lead : Source → List Char
  | .text last => last
  | .action before _ _ => before
  | .unclosed before _ => before

/-- The text behind the last action. -/
def last : Source → List Char
  | .text last => last
  | .action _ _ rest => rest.last
  | .unclosed before _ => before

@[simp] theorem lead_join_text (cs : List Char) (next : Source) :
    ((Source.text cs).join next).lead = cs ++ next.lead := by
  cases next <;> rfl

/-- A text that does not start with a brace starts as its source does. -/
theorem head?_lead_ofChars {cs : List Char} {c : Char} (h : cs.head? = some c)
    (hc : c ≠ '\x7b') : (ofChars cs).lead.head? = some c := by
  obtain ⟨rest, rfl⟩ := List.head?_eq_some_iff.1 h
  have hone : ofChars [c] = .text [c] :=
    ofChars_of_none (by simp [Text.cutAt?, Text.afterStart?, opening])
  have hjoin : ofChars ([c] ++ rest) = (ofChars [c]).join (ofChars rest) :=
    ofChars_append (by rw [hone]; trivial) fun hlast => absurd (Option.some.inj hlast) hc
  rw [List.singleton_append, hone] at hjoin
  rw [hjoin, lead_join_text]
  rfl

/-! ## Items -/

/-- The items of a source, if it has any, where `trims` tells whether the action before it trims
what follows. -/
def items? (trims : Bool) : Source → Option (List Item)
  | .text last => some (Item.ofText trims false last)
  | .unclosed .. => none
  | .action before a rest => do
    let item ← (Item.ofBody a.body).toOption
    let items ← rest.items? (endsWithDash a.body)
    return Item.ofText trims a.trimsBefore before ++ item ++ items

theorem toOption_ofSource (offset : Nat) (trims : Bool) (source : Source) :
    (Item.ofSource offset trims source).toOption = source.items? trims := by
  induction source generalizing offset trims with
  | text last => rfl
  | unclosed before inside => rfl
  | action before a rest ih =>
    rw [Item.ofSource, items?]
    cases Item.ofBody a.body with
    | error fault => rfl
    | ok item =>
      rw [← ih (offset + Item.byteLength before + 4 + (if a.trimsBefore then 1 else 0) +
        Item.byteLength a.body)]
      change (Item.ofSource _ _ rest >>= _).toOption = (Item.ofSource _ _ rest).toOption >>= _
      cases Item.ofSource _ (endsWithDash a.body) rest with
      | error fault => rfl
      | ok items => rfl

theorem isClosed_of_items? {source : Source} {trims : Bool} {found : List Item}
    (h : source.items? trims = some found) : source.IsClosed := by
  induction source generalizing trims found with
  | text last => trivial
  | unclosed before inside => cases h
  | action before a rest ih =>
    obtain ⟨item, _, h⟩ := Option.bind_eq_some_iff.1 h
    obtain ⟨items, hitems, _⟩ := Option.bind_eq_some_iff.1 h
    exact ih hitems

/-- The items of a source with another one behind it: only its last text meets the other. -/
theorem items?_join {source : Source} {trims : Bool} {found : List Item}
    (h : source.items? trims = some found) :
    ∃ front trims', found = front ++ Item.ofText trims' false source.last ∧
      ∀ next : Source, (source.join next).items? trims =
        (((Source.text source.last).join next).items? trims').map (front ++ ·) := by
  induction source generalizing trims found with
  | text last =>
    obtain rfl := Option.some.inj h
    exact ⟨[], trims, rfl, fun next => by simp [Source.last]⟩
  | unclosed before inside => cases h
  | action before a rest ih =>
    obtain ⟨item, hitem, h⟩ := Option.bind_eq_some_iff.1 h
    obtain ⟨items, hitems, h⟩ := Option.bind_eq_some_iff.1 h
    obtain rfl := Option.some.inj h
    obtain ⟨front, trims', rfl, hjoin⟩ := ih hitems
    refine ⟨Item.ofText trims a.trimsBefore before ++ item ++ front, trims', by
      rw [Source.last, List.append_assoc _ front], fun next => ?_⟩
    have hitems : ((Source.action before a rest).join next).items? trims = (do
        let item ← (Item.ofBody a.body).toOption
        let items ← (rest.join next).items? (endsWithDash a.body)
        return Item.ofText trims a.trimsBefore before ++ item ++ items) := rfl
    rw [hitems, hitem, hjoin, show (Source.action before a rest).last = rest.last from rfl]
    cases ((Source.text rest.last).join next).items? trims' with
    | none => simp
    | some items => simp

end Source

end RecipeRunner.Template
