import RecipeRunner.Proofs.Template.Joining
import RecipeRunner.Proofs.Template.Tokens
/-!
# Templates taken apart

A template that can be read is texts with actions between them, and none of its text is lost: each
action goes from the first delimiter that opens to the first one that closes, the texts are its
items but for the blanks that the dashes next to them take away, and an action that is no comment
is the item of its tokens.

* `Token.exists_taken_of_next`: what a token takes of the text it is read from.
* `SetOff`: the blanks behind which a dash trims.  A dash next to another blank is a fault.
* `Layout.IsCut`, `Layout.Reads`: where a template is cut, and the items of its parts.
* `items_eq_ok_iff`: the items of a template are those of its parts.
-/

namespace RecipeRunner.Template

open Text (isBlank trim trimStart trimEnd startsWith endsWith occursIn FirstBehind)
open Source

/-! ## What a token takes -/

namespace Token

theorem eq_append_of_readQuoted? {cs s tail : List Char} (h : readQuoted? cs = some (s, tail)) :
    ∃ quoted, cs = quoted ++ '"' :: tail := by
  fun_induction readQuoted? cs generalizing s tail with
  | case1 => cases h
  | case2 rest =>
    obtain ⟨-, rfl⟩ := Prod.mk.inj (Option.some.inj h)
    exact ⟨[], rfl⟩
  | case3 => cases h
  | case4 c rest ih =>
    obtain ⟨⟨s, tail⟩, hrest, heq⟩ := Option.map_eq_some_iff.1 h
    obtain ⟨-, rfl⟩ := Prod.mk.inj heq
    obtain ⟨quoted, rfl⟩ := ih hrest
    exact ⟨'\\' :: c :: quoted, rfl⟩
  | case5 c rest _ _ _ ih =>
    obtain ⟨⟨s, tail⟩, hrest, heq⟩ := Option.map_eq_some_iff.1 h
    obtain ⟨-, rfl⟩ := Prod.mk.inj heq
    obtain ⟨quoted, rfl⟩ := ih hrest
    exact ⟨c :: quoted, rfl⟩

theorem readNumeral_spec (cs : List Char) :
    cs = (readNumeral cs).1 ++ (readNumeral cs).2.2 ∧
      ∀ c ∈ (readNumeral cs).1, isFieldChar c = true := by
  have hdigit : ∀ {c : Char}, Decimal.isDigit c = true → isFieldChar c = true := fun hc =>
    Decimal.of_isDigit (by decide) hc
  have hdigits : ∀ {cs : List Char}, ∀ c ∈ cs.takeWhile Decimal.isDigit, isFieldChar c = true :=
    fun c hc => hdigit (List.all_eq_true.1 List.all_takeWhile c hc)
  have hcs := List.takeWhile_append_dropWhile (p := Decimal.isDigit) (l := cs)
  simp only [readNumeral]
  split
  · next d rest hrest =>
    rw [hrest] at hcs
    split
    · next hd =>
      refine ⟨?_, fun c hc => ?_⟩
      · simpa using hcs.symm
      · rcases List.mem_append.1 hc with hc | hc
        · exact hdigits c hc
        rcases List.mem_cons.1 hc with rfl | hc
        · decide
        rcases List.mem_cons.1 hc with rfl | hc
        · exact hdigit hd
        · exact hdigits c hc
    · exact ⟨hcs.symm, hdigits⟩
  · exact ⟨hcs.symm, hdigits⟩

/-- What a token may take behind its first character: a text without blanks, or all up to a
quote. -/
def Takes (taken : List Char) : Prop :=
  (∀ c ∈ taken, isBlank c = false) ∨
    ∃ quoted quote, quote ∈ ['"', '\x60'] ∧ taken = quoted ++ [quote]

theorem takes_of_isFieldChar {taken : List Char} (h : ∀ c ∈ taken, isFieldChar c = true) :
    Takes taken :=
  .inl fun c hc => isBlank_of_isFieldChar (h c hc)

theorem takes_quoted (quoted : List Char) {quote : Char} (h : quote ∈ ['"', '\x60']) :
    Takes (quoted ++ [quote]) :=
  .inr ⟨quoted, quote, h, rfl⟩

theorem exists_taken_of_next {c : Char} {rest tail : List Char} {token : Token}
    (h : next c rest = .ok (token, tail)) : ∃ taken, rest = taken ++ tail ∧ Takes taken := by
  have hnone : ∃ taken, rest = taken ++ rest ∧ Takes taken :=
    ⟨[], rfl, takes_of_isFieldChar (List.forall_mem_nil _)⟩
  have hwhile : ∀ p : Char → Bool, (∀ d, p d = true → isFieldChar d = true) →
      ∃ taken, rest = taken ++ rest.dropWhile p ∧ Takes taken := fun p hp =>
    ⟨rest.takeWhile p, List.takeWhile_append_dropWhile.symm, takes_of_isFieldChar fun d hd =>
      hp d (List.all_eq_true.1 List.all_takeWhile d hd)⟩
  -- One case for each kind of token, in the order in which the reader tries them.
  unfold next at h
  split at h
  case isTrue => cases h; exact hnone
  split at h
  case isTrue => cases h; exact hnone
  split at h
  case isTrue => cases h; exact hnone
  split at h
  case isTrue =>
    split at h
    · next hquoted =>
      cases h
      obtain ⟨quoted, hrest⟩ := eq_append_of_readQuoted? hquoted
      exact ⟨quoted ++ ['"'], by simp [hrest], takes_quoted quoted (by simp)⟩
    · cases h
  split at h
  case isTrue =>
    split at h
    · next s _ hcut =>
      cases h
      exact ⟨s ++ ['\x60'], Text.eq_append_of_cutAt? hcut, takes_quoted s (by simp)⟩
    · cases h
  split at h
  case isTrue =>
    simp only at h
    split at h
    · cases h
      exact hwhile isFieldChar fun _ => id
    · split at h
      · cases h
      · cases h
        exact hnone
  split at h
  case isTrue =>
    obtain ⟨hrest, hdigits⟩ := readNumeral_spec rest
    simp only at h
    split at h
    · cases h
      exact ⟨_, hrest, takes_of_isFieldChar hdigits⟩
    · cases h
  split at h
  · cases h
    exact hwhile isWordPart fun _ => isFieldChar_of_isWordPart
  · cases h

/-- No token reaches over a blank with a dash behind it at the end of a text. -/
theorem exists_tail_of_next {c b : Char} {front tail : List Char} {token : Token}
    (hb : isBlank b = true) (h : next c (front ++ [b, '-']) = .ok (token, tail)) :
    ∃ front', tail = front' ++ [b, '-'] := by
  obtain ⟨taken, htaken, hend⟩ := exists_taken_of_next h
  obtain ⟨gap, hgap, htail⟩ | ⟨gap, -, htail⟩ := List.append_eq_append_iff.1 htaken
  · cases gap with
    | nil => exact ⟨[], htail.symm⟩
    | cons a gap =>
      rcases hend with hend | ⟨quoted, quote, hquote, hend⟩
      · obtain ⟨rfl, -⟩ := List.cons.inj htail
        have hsolid := hend b (by simp [hgap])
        rw [hb] at hsolid
        cases hsolid
      · have hlast : (a :: gap).getLast? = some quote := by
          rw [← List.getLast?_append_of_ne_nil front (List.cons_ne_nil a gap), ← hgap, hend,
            List.getLast?_concat]
        have hmem : quote ∈ [b, '-'] :=
          htail ▸ List.mem_append_left tail (List.mem_of_getLast? hlast)
        have hquotes : ∀ d ∈ ['"', '\x60'], isBlank d = false ∧ d ≠ '-' := by decide
        rcases List.mem_cons.1 hmem with rfl | hdash
        · rw [(hquotes _ hquote).1] at hb
          cases hb
        · exact absurd (List.mem_singleton.1 hdash) (hquotes _ hquote).2
  · exact ⟨gap, htail⟩

end Token

theorem tokenize_trimStart (cs : List Char) : tokenize (trimStart cs) = tokenize cs := by
  induction cs with
  | nil => rfl
  | cons c rest ih =>
    unfold trimStart at ih ⊢
    rw [List.dropWhile_cons]
    split
    · next hc => rw [tokenize_blank_cons hc, ih]
    · rfl

/-- A dash that starts no number is no token. -/
theorem tokenize_dash_ne_ok {rest : List Char} (h : Token.startsWithDigit rest = false)
    (tokens : List Token) : tokenize ('-' :: rest) ≠ .ok tokens := by
  rw [tokenize_cons (by decide)]
  intro htokens
  obtain ⟨found, hnext, -⟩ := bind_eq_ok.1 htokens
  rw [Token.startsWithDigit_of_next hnext] at h
  cases h

/-- Nor is one at the end behind white space. -/
theorem tokenize_append_dash_ne_ok {b : Char} (hb : isBlank b = true) (front : List Char)
    (tokens : List Token) : tokenize (front ++ [b, '-']) ≠ .ok tokens := by
  induction hlength : front.length using Nat.strongRecOn generalizing front tokens with
  | ind n ih =>
    cases front with
    | nil =>
      rw [List.nil_append, tokenize_blank_cons hb]
      exact tokenize_dash_ne_ok rfl tokens
    | cons c front =>
      rw [List.length_cons] at hlength
      rw [List.cons_append]
      cases hc : isBlank c with
      | true =>
        rw [tokenize_blank_cons hc]
        exact ih front.length (by omega) front tokens rfl
      | false =>
        rw [tokenize_cons hc]
        intro htokens
        obtain ⟨⟨token, tail⟩, hnext, htail⟩ := bind_eq_ok.1 htokens
        obtain ⟨front', rfl⟩ := Token.exists_tail_of_next hb hnext
        obtain ⟨more, hmore, -⟩ := map_eq_ok.1 htail
        have hshorter := Token.length_next hnext
        rw [List.length_append, List.length_append] at hshorter
        exact ih front'.length (by omega) front' more rfl hmore

/-! ## Dashes -/

/-- Whether the inside of an action starts with a dash set off by white space. -/
def leadsWithDash : List Char → Bool
  | '-' :: c :: _ => isBlank c
  | _ => false

/-- Whether the inside of an action ends with a dash set off by white space. -/
def trailsWithDash (inside : List Char) : Bool :=
  leadsWithDash inside.reverse

/-- The white space that sets off the dashes of an action is spaces, tabs and ends of lines. -/
structure SetOff (inside : List Char) : Prop where
  lead : leadsWithDash inside = startsWithDash inside
  trail : trailsWithDash inside = endsWithDash inside

/-- The inside of an action less its dashes and the white space at its ends. -/
def content (inside : List Char) : List Char :=
  let behind := if leadsWithDash inside then inside.drop 1 else inside
  trim (if trailsWithDash inside then behind.dropLast else behind)

theorem leadsWithDash_of_startsWithDash {cs : List Char} (h : startsWithDash cs = true) :
    leadsWithDash cs = true := by
  obtain ⟨c, rest, rfl, hc⟩ := Token.isDashBlank_of_startsWithDash h
  exact Token.isBlank_of_isDashBlank hc

theorem exists_of_leadsWithDash {cs : List Char} (h : leadsWithDash cs = true) :
    ∃ c rest, cs = '-' :: c :: rest ∧ isBlank c = true := by
  unfold leadsWithDash at h
  split at h
  · next c rest => exact ⟨c, rest, rfl, h⟩
  · cases h

theorem exists_of_trailsWithDash {cs : List Char} (h : trailsWithDash cs = true) :
    ∃ c front, cs = front ++ [c, '-'] ∧ isBlank c = true := by
  obtain ⟨c, rest, hcs, hc⟩ := exists_of_leadsWithDash h
  refine ⟨c, rest.reverse, ?_, hc⟩
  have := congrArg List.reverse hcs
  simpa using this

/-- No dash is set off by what is not white space. -/
theorem startsWithDash_append_cons {c : Char} (hc : isDashBlank c = false) {cs : List Char}
    (h : cs ≠ [] ∨ c ≠ '-') (rest : List Char) :
    startsWithDash (cs ++ c :: rest) = startsWithDash cs := by
  match cs with
  | [] => simp [startsWithDash, h.resolve_left (· rfl)]
  | [d] =>
    by_cases hd : d = '-'
    · subst hd
      exact hc
    · simp [startsWithDash, hd]
  | d :: e :: cs =>
    by_cases hd : d = '-'
    · subst hd
      rfl
    · simp [startsWithDash, hd]

theorem fst_splitDash (inside : List Char) : (splitDash inside).1 = startsWithDash inside := by
  unfold splitDash
  split
  · next h => exact h.symm
  · next h => exact (Bool.not_eq_true _ ▸ h).symm

/-- A dash at the start takes nothing away from one at the end. -/
theorem endsWithDash_splitDash (inside : List Char) :
    endsWithDash (splitDash inside).2 = endsWithDash inside := by
  unfold splitDash
  split
  · next h =>
    obtain ⟨c, rest, rfl, -⟩ := Token.isDashBlank_of_startsWithDash h
    have hends : startsWithDash ((c :: rest).reverse ++ ['-']) =
        startsWithDash (c :: rest).reverse :=
      startsWithDash_append_cons (by decide) (.inl (by simp)) []
    rw [← List.reverse_cons] at hends
    exact hends.symm
  · rfl

theorem inside_splitDash {inside : List Char} (h : SetOff inside) :
    Item.inside (splitDash inside).2 = content inside := by
  unfold Item.inside content
  rw [endsWithDash_splitDash, h.lead, h.trail, splitDash]
  cases startsWithDash inside <;> rfl

theorem startsWithDigit_trimEnd {cs : List Char} (h : ∀ c ∈ cs.head?, isBlank c = true) :
    Token.startsWithDigit (trimEnd cs) = false := by
  unfold Token.startsWithDigit
  cases hhead : (trimEnd cs).head? with
  | none => rfl
  | some c =>
    have hc := h c (Text.head?_dropEndWhile isBlank cs c hhead)
    rw [Option.any_some, ← Bool.not_eq_true]
    intro hdigit
    have hsolid := Decimal.of_isDigit (p := fun d => !isBlank d) (by decide) hdigit
    rw [hc] at hsolid
    cases hsolid

/-- A dash that is left in front of white space is no token. -/
theorem ofBody_dash_ne_ok {b : Char} (hb : isBlank b = true) (rest : List Char)
    (item : List Item) : Item.ofBody ('-' :: b :: rest) ≠ .ok item := by
  obtain ⟨more, hinside, hmore⟩ : ∃ more, Item.inside ('-' :: b :: rest) = '-' :: more ∧
      Token.startsWithDigit more = false := by
    have hhead : ∀ c ∈ (b :: rest).dropLast.head?, isBlank c = true := by
      intro c hc
      cases rest with
      | nil => cases hc
      | cons d rest =>
        obtain rfl := Option.some.inj hc
        exact hb
    unfold Item.inside
    split
    · exact ⟨_, Text.trim_cons (by decide) _, startsWithDigit_trimEnd hhead⟩
    · refine ⟨_, Text.trim_cons (by decide) _, startsWithDigit_trimEnd fun c hc => ?_⟩
      obtain rfl := Option.some.inj hc
      exact hb
  unfold Item.ofBody
  simp only [hinside]
  rw [if_neg (by simp [startsWith, Text.afterStart?]), if_neg (by simp)]
  intro h
  obtain ⟨tokens, htokens, -⟩ := map_eq_ok.1 h
  exact tokenize_dash_ne_ok hmore tokens htokens

/-- Nor is a dash that is left behind white space at the end. -/
theorem ofBody_append_dash_ne_ok {b : Char} (hb : isBlank b = true) (hdash : isDashBlank b = false)
    (front : List Char) (item : List Item) : Item.ofBody (front ++ [b, '-']) ≠ .ok item := by
  have hends : endsWithDash (front ++ [b, '-']) = false := by
    simp [endsWithDash, startsWithDash, hdash]
  have htrim : trimStart (front ++ [b, '-']) = trimStart (front ++ [b]) ++ ['-'] := by
    rw [← Text.trimStart_append (.inr ⟨'-', rfl, by decide⟩), List.append_assoc]
    rfl
  have hinside : Item.inside (front ++ [b, '-']) = trimStart (front ++ [b]) ++ ['-'] := by
    rw [Item.inside, hends, if_neg Bool.false_ne_true, trim, htrim]
    exact Text.trimEnd_append (.inr ⟨'-', rfl, by decide⟩)
  unfold Item.ofBody
  simp only [hinside]
  split
  · rw [if_neg (by simp [endsWith, Text.beforeEnd?, Text.afterStart?])]
    intro h
    cases h
  · rw [if_neg (by simp), ← htrim, tokenize_trimStart]
    intro h
    obtain ⟨tokens, htokens, -⟩ := map_eq_ok.1 h
    exact tokenize_append_dash_ne_ok hb front tokens htokens

theorem setOff_of_ofBody {inside : List Char} {item : List Item}
    (h : Item.ofBody (splitDash inside).2 = .ok item) : SetOff inside := by
  have hlead : leadsWithDash inside = startsWithDash inside := by
    cases hstarts : startsWithDash inside with
    | true => exact leadsWithDash_of_startsWithDash hstarts
    | false =>
      rw [← Bool.not_eq_true]
      intro hleads
      obtain ⟨b, rest, rfl, hb⟩ := exists_of_leadsWithDash hleads
      rw [splitDash, hstarts] at h
      exact ofBody_dash_ne_ok hb rest item h
  refine ⟨hlead, ?_⟩
  cases hends : endsWithDash inside with
  | true => exact leadsWithDash_of_startsWithDash hends
  | false =>
    rw [← Bool.not_eq_true]
    intro htrails
    obtain ⟨b, front, rfl, hb⟩ := exists_of_trailsWithDash htrails
    have hdash : isDashBlank b = false := by
      simpa [endsWithDash, startsWithDash] using hends
    obtain ⟨front', hfront⟩ : ∃ front', (splitDash (front ++ [b, '-'])).2 = front' ++ [b, '-'] := by
      unfold splitDash
      split
      · next hstarts =>
        cases front with
        | cons c front => exact ⟨front, rfl⟩
        | nil =>
          obtain ⟨c, rest, heq, hc⟩ := Token.isDashBlank_of_startsWithDash hstarts
          cases heq
          exact absurd hc (by decide)
      · exact ⟨front, rfl⟩
    rw [hfront] at h
    exact ofBody_append_dash_ne_ok hb hdash front' item h

/-! ## Actions -/

/-- The items of an action: none of a comment, else its tokens. -/
inductive ActionReads (inside : List Char) : List Item → Prop where
  | comment (opens : startsWith ['/', '*'] (content inside) = true)
      (closes : endsWith ['*', '/'] (content inside) = true) : ActionReads inside []
  | tokens {found : List Token} (opens : startsWith ['/', '*'] (content inside) = false)
      (nonempty : content inside ≠ []) (reads : tokenize (content inside) = .ok found) :
      ActionReads inside [.action found]

theorem ofBody_eq_ok_iff {inside : List Char} {item : List Item} :
    Item.ofBody (splitDash inside).2 = .ok item ↔ SetOff inside ∧ ActionReads inside item := by
  have hreads : ∀ h : SetOff inside,
      Item.ofBody (splitDash inside).2 = .ok item ↔ ActionReads inside item := by
    intro h
    unfold Item.ofBody
    simp only [inside_splitDash h]
    split
    · next hopens =>
      split
      · next hcloses =>
        constructor
        · rintro ⟨⟩
          exact .comment hopens hcloses
        · rintro (_ | ⟨hnot, _, _⟩)
          · rfl
          · cases hopens.symm.trans hnot
      · next hcloses =>
        refine ⟨nofun, ?_⟩
        rintro (⟨_, hcloses'⟩ | ⟨hnot, _, _⟩)
        · exact absurd hcloses' hcloses
        · cases hopens.symm.trans hnot
    · next hopens =>
      split
      · next hempty =>
        refine ⟨nofun, ?_⟩
        rintro (⟨hopens', _⟩ | ⟨_, hne, _⟩)
        · exact absurd hopens' hopens
        · exact absurd (List.isEmpty_iff.1 hempty) hne
      · next hempty =>
        rw [map_eq_ok]
        constructor
        · rintro ⟨found, hfound, rfl⟩
          exact .tokens (Bool.not_eq_true _ ▸ hopens) (by simpa using hempty) hfound
        · rintro (⟨hopens', _⟩ | ⟨_, _, hfound⟩)
          · exact absurd hopens' hopens
          · exact ⟨_, hfound, rfl⟩
  exact ⟨fun h => ⟨setOff_of_ofBody h, (hreads (setOff_of_ofBody h)).1 h⟩,
    fun ⟨hset, h⟩ => (hreads hset).2 h⟩

/-! ## Delimiters -/

/-- The delimiter behind an action has no part in the dash at its start. -/
theorem splitDash_append_closing (inside rest : List Char) :
    splitDash (inside ++ (closing ++ rest)) =
      ((splitDash inside).1, (splitDash inside).2 ++ (closing ++ rest)) := by
  have hstarts : startsWithDash (inside ++ (closing ++ rest)) = startsWithDash inside :=
    startsWithDash_append_cons (by decide) (.inr (by decide)) _
  unfold splitDash
  rw [hstarts]
  split
  · next h =>
    obtain ⟨c, more, rfl, -⟩ := Token.isDashBlank_of_startsWithDash h
    rfl
  · rfl

theorem firstBehind_splitDash {inside : List Char} :
    FirstBehind closing (splitDash inside).2 ↔ FirstBehind closing inside := by
  unfold splitDash
  split
  · next h =>
    obtain ⟨c, more, rfl, -⟩ := Token.isDashBlank_of_startsWithDash h
    exact (Text.firstBehind_cons (by decide)).symm
  · rfl

/-- An action is closed by the first delimiter behind it, whether it starts with a dash or not. -/
theorem cutAt?_splitDash_iff {text body rest : List Char} :
    Text.cutAt? closing (splitDash text).2 = some (body, rest) ↔
      ∃ inside, text = inside ++ (closing ++ rest) ∧ FirstBehind closing inside ∧
        (splitDash inside).2 = body := by
  constructor
  · intro h
    obtain ⟨hbody, hfirst⟩ := Text.cutAt?_eq_some_iff.1 h
    obtain ⟨front, hfront⟩ := splitDash_suffix text
    have htext : text = (front ++ body) ++ (closing ++ rest) := by
      rw [← hfront, hbody, List.append_assoc]
    have hinside : (splitDash (front ++ body)).2 = body := by
      rw [htext, splitDash_append_closing] at hbody
      exact List.append_cancel_right hbody
    refine ⟨front ++ body, htext, ?_, hinside⟩
    rw [← firstBehind_splitDash, hinside]
    exact hfirst
  · rintro ⟨inside, rfl, hfirst, rfl⟩
    rw [splitDash_append_closing]
    exact Text.cutAt?_eq_some_iff.2 ⟨rfl, firstBehind_splitDash.2 hfirst⟩

/-! ## Templates -/

/-- A template taken apart: texts with the insides of actions between them. -/
inductive Layout where
  | text (last : List Char)
  | action (before inside : List Char) (rest : Layout)

namespace Layout

/-- The template. -/
def toChars : Layout → List Char
  | text last => last
  | action before inside rest => before ++ opening ++ inside ++ closing ++ rest.toChars

/-- Every action goes from the first delimiter that opens behind the action before it to the first
one behind it that closes, and behind the last action none opens. -/
def IsCut : Layout → Prop
  | text last => occursIn opening last = false
  | action before inside rest =>
    FirstBehind opening before ∧ FirstBehind closing inside ∧ rest.IsCut

/-- The item of a text less the white space at its ends that the dashes next to it take away, if
something is left. -/
def textItems (trimsStart trimsEnd : Bool) (cs : List Char) : List Item :=
  if trimmedBy trimsStart trimsEnd cs = [] then []
  else [.text (String.ofList (trimmedBy trimsStart trimsEnd cs))]

/-- The items of a template, where `trims` tells whether the action before it ends with a dash. -/
def Reads (trims : Bool) (found : List Item) : Layout → Prop
  | text last => found = textItems trims false last
  | action before inside rest =>
    SetOff inside ∧ ∃ item more, ActionReads inside item ∧
      rest.Reads (trailsWithDash inside) more ∧
      found = textItems trims (leadsWithDash inside) before ++ item ++ more

theorem textItems_eq_ofText (trimsStart trimsEnd : Bool) (cs : List Char) :
    textItems trimsStart trimsEnd cs = Item.ofText trimsStart trimsEnd cs := by
  rw [textItems, ofText_eq]
  simp

/-- The cuts of a layout. -/
def source : Layout → Source
  | text last => .text last
  | action before inside rest =>
    .action before ⟨(splitDash inside).1, (splitDash inside).2⟩ rest.source

theorem items?_source (layout : Layout) (trims : Bool) (found : List Item) :
    layout.source.items? trims = some found ↔ layout.Reads trims found := by
  induction layout generalizing trims found with
  | text last =>
    rw [source, Source.items?, Reads, textItems_eq_ofText, Option.some.injEq, eq_comm]
  | action before inside rest ih =>
    have hitems : (source (.action before inside rest)).items? trims = some found ↔
        ∃ item, Item.ofBody (splitDash inside).2 = .ok item ∧
          ∃ more, rest.source.items? (endsWithDash inside) = some more ∧
            Item.ofText trims (startsWithDash inside) before ++ item ++ more = found := by
      rw [source, Source.items?, endsWithDash_splitDash, fst_splitDash]
      simp [Option.bind_eq_some_iff, toOption_eq_some_iff]
    rw [hitems]
    constructor
    · rintro ⟨item, hitem, more, hmore, rfl⟩
      obtain ⟨hset, hreads⟩ := ofBody_eq_ok_iff.1 hitem
      refine ⟨hset, item, more, hreads, ?_, ?_⟩
      · rw [hset.trail]
        exact (ih _ more).1 hmore
      · rw [textItems_eq_ofText, hset.lead]
    · rintro ⟨hset, item, more, hreads, hmore, rfl⟩
      refine ⟨item, ofBody_eq_ok_iff.2 ⟨hset, hreads⟩, more, ?_, ?_⟩
      · rw [← hset.trail]
        exact (ih _ more).2 hmore
      · rw [textItems_eq_ofText, hset.lead]

theorem ofChars_toChars {layout : Layout} (h : layout.IsCut) :
    Source.ofChars layout.toChars = layout.source := by
  induction layout with
  | text last => exact Source.ofChars_of_none (by simpa [IsCut, occursIn, toChars] using h)
  | action before inside rest ih =>
    obtain ⟨hopening, hclosing, hrest⟩ := h
    have hchars : toChars (.action before inside rest) =
        before ++ (opening ++ (inside ++ (closing ++ rest.toChars))) := by
      simp [toChars]
    rw [Source.ofChars_of_action (Text.cutAt?_eq_some_iff.2 ⟨hchars, hopening⟩)
      (cutAt?_splitDash_iff.2 ⟨inside, rfl, hclosing, rfl⟩), ih hrest, splitDash_append_closing]
    rfl

theorem exists_of_isClosed {cs : List Char} (h : (Source.ofChars cs).IsClosed) :
    ∃ layout : Layout, layout.toChars = cs ∧ layout.IsCut := by
  fun_induction Source.ofChars cs with
  | case1 cs hopening => exact ⟨.text cs, rfl, by rw [IsCut, occursIn, hopening]; rfl⟩
  | case2 cs before inside hopening hclosing => exact h.elim
  | case3 cs before inside hopening body rest hclosing _ ih =>
    obtain ⟨layout, rfl, hcut⟩ := ih h
    obtain ⟨hcs, hfirst⟩ := Text.cutAt?_eq_some_iff.1 hopening
    obtain ⟨inside, rfl, hinside, rfl⟩ := cutAt?_splitDash_iff.1 hclosing
    exact ⟨.action before inside layout, by simp [toChars, hcs], hfirst, hinside, hcut⟩

end Layout

/-- A template has items exactly if it can be taken apart into texts and actions that have them. -/
theorem items_eq_ok_iff (template : String) (found : List Item) :
    items template = .ok found ↔
      ∃ layout : Layout, layout.toChars = template.toList ∧ layout.IsCut ∧
        layout.Reads false found := by
  have hitems : items template = .ok found ↔
      (Source.ofChars template.toList).items? false = some found := by
    rw [← toOption_ofSource 0, toOption_eq_some_iff, items]
  rw [hitems]
  constructor
  · intro h
    obtain ⟨layout, hchars, hcut⟩ := Layout.exists_of_isClosed (isClosed_of_items? h)
    rw [← hchars, Layout.ofChars_toChars hcut] at h
    exact ⟨layout, hchars, hcut, (layout.items?_source false found).1 h⟩
  · rintro ⟨layout, hchars, hcut, hreads⟩
    rw [← hchars, Layout.ofChars_toChars hcut]
    exact (layout.items?_source false found).2 hreads

end RecipeRunner.Template
