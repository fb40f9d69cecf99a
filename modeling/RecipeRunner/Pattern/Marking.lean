import RecipeRunner.Pattern.Basic
/-!
# Markings

Whether a pattern matches somewhere in a text, without the preferences among matches.  A marking
says for each place of the text whether it is reached; a pattern takes the marking of the places
at which it starts to that of the places at which it ends, all of them at once, so no place is
visited twice for the same part of the pattern.
-/

namespace RecipeRunner.Pattern

/-- For each place of a text from its start on whether it is marked. -/
abbrev Marking := List Bool

namespace Marking

/-- The places of a text from a place on. -/
def placesFrom (before : List Char) : List Char → List Place
  | [] => [⟨before, []⟩]
  | c :: rest => ⟨before, c :: rest⟩ :: placesFrom (c :: before) rest

/-- The places that are marked in one of two markings. -/
def union (m n : Marking) : Marking :=
  m.zipWith (· || ·) n

/-- The places that are marked in the first marking only. -/
def diff (m n : Marking) : Marking :=
  m.zipWith (fun a b => a && !b) n

/-- The places behind the marked characters that are in a set. -/
def advance (s : CharSet) (cs : List Char) (m : Marking) : Marking :=
  false :: cs.zipWith (fun c marked => marked && s.contains c) m

/-- The marked places at which a condition holds. -/
def guard (b : Boundary) (places : List Place) (m : Marking) : Marking :=
  places.zipWith (fun p marked => marked && b.holds p) m

/-- Takes a step so often, or until it changes nothing any more. -/
def iterate (step : Marking → Marking) : Nat → Marking → Marking
  | 0, m => m
  | n + 1, m =>
    let next := step m
    if next = m then m else iterate step n next

/-- Takes a step from the places that are new, so often at most. -/
def close (step : Marking → Marking) : (steps : Nat) → (reached fresh : Marking) → Marking
  | 0, reached, _ => reached
  | steps + 1, reached, fresh =>
    let further := diff (step fresh) reached
    if further.contains true then close step steps (union reached further) further else reached

end Marking

/-- A pattern that matches the same texts, in which no endless repetition stands directly in
another one. -/
def flattened : Pattern → Pattern
  | seq a b => seq a.flattened b.flattened
  | alt a b => alt a.flattened b.flattened
  | repeated greedy least further a =>
    match least, further, a.flattened with
    | 0, none, repeated _ 0 none b | 0, none, repeated _ 1 none b
    | 1, none, repeated _ 0 none b => repeated greedy 0 none b
    | 1, none, repeated _ 1 none b => repeated greedy 1 none b
    | least, further, a => repeated greedy least further a
  | p => p

/-- The places at which matches end that start at marked places of a text. -/
def mark (cs : List Char) (places : List Place) : Pattern → Marking → Marking
  | empty, m => m
  | one s, m => m.advance s cs
  | boundary b, m => m.guard b places
  | seq a b, m => mark cs places b (mark cs places a m)
  | alt a b, m => (mark cs places a m).union (mark cs places b m)
  | repeated _ least further a, m =>
    let step := mark cs places a
    let start := Marking.iterate step least m
    Marking.close step (further.getD places.length) start start

/-- Whether a pattern matches somewhere in a text. -/
def occursIn (pattern : Pattern) (cs : List Char) : Bool :=
  let places := Marking.placesFrom [] cs
  (mark cs places pattern.flattened (places.map fun _ => true)).contains true

end RecipeRunner.Pattern
