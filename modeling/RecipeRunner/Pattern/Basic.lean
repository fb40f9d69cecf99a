import RecipeRunner.Pattern.CharSet
/-!
# Patterns

Regular expressions and where they match.  `ends` lists the places at which a match from a
given place can end, the preferred one first: of two alternatives the first is preferred, and a
repetition prefers to go on or to stop as it says.  No place is listed twice, so a repetition
visits each place once.
-/

namespace RecipeRunner

namespace Pattern

/-- A place in a text: what precedes it in reverse, and what follows. -/
structure Place where
  before : List Char
  after : List Char
  deriving DecidableEq, Repr

namespace Place

/-- The place at the start of a text. -/
def start (cs : List Char) : Place :=
  ⟨[], cs⟩

/-- The place behind the next character, if that is in a set. -/
def step? (s : CharSet) : Place → Option Place
  | ⟨_, []⟩ => none
  | ⟨before, c :: after⟩ => if s.contains c then some ⟨c :: before, after⟩ else none

end Place

/-- Conditions on the characters around a place. -/
inductive Boundary where
  | textStart
  | textEnd
  | lineStart
  | lineEnd
  /-- Behind the end of a line that may end with a carriage return, a line feed or both. -/
  | anyLineStart
  /-- Before the end of such a line. -/
  | anyLineEnd
  | wordEdge (word : CharSet)
  | noWordEdge (word : CharSet)
  | wordStart (word : CharSet)
  | wordEnd (word : CharSet)
  | halfStart (word : CharSet)
  | halfEnd (word : CharSet)

/-- Whether a condition holds at a place. -/
def Boundary.holds (b : Boundary) (p : Place) : Bool :=
  let previous := p.before.head?
  let next := p.after.head?
  let wordBefore (w : CharSet) := previous.any w.contains
  let wordAfter (w : CharSet) := next.any w.contains
  match b with
  | textStart => previous.isNone
  | textEnd => next.isNone
  | lineStart => previous.all (· = '\n')
  | lineEnd => next.all (· = '\n')
  | anyLineStart => previous.all fun c => c = '\n' || (c = '\r' && next != some '\n')
  | anyLineEnd => next.all fun c => c = '\r' || (c = '\n' && previous != some '\r')
  | wordEdge w => wordBefore w != wordAfter w
  | noWordEdge w => wordBefore w == wordAfter w
  | wordStart w => !wordBefore w && wordAfter w
  | wordEnd w => wordBefore w && !wordAfter w
  | halfStart w => !wordBefore w
  | halfEnd w => !wordAfter w

end Pattern

/-- A regular expression. -/
inductive Pattern where
  | empty
  | one (s : CharSet)
  | boundary (b : Pattern.Boundary)
  | seq (a b : Pattern)
  | alt (a b : Pattern)
  /-- `least` repetitions and then up to `further` ones, or any number of them: as many as
  possible if greedy, otherwise as few. -/
  | repeated (greedy : Bool) (least : Nat) (further : Option Nat) (a : Pattern)
  deriving Inhabited

namespace Pattern

/-- Sequences of several patterns. -/
def seqs (ps : List Pattern) : Pattern :=
  ps.foldr seq empty

/-- A text, each character as it is. -/
def literal (s : String) : Pattern :=
  seqs (s.toList.map fun c => one (CharSet.single c))

/-- As many repetitions as possible, or none. -/
def star (a : Pattern) : Pattern :=
  repeated true 0 none a

/-- As many repetitions as possible, and so many at least. -/
def atLeast (least : Nat) (a : Pattern) : Pattern :=
  repeated true least none a

/-- Adds places that are not listed yet at the end of a list in reverse. -/
def addNew (seen : List Place) (places : List Place) : List Place :=
  places.foldl (fun seen p => if seen.any (·.after.length = p.after.length) then seen
    else p :: seen) seen

/-- The places that a step reaches from several places. -/
def stepAll (step : Place → List Place) (places : List Place) : List Place :=
  (places.foldl (fun seen p => addNew seen (step p)) []).reverse

/-- The places reached by as many steps. -/
def times (step : Place → List Place) : Nat → List Place → List Place
  | 0, places => places
  | n + 1, places => times step n (stepAll step places)

/-- The places reached by repetition of a step, in reverse order of preference.  Each step that
counts leaves fewer characters, so `fuel` above their number is enough. -/
def explore (greedy : Bool) (step : Place → List Place) :
    (fuel : Nat) → (seen : List Place) → Place → List Place
  | 0, seen, _ => seen
  | fuel + 1, seen, p =>
    if seen.any (·.after.length = p.after.length) then seen
    else
      let further := (step p).filter (·.after.length < p.after.length)
      if greedy then p :: further.foldl (explore greedy step fuel) seen
      else further.foldl (explore greedy step fuel) (p :: seen)

/-- The places reached by a step at most so often, in order of preference. -/
def atMost (greedy : Bool) (step : Place → List Place) : Nat → Place → List Place
  | 0, p => [p]
  | n + 1, p =>
    let further := stepAll (atMost greedy step n) (step p)
    (if greedy then addNew (addNew [] further) [p] else addNew [p] further).reverse

/-- The places at which a match from a place can end, the preferred one first. -/
def ends : Pattern → Place → List Place
  | empty, p => [p]
  | one s, p => (p.step? s).toList
  | boundary b, p => if b.holds p then [p] else []
  | seq a b, p => stepAll b.ends (a.ends p)
  | alt a b, p => (addNew (addNew [] (a.ends p)) (b.ends p)).reverse
  | repeated greedy least further a, p =>
    let tail (p : Place) : List Place :=
      match further with
      | none => (explore greedy a.ends (p.after.length + 1) [] p).reverse
      | some n => atMost greedy a.ends n p
    stepAll tail (times a.ends least [p])

/-- The end of the preferred match from a place. -/
def matchAt? (pattern : Pattern) (p : Place) : Option Place :=
  (pattern.ends p).head?

/-- Replaces the leftmost matches that do not overlap; `skip` characters belong to the last
match.  Matches of nothing are left alone. -/
def replaceFrom (pattern : Pattern) (substitute : List Char) :
    (skip : Nat) → (before : List Char) → List Char → List Char
  | _, _, [] => []
  | skip + 1, before, c :: rest => replaceFrom pattern substitute skip (c :: before) rest
  | 0, before, c :: rest =>
    match pattern.matchAt? ⟨before, c :: rest⟩ with
    | some q =>
      let length := (c :: rest).length - q.after.length
      if length = 0 then c :: replaceFrom pattern substitute 0 (c :: before) rest
      else substitute ++ replaceFrom pattern substitute (length - 1) (c :: before) rest
    | none => c :: replaceFrom pattern substitute 0 (c :: before) rest

/-- Replaces every match of a pattern in a text. -/
def replaceIn (pattern : Pattern) (substitute cs : List Char) : List Char :=
  replaceFrom pattern substitute 0 [] cs

end Pattern

end RecipeRunner
