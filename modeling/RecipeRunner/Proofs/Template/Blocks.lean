import RecipeRunner.Proofs.Except
import RecipeRunner.Proofs.Template.Grammar
/-!
# The grammar of blocks

An action with a keyword in front begins a block, goes on with its next part or ends it; all other
items stand for themselves.  The reader keeps the blocks that are open on a stack.  It gives nodes
exactly if the items are those of the nodes, part by part.  Only an `else` with nothing behind it
leaves no trace.

* `Node.Complete`: the nodes that items can write.
* `Node.Spelled`, `SpelledAll`: the items of nodes.
* `step`, `read_append_eq`: the reader, one item after the other.
* `Opened.step`, `Complete.isTaken`: what one item does, and what the items of a node do.
* `Misplaced`: actions of blocks where they cannot stand.
* `ofItems_grammar`: the items of complete nodes are read, and nothing else is.
-/

namespace RecipeRunner.Template

namespace Node

/-! ## Actions -/

namespace Directive

/-- The tokens of an action. -/
def tokens : Directive → List Token
  | emit p => p.tokens
  | beginIf p => .word "if" :: p.tokens
  | beginRange p => .word "range" :: p.tokens
  | elseIf p => .word "else" :: .word "if" :: p.tokens
  | otherwise => [.word "else"]
  | close => [.word "end"]

/-- Actions that tokens can write: a keyword in front is the one of the action. -/
def Complete : Directive → Prop
  | emit p => p.Complete ∧ p.startsWithKeyword = false
  | beginIf p | beginRange p | elseIf p => p.Complete
  | otherwise | close => True

theorem ofTokens_emit {p : Pipeline} (h : p.Complete) (hkeyword : p.startsWithKeyword = false) :
    ofTokens p.tokens = .ok (.emit p) := by
  have hhead : ∀ name ∈ Pipeline.keywords, p.tokens.head? ≠ some (.word name) := by
    intro name hname hhead
    rw [h.startsWithKeyword_iff.2 ⟨name, hname, hhead⟩] at hkeyword
    cases hkeyword
  have hread := Pipeline.ofTokens_tokens h
  generalize p.tokens = tokens at hhead hread
  unfold ofTokens
  split
  · exact absurd rfl (hhead "end" (by decide))
  · exact absurd rfl (hhead "end" (by decide))
  · exact absurd rfl (hhead "else" (by decide))
  · exact absurd rfl (hhead "else" (by decide))
  · exact absurd rfl (hhead "else" (by decide))
  · exact absurd rfl (hhead "if" (by decide))
  · exact absurd rfl (hhead "range" (by decide))
  · rw [hread]
    rfl

/-- An action is read from its tokens. -/
theorem Complete.ofTokens_tokens {d : Directive} (h : d.Complete) : ofTokens d.tokens = .ok d := by
  cases d with
  | emit p => exact ofTokens_emit h.1 h.2
  | beginIf p => exact congrArg (Except.map beginIf) (Pipeline.ofTokens_tokens h)
  | beginRange p => exact congrArg (Except.map beginRange) (Pipeline.ofTokens_tokens h)
  | elseIf p => exact congrArg (Except.map elseIf) (Pipeline.ofTokens_tokens h)
  | otherwise => rfl
  | close => rfl

theorem complete_of_map {f : Pipeline → Directive} {tokens : List Token} {d : Directive}
    (h : (Pipeline.ofTokens tokens).map f = .ok d) :
    ∃ p : Pipeline, p.Complete ∧ tokens = p.tokens ∧ f p = d := by
  match hp : Pipeline.ofTokens tokens with
  | .ok p =>
    rw [hp] at h
    obtain ⟨hcomplete, htokens⟩ := Pipeline.complete_of_ofTokens hp
    exact ⟨p, hcomplete, htokens, Except.ok.inj h⟩
  | .error fault =>
    rw [hp] at h
    cases h

/-- Nothing else is read as an action. -/
theorem complete_of_ofTokens {tokens : List Token} {d : Directive}
    (h : ofTokens tokens = .ok d) : d.Complete ∧ tokens = d.tokens := by
  unfold ofTokens at h
  split at h
  case h_1 => cases h; exact ⟨trivial, rfl⟩
  case h_2 => cases h
  case h_3 => cases h; exact ⟨trivial, rfl⟩
  case h_4 | h_6 | h_7 =>
    obtain ⟨p, hcomplete, rfl, rfl⟩ := complete_of_map h
    exact ⟨hcomplete, rfl⟩
  case h_5 => cases h
  case h_8 tokens hend hends helse helseIf helses hif hrange =>
    obtain ⟨p, hcomplete, rfl, rfl⟩ := complete_of_map h
    refine ⟨⟨hcomplete, ?_⟩, rfl⟩
    rw [← Bool.not_eq_true, hcomplete.startsWithKeyword_iff]
    rintro ⟨name, hname, hhead⟩
    obtain ⟨rest, hrest⟩ := List.head?_eq_some_iff.1 hhead
    simp only [Pipeline.keywords, List.mem_cons, List.not_mem_nil, or_false] at hname
    rcases hname with rfl | rfl | rfl | rfl
    · exact hif rest hrest
    · exact helses rest hrest
    · exact hends rest hrest
    · exact hrange rest hrest

end Directive

/-! ## Nodes that items can write -/

/-- Nodes that items can write: pipelines without gaps, no action that starts like one of a block,
and one branch or more in every choice. -/
inductive Complete : Node → Prop
  | text (t : String) : Complete (.text t)
  | action {p : Pipeline} (h : p.Complete) (hkeyword : p.startsWithKeyword = false) :
      Complete (.action p)
  | choice {branches : List (Pipeline × List Node)} {otherwise : List Node}
      (hbranches : branches ≠ [])
      (hconditions : ∀ branch ∈ branches, branch.1.Complete)
      (hbodies : ∀ branch ∈ branches, ∀ node ∈ branch.2, Complete node)
      (hotherwise : ∀ node ∈ otherwise, Complete node) :
      Complete (.choice branches otherwise)
  | range {p : Pipeline} {body otherwise : List Node} (h : p.Complete)
      (hbody : ∀ node ∈ body, Complete node) (hotherwise : ∀ node ∈ otherwise, Complete node) :
      Complete (.range p body otherwise)

mutual

/-- The items of a node. -/
inductive Spelled : Node → List Item → Prop
  | text (t : String) : Spelled (.text t) [.text t]
  | action (p : Pipeline) : Spelled (.action p) [.action p.tokens]
  | choice {branches : List (Pipeline × List Node)} {otherwise : List Node} {xs ys : List Item}
      (hbranches : SpelledBranches [.word "if"] branches xs)
      (hotherwise : SpelledOtherwise otherwise ys) :
      Spelled (.choice branches otherwise) (xs ++ (ys ++ [.action [.word "end"]]))
  | range (p : Pipeline) {body otherwise : List Node} {xs ys : List Item}
      (hbody : SpelledAll body xs) (hotherwise : SpelledOtherwise otherwise ys) :
      Spelled (.range p body otherwise)
        (.action (.word "range" :: p.tokens) :: (xs ++ (ys ++ [.action [.word "end"]])))

/-- The items of branches, of which the first starts with the words `lead`. -/
inductive SpelledBranches : List Token → List (Pipeline × List Node) → List Item → Prop
  | nil (lead : List Token) : SpelledBranches lead [] []
  | cons (lead : List Token) (p : Pipeline) {body : List Node}
      {rest : List (Pipeline × List Node)} {xs ys : List Item} (hbody : SpelledAll body xs)
      (hrest : SpelledBranches [.word "else", .word "if"] rest ys) :
      SpelledBranches lead ((p, body) :: rest) (.action (lead ++ p.tokens) :: (xs ++ ys))

/-- The items of what stands for no branch and no element.  If there is nothing, the `else` may be
written or left out. -/
inductive SpelledOtherwise : List Node → List Item → Prop
  | absent : SpelledOtherwise [] []
  | present {nodes : List Node} {xs : List Item} (h : SpelledAll nodes xs) :
      SpelledOtherwise nodes (.action [.word "else"] :: xs)

/-- The items of nodes in a row. -/
inductive SpelledAll : List Node → List Item → Prop
  | nil : SpelledAll [] []
  | cons {node : Node} {nodes : List Node} {xs ys : List Item} (h : Spelled node xs)
      (hrest : SpelledAll nodes ys) : SpelledAll (node :: nodes) (xs ++ ys)

end

/-- The items of complete nodes. -/
structure Writes (xs : List Item) (nodes : List Node) : Prop where
  complete : ∀ node ∈ nodes, node.Complete
  spelled : SpelledAll nodes xs

theorem SpelledAll.append {front back : List Node} {xs ys : List Item}
    (hfront : SpelledAll front xs) (hback : SpelledAll back ys) :
    SpelledAll (front ++ back) (xs ++ ys) := by
  induction front generalizing xs with
  | nil => cases hfront; exact hback
  | cons node front ih =>
    cases hfront with
    | cons h hrest =>
      rw [List.append_assoc]
      exact .cons h (ih hrest)

theorem spelledAll_singleton {node : Node} {xs : List Item} (h : Spelled node xs) :
    SpelledAll [node] xs := by
  have := SpelledAll.cons h .nil
  rwa [List.append_nil] at this

theorem writes_nil : Writes [] [] :=
  ⟨nofun, .nil⟩

theorem Writes.concat {xs ys : List Item} {nodes : List Node} {node : Node} (h : Writes xs nodes)
    (hcomplete : node.Complete) (hspelled : Spelled node ys) :
    Writes (xs ++ ys) (nodes ++ [node]) := by
  refine ⟨fun n hn => ?_, h.spelled.append (spelledAll_singleton hspelled)⟩
  rcases List.mem_append.1 hn with hn | hn
  · exact h.complete n hn
  · obtain rfl := List.mem_singleton.1 hn
    exact hcomplete

/-- A branch that has just begun is put behind others. -/
theorem SpelledBranches.concat {branches : List (Pipeline × List Node)} (hne : branches ≠ [])
    {lead : List Token} {xs : List Item} (h : SpelledBranches lead branches xs) (p : Pipeline) :
    SpelledBranches lead (branches ++ [(p, [])])
      (xs ++ [.action (.word "else" :: .word "if" :: p.tokens)]) := by
  induction branches generalizing lead xs with
  | nil => exact absurd rfl hne
  | cons branch branches ih =>
    cases h with
    | cons _ q hbody hrest =>
      rw [List.cons_append, List.cons_append, List.append_assoc]
      refine .cons lead q hbody ?_
      by_cases hbranches : branches = []
      · subst hbranches
        cases hrest
        exact .cons [.word "else", .word "if"] p .nil (.nil _)
      · exact ih hbranches hrest

/-- The body of the last branch is put behind the branches. -/
theorem SpelledBranches.fill {branches : List (Pipeline × List Node)} {p : Pipeline}
    {lead : List Token} {xs : List Item} (h : SpelledBranches lead (branches ++ [(p, [])]) xs)
    {body : List Node} {ys : List Item} (hbody : SpelledAll body ys) :
    SpelledBranches lead (branches ++ [(p, body)]) (xs ++ ys) := by
  induction branches generalizing lead xs with
  | nil =>
    cases h with
    | cons _ _ hempty hrest =>
      cases hempty
      cases hrest
      have := SpelledBranches.cons lead p hbody (.nil [.word "else", .word "if"])
      rwa [List.append_nil] at this
  | cons branch branches ih =>
    cases h with
    | cons _ q hfirst hrest =>
      rw [List.cons_append, List.cons_append, List.append_assoc]
      exact .cons lead q hfirst (ih hrest)

/-! ## One item after the other -/

namespace Block

/-- The node that a block comes to when `nodes` are its last part. -/
def close : Block → List Node → Node
  | branch done condition, nodes => .choice ((condition, nodes) :: done).reverse []
  | afterBranches branches, nodes => .choice branches nodes
  | body p, nodes => .range p nodes []
  | afterBody p before, nodes => .range p before nodes

/-- A block behind an `else if`, where `nodes` are the part before it. -/
def elseIf : Block → List Node → Pipeline → Except SyntaxFault Block
  | branch done condition, nodes, p => .ok (branch ((condition, nodes) :: done) p)
  | body _, _, _ => .error .elseIfInRange
  | afterBranches _, _, _ | afterBody .., _, _ => .error .missingEnd

/-- A block behind an `else`, where `nodes` are the part before it. -/
def otherwise : Block → List Node → Except SyntaxFault Block
  | branch done condition, nodes => .ok (afterBranches ((condition, nodes) :: done).reverse)
  | body p, nodes => .ok (afterBody p nodes)
  | afterBranches _, _ | afterBody .., _ => .error .missingEnd

end Block

/-- The blocks that are open, each with the nodes before it, and the nodes of the part that is being
read. -/
abbrev State := List (Block × List Node) × List Node

/-- What an action does to what is open. -/
def obey : State → Directive → Except SyntaxFault State
  | (outer, nodes), .emit p => .ok (outer, .action p :: nodes)
  | (outer, nodes), .beginIf p => .ok ((.branch [] p, nodes) :: outer, [])
  | (outer, nodes), .beginRange p => .ok ((.body p, nodes) :: outer, [])
  | ([], _), .elseIf _ | ([], _), .otherwise => .error .strayElse
  | ((block, before) :: outer, nodes), .elseIf p =>
    (block.elseIf nodes.reverse p).map fun block => ((block, before) :: outer, [])
  | ((block, before) :: outer, nodes), .otherwise =>
    (block.otherwise nodes.reverse).map fun block => ((block, before) :: outer, [])
  | ([], _), .close => .error .strayEnd
  | ((block, before) :: outer, nodes), .close => .ok (outer, block.close nodes.reverse :: before)

/-- What an item does to what is open. -/
def step (s : State) : Item → Except SyntaxFault State
  | .text t => .ok (s.1, .text t :: s.2)
  | .action tokens => Directive.ofTokens tokens >>= obey s

theorem read_cons (s : State) (item : Item) (rest : List Item) :
    read s.1 s.2 (item :: rest) = step s item >>= fun next => read next.1 next.2 rest := by
  obtain ⟨outer, nodes⟩ := s
  cases item with
  | text t => rfl
  | action tokens =>
    cases hd : Directive.ofTokens tokens with
    | error fault => simp only [step, read, hd]; rfl
    | ok d =>
      cases d <;> simp only [step, read, hd] <;> try rfl
      all_goals
        cases outer with
        | nil => rfl
        | cons entry outer =>
          obtain ⟨block, before⟩ := entry
          cases block <;> rfl

/-- Items in a row are read one after the other. -/
theorem read_append_eq (s : State) (xs ys : List Item) :
    read s.1 s.2 (xs ++ ys) = xs.foldlM step s >>= fun next => read next.1 next.2 ys := by
  induction xs generalizing s with
  | nil => rfl
  | cons x xs ih =>
    rw [List.cons_append, read_cons, List.foldlM_cons, bind_assoc]
    congr 1
    funext next
    exact ih next

theorem read_nil_eq_ok {s : State} {found : List Node} (h : read s.1 s.2 [] = .ok found) :
    s = ([], found.reverse) := by
  obtain ⟨outer, nodes⟩ := s
  cases outer with
  | nil =>
    obtain rfl := Except.ok.inj h
    rw [List.reverse_reverse]
  | cons entry outer =>
    obtain ⟨block, before⟩ := entry
    cases block <;> cases h

/-! ## What is read -/

/-- Branches without gaps. -/
structure BranchesComplete (branches : List (Pipeline × List Node)) : Prop where
  condition : ∀ branch ∈ branches, branch.1.Complete
  body : ∀ branch ∈ branches, ∀ node ∈ branch.2, node.Complete

theorem branchesComplete_append {front back : List (Pipeline × List Node)} :
    BranchesComplete (front ++ back) ↔ BranchesComplete front ∧ BranchesComplete back := by
  constructor
  · intro h
    obtain ⟨hfront, hback⟩ := List.forall_mem_append.1 h.condition
    obtain ⟨hfront', hback'⟩ := List.forall_mem_append.1 h.body
    exact ⟨⟨hfront, hfront'⟩, ⟨hback, hback'⟩⟩
  · rintro ⟨hfront, hback⟩
    exact ⟨List.forall_mem_append.2 ⟨hfront.condition, hback.condition⟩,
      List.forall_mem_append.2 ⟨hfront.body, hback.body⟩⟩

theorem branchesComplete_singleton {p : Pipeline} {nodes : List Node} :
    BranchesComplete [(p, nodes)] ↔ p.Complete ∧ ∀ node ∈ nodes, node.Complete :=
  ⟨fun h => ⟨h.condition _ List.mem_cons_self, h.body _ List.mem_cons_self⟩,
    fun h => ⟨List.forall_mem_singleton.2 h.1, List.forall_mem_singleton.2 h.2⟩⟩

/-- The items of a block up to the part that is being read. -/
inductive BlockWritten : Block → List Item → Prop
  | branch {done : List (Pipeline × List Node)} {condition : Pipeline} {xs : List Item}
      (hcomplete : BranchesComplete (done.reverse ++ [(condition, [])]))
      (h : SpelledBranches [.word "if"] (done.reverse ++ [(condition, [])]) xs) :
      BlockWritten (.branch done condition) xs
  | afterBranches {branches : List (Pipeline × List Node)} {xs : List Item} (hne : branches ≠ [])
      (hcomplete : BranchesComplete branches) (h : SpelledBranches [.word "if"] branches xs) :
      BlockWritten (.afterBranches branches) (xs ++ [.action [.word "else"]])
  | body {p : Pipeline} (hp : p.Complete) :
      BlockWritten (.body p) [.action (.word "range" :: p.tokens)]
  | afterBody {p : Pipeline} {body : List Node} {xs : List Item} (hp : p.Complete)
      (hbody : Writes xs body) : BlockWritten (.afterBody p body)
        (.action (.word "range" :: p.tokens) :: (xs ++ [.action [.word "else"]]))

namespace BlockWritten

variable {block next : Block} {nodes : List Node} {xs ys : List Item}

/-- The branches of a block with the nodes of the last one. -/
theorem fill {done : List (Pipeline × List Node)} {condition : Pipeline}
    (h : BlockWritten (.branch done condition) xs) (hnodes : Writes ys nodes) :
    BranchesComplete (done.reverse ++ [(condition, nodes)]) ∧
      SpelledBranches [.word "if"] (done.reverse ++ [(condition, nodes)]) (xs ++ ys) := by
  cases h with
  | branch hcomplete h =>
    obtain ⟨hdone, hcondition⟩ := branchesComplete_append.1 hcomplete
    have hlast := branchesComplete_singleton.2
      ⟨(branchesComplete_singleton.1 hcondition).1, hnodes.complete⟩
    exact ⟨branchesComplete_append.2 ⟨hdone, hlast⟩, h.fill hnodes.spelled⟩

theorem elseIf (h : BlockWritten block xs) (hnodes : Writes ys nodes) {p : Pipeline}
    (hp : p.Complete) (hnext : block.elseIf nodes p = .ok next) :
    BlockWritten next (xs ++ (ys ++ [.action (.word "else" :: .word "if" :: p.tokens)])) := by
  cases block with
  | branch done condition =>
    obtain rfl := Except.ok.inj hnext
    obtain ⟨hcomplete, hspelled⟩ := h.fill hnodes
    have hp : BranchesComplete [(p, [])] := branchesComplete_singleton.2 ⟨hp, nofun⟩
    rw [← List.append_assoc]
    refine .branch ?_ ?_ <;> rw [List.reverse_cons]
    · exact branchesComplete_append.2 ⟨hcomplete, hp⟩
    · exact hspelled.concat (by simp) p
  | body | afterBranches | afterBody => cases hnext

theorem otherwise (h : BlockWritten block xs) (hnodes : Writes ys nodes)
    (hnext : block.otherwise nodes = .ok next) :
    BlockWritten next (xs ++ (ys ++ [.action [.word "else"]])) := by
  cases block with
  | branch done condition =>
    obtain rfl := Except.ok.inj hnext
    obtain ⟨hcomplete, hspelled⟩ := h.fill hnodes
    rw [← List.append_assoc, List.reverse_cons]
    exact .afterBranches (by simp) hcomplete hspelled
  | body p =>
    obtain rfl := Except.ok.inj hnext
    cases h with
    | body hp => exact .afterBody hp hnodes
  | afterBranches | afterBody => cases hnext

theorem close (h : BlockWritten block xs) (hnodes : Writes ys nodes) :
    (block.close nodes).Complete ∧
      Spelled (block.close nodes) (xs ++ (ys ++ [.action [.word "end"]])) := by
  cases block with
  | branch done condition =>
    obtain ⟨hcomplete, hspelled⟩ := h.fill hnodes
    rw [Block.close, List.reverse_cons]
    have hspelled := Spelled.choice hspelled .absent
    rw [List.nil_append, List.append_assoc] at hspelled
    exact ⟨.choice (by simp) hcomplete.condition hcomplete.body nofun, hspelled⟩
  | afterBranches branches =>
    cases h with
    | afterBranches hne hcomplete h =>
      have hspelled := Spelled.choice h (.present hnodes.spelled)
      rw [List.append_assoc]
      exact ⟨.choice hne hcomplete.condition hcomplete.body hnodes.complete, hspelled⟩
  | body p =>
    cases h with
    | body hp =>
      have hspelled := Spelled.range p hnodes.spelled .absent
      exact ⟨.range hp hnodes.complete nofun, hspelled⟩
  | afterBody p before =>
    cases h with
    | afterBody hp hbody =>
      have hspelled := Spelled.range p hbody.spelled (.present hnodes.spelled)
      rw [List.cons_append, List.append_assoc]
      exact ⟨.range hp hbody.complete hnodes.complete, hspelled⟩

end BlockWritten

/-- The items that lead to what is open. -/
inductive Opened : State → List Item → Prop
  | bottom {nodes : List Node} {xs : List Item} (h : Writes xs nodes.reverse) :
      Opened ([], nodes) xs
  | inside {outer : List (Block × List Node)} {block : Block} {before nodes : List Node}
      {xs ys zs : List Item} (houter : Opened (outer, before) xs) (hblock : BlockWritten block ys)
      (hnodes : Writes zs nodes.reverse) :
      Opened ((block, before) :: outer, nodes) (xs ++ (ys ++ zs))

namespace Opened

variable {outer : List (Block × List Node)} {nodes : List Node} {xs ys : List Item}

theorem put (h : Opened (outer, nodes) xs) {node : Node} (hcomplete : node.Complete)
    (hspelled : Spelled node ys) : Opened (outer, node :: nodes) (xs ++ ys) := by
  cases h with
  | bottom h =>
    refine .bottom ?_
    rw [List.reverse_cons]
    exact h.concat hcomplete hspelled
  | inside houter hblock hnodes =>
    rw [List.append_assoc, List.append_assoc]
    refine .inside houter hblock ?_
    rw [List.reverse_cons]
    exact hnodes.concat hcomplete hspelled

theorem enter (h : Opened (outer, nodes) xs) {block : Block} (hblock : BlockWritten block ys) :
    Opened ((block, nodes) :: outer, []) (xs ++ ys) := by
  have hempty : Writes [] ([] : List Node).reverse := writes_nil
  have := Opened.inside h hblock hempty
  rwa [List.append_nil] at this

/-- What an action does to what is open, its tokens do to the items. -/
theorem obey {s next : State} (h : Opened s xs) {d : Directive} (hd : d.Complete)
    (hnext : obey s d = .ok next) : Opened next (xs ++ [.action d.tokens]) := by
  obtain ⟨outer, nodes⟩ := s
  cases d with
  | emit p =>
    obtain rfl := Except.ok.inj hnext
    exact h.put (.action hd.1 hd.2) (.action p)
  | beginIf p =>
    obtain rfl := Except.ok.inj hnext
    refine h.enter (.branch ?_ (.cons [.word "if"] p .nil (.nil _)))
    exact branchesComplete_singleton.2 ⟨hd, nofun⟩
  | beginRange p =>
    obtain rfl := Except.ok.inj hnext
    exact h.enter (.body hd)
  | elseIf p =>
    cases h with
    | bottom => cases hnext
    | inside houter hblock hnodes =>
      obtain ⟨block, hblock', rfl⟩ := map_eq_ok.1 hnext
      rw [List.append_assoc, List.append_assoc]
      exact houter.enter (hblock.elseIf hnodes hd hblock')
  | otherwise =>
    cases h with
    | bottom => cases hnext
    | inside houter hblock hnodes =>
      obtain ⟨block, hblock', rfl⟩ := map_eq_ok.1 hnext
      rw [List.append_assoc, List.append_assoc]
      exact houter.enter (hblock.otherwise hnodes hblock')
  | close =>
    cases h with
    | bottom => cases hnext
    | inside houter hblock hnodes =>
      obtain rfl := Except.ok.inj hnext
      obtain ⟨hcomplete, hspelled⟩ := hblock.close hnodes
      rw [List.append_assoc, List.append_assoc]
      exact houter.put hcomplete hspelled

theorem step {s next : State} (h : Opened s xs) {item : Item} (hnext : step s item = .ok next) :
    Opened next (xs ++ [item]) := by
  cases item with
  | text t =>
    obtain rfl := Except.ok.inj hnext
    exact h.put (.text t) (.text t)
  | action tokens =>
    obtain ⟨d, hd, hobey⟩ := bind_eq_ok.1 hnext
    obtain ⟨hcomplete, rfl⟩ := Directive.complete_of_ofTokens hd
    exact h.obey hcomplete hobey

end Opened

/-- The items that are read are those of the nodes they give. -/
theorem writes_of_read {s : State} {xs rest : List Item} {found : List Node} (h : Opened s xs)
    (hread : read s.1 s.2 rest = .ok found) : Writes (xs ++ rest) found := by
  induction rest generalizing s xs with
  | nil =>
    obtain rfl := read_nil_eq_ok hread
    cases h with
    | bottom h => rwa [List.append_nil, ← List.reverse_reverse found]
  | cons item rest ih =>
    rw [read_cons] at hread
    obtain ⟨next, hnext, hread⟩ := bind_eq_ok.1 hread
    have := ih (h.step hnext) hread
    rwa [List.append_assoc, List.singleton_append] at this

/-! ## What is written is read -/

/-- The items of a node put it behind the nodes of the part that is being read. -/
def IsTaken (node : Node) : Prop :=
  ∀ xs, Spelled node xs → ∀ outer before rest,
    read outer before (xs ++ rest) = read outer (node :: before) rest

section

variable {nodes otherwise : List Node} {xs ys : List Item} (outer : List (Block × List Node))
  (before : List Node)

theorem read_directive {d : Directive} (h : d.Complete) {s next : State}
    (hnext : obey s d = .ok next) (rest : List Item) :
    read s.1 s.2 (.action d.tokens :: rest) = read next.1 next.2 rest := by
  rw [read_cons, step, h.ofTokens_tokens]
  change (obey s d >>= fun next => read next.1 next.2 rest) = _
  rw [hnext]
  rfl

theorem read_spelledAll (h : ∀ node ∈ nodes, IsTaken node) (hxs : SpelledAll nodes xs)
    (rest : List Item) :
    read outer before (xs ++ rest) = read outer (nodes.reverse ++ before) rest := by
  induction nodes generalizing xs before with
  | nil => cases hxs; rfl
  | cons node nodes ih =>
    cases hxs with
    | cons hnode hrest =>
      rw [List.append_assoc, h node List.mem_cons_self _ hnode,
        ih (node :: before) (fun n hn => h n (List.mem_cons_of_mem node hn)) hrest]
      simp

theorem read_end (block : Block) (nodes : List Node) (rest : List Item) :
    read ((block, before) :: outer) nodes (.action [.word "end"] :: rest) =
      read outer (block.close nodes.reverse :: before) rest :=
  read_directive (d := .close) trivial (s := ((block, before) :: outer, nodes)) rfl rest

/-- The end of a block, possibly with what stands for no branch or no element. -/
theorem read_spelledOtherwise (h : ∀ node ∈ otherwise, IsTaken node)
    (hxs : SpelledOtherwise otherwise xs) {block next : Block} {nodes : List Node}
    (hnext : block.otherwise nodes.reverse = .ok next)
    (hclose : block.close nodes.reverse = next.close []) (rest : List Item) :
    read ((block, before) :: outer) nodes (xs ++ .action [.word "end"] :: rest) =
      read outer (next.close otherwise :: before) rest := by
  cases hxs with
  | absent => rw [List.nil_append, read_end, hclose]
  | @present _ ys hys =>
    have hobey : obey ((block, before) :: outer, nodes) .otherwise =
        .ok ((next, before) :: outer, []) := by
      rw [obey, hnext]
      rfl
    have helse := read_directive (d := .otherwise) trivial hobey
      (ys ++ .action [.word "end"] :: rest)
    refine helse.trans ?_
    rw [read_spelledAll _ _ h hys, read_end]
    simp

/-- The further branches of a choice. -/
theorem exists_read_spelledBranches {branches : List (Pipeline × List Node)}
    (hconditions : ∀ branch ∈ branches, branch.1.Complete)
    (h : ∀ branch ∈ branches, ∀ node ∈ branch.2, IsTaken node)
    (hxs : SpelledBranches [.word "else", .word "if"] branches xs)
    (done : List (Pipeline × List Node)) (condition : Pipeline) (nodes : List Node) :
    ∃ done' condition' nodes', ((condition', nodes'.reverse) :: done').reverse =
        ((condition, nodes.reverse) :: done).reverse ++ branches ∧ ∀ rest,
      read ((.branch done condition, before) :: outer) nodes (xs ++ rest) =
        read ((.branch done' condition', before) :: outer) nodes' rest := by
  induction branches generalizing xs done condition nodes with
  | nil =>
    cases hxs
    exact ⟨done, condition, nodes, (List.append_nil _).symm, fun rest => rfl⟩
  | cons branch branches ih =>
    cases hxs with
    | @cons _ p body _ ys zs hbody hrest =>
      have hp : (Directive.elseIf p).Complete := hconditions (p, body) List.mem_cons_self
      have hbranch := h (p, body) List.mem_cons_self
      obtain ⟨done', condition', nodes', hreverse, hread⟩ :=
        ih (fun b hb => hconditions b (List.mem_cons_of_mem _ hb))
          (fun b hb => h b (List.mem_cons_of_mem _ hb)) hrest
          ((condition, nodes.reverse) :: done) p body.reverse
      refine ⟨done', condition', nodes', by simp [hreverse], fun rest => ?_⟩
      have helseIf := read_directive hp
        (s := ((.branch done condition, before) :: outer, nodes)) rfl (ys ++ (zs ++ rest))
      rw [List.cons_append, List.append_assoc]
      refine helseIf.trans ?_
      rw [read_spelledAll _ _ hbranch hbody, List.append_nil]
      exact hread rest

end

theorem Complete.isTaken {node : Node} (h : node.Complete) : IsTaken node := by
  induction h with
  | text t =>
    intro xs hxs outer before rest
    cases hxs
    rfl
  | @action p h hkeyword =>
    intro xs hxs outer before rest
    cases hxs
    exact read_directive (d := .emit p) ⟨h, hkeyword⟩ (s := (outer, before)) rfl rest
  | @choice branches otherwise hbranches hconditions _ _ ihBodies ihOtherwise =>
    intro xs hxs outer before rest
    obtain ⟨⟨condition, body⟩, branches, rfl⟩ := List.exists_cons_of_ne_nil hbranches
    cases hxs with
    | choice hspelled hotherwise =>
      cases hspelled with
      | @cons _ _ _ _ ys zs hbody hrest =>
        have hif : (Directive.beginIf condition).Complete :=
          hconditions (condition, body) List.mem_cons_self
        obtain ⟨done, condition', nodes, hreverse, hread⟩ :=
          exists_read_spelledBranches outer before
            (fun b hb => hconditions b (List.mem_cons_of_mem _ hb))
            (fun b hb => ihBodies b (List.mem_cons_of_mem _ hb)) hrest [] condition body.reverse
        have hbegin := read_directive hif (s := (outer, before)) rfl
        have hbranch := ihBodies (condition, body) List.mem_cons_self
        simp only [List.cons_append, List.append_assoc]
        refine (hbegin _).trans ?_
        rw [read_spelledAll _ _ hbranch hbody, List.append_nil, hread, List.nil_append,
          read_spelledOtherwise _ _ ihOtherwise hotherwise rfl rfl, Block.close, hreverse]
        simp
  | @range p body otherwise h _ _ ihBody ihOtherwise =>
    intro xs hxs outer before rest
    cases hxs with
    | @range _ _ _ ys zs hbody hotherwise =>
      have hrange : (Directive.beginRange p).Complete := h
      have hbegin := read_directive hrange (s := (outer, before)) rfl
        (ys ++ (zs ++ .action [.word "end"] :: rest))
      rw [List.cons_append, List.append_assoc, List.append_assoc, List.singleton_append]
      refine hbegin.trans ?_
      rw [read_spelledAll _ _ ihBody hbody, List.append_nil,
        read_spelledOtherwise _ _ ihOtherwise hotherwise rfl rfl, List.reverse_reverse]
      rfl

mutual

/-- The items of a node without any `else` that has nothing behind it. -/
theorem spelled_items : (node : Node) → Spelled node node.items
  | .text t => .text t
  | .action p => .action p
  | .choice branches otherwise =>
    .choice (spelledBranches_branchesItems _ branches) (spelledOtherwise_otherwiseItems otherwise)
  | .range p body otherwise =>
    .range p (spelledAll_listItems body) (spelledOtherwise_otherwiseItems otherwise)

theorem spelledBranches_branchesItems (lead : List Token) :
    (branches : List (Pipeline × List Node)) →
      SpelledBranches lead branches (branchesItems lead branches)
  | [] => .nil lead
  | (p, body) :: rest =>
    .cons lead p (spelledAll_listItems body) (spelledBranches_branchesItems _ rest)

theorem spelledOtherwise_otherwiseItems :
    (otherwise : List Node) → SpelledOtherwise otherwise (otherwiseItems otherwise)
  | [] => .absent
  | node :: rest => .present (.cons (spelled_items node) (spelledAll_listItems rest))

theorem spelledAll_listItems : (nodes : List Node) → SpelledAll nodes (listItems nodes)
  | [] => .nil
  | node :: rest => .cons (spelled_items node) (spelledAll_listItems rest)

end

theorem ofItems_of_writes {xs : List Item} {nodes : List Node} (h : Writes xs nodes) :
    ofItems xs = .ok nodes := by
  have hread := read_spelledAll [] [] (fun node hnode => (h.complete node hnode).isTaken)
    h.spelled []
  rw [List.append_nil, List.append_nil] at hread
  exact hread.trans (congrArg Except.ok (List.reverse_reverse nodes))

theorem writes_of_ofItems {xs : List Item} {nodes : List Node} (h : ofItems xs = .ok nodes) :
    Writes xs nodes :=
  writes_of_read (s := ([], [])) (.bottom writes_nil) h

/-! ## What is kept -/

mutual

/-- The texts and actions of a node. -/
def contents : Node → List Item
  | .text t => [.text t]
  | .action p => [.action p.tokens]
  | .choice branches otherwise => branchesContents branches ++ listContents otherwise
  | .range _ body otherwise => listContents body ++ listContents otherwise

/-- The texts and actions of branches, one branch after the other. -/
def branchesContents : List (Pipeline × List Node) → List Item
  | [] => []
  | (_, body) :: rest => listContents body ++ branchesContents rest

/-- The texts and actions of nodes in a row. -/
def listContents : List Node → List Item
  | [] => []
  | node :: rest => node.contents ++ listContents rest

end

/-- Whether an item is a text, or an action that does not belong to a block. -/
def isContent : Item → Bool
  | .action (.word name :: _) => !Pipeline.keywords.contains name
  | _ => true

theorem isContent_tokens {p : Pipeline} (h : p.Complete) (hkeyword : p.startsWithKeyword = false) :
    isContent (.action p.tokens) = true := by
  rw [← Bool.not_eq_true, h.startsWithKeyword_iff] at hkeyword
  unfold isContent
  split
  · next name rest heq =>
    have hhead : p.tokens.head? = some (.word name) := by rw [Item.action.inj heq]; rfl
    simpa using fun hname => hkeyword ⟨name, hname, hhead⟩
  · rfl

/-- The texts and actions among the items of a node are those of the node, in their order. -/
def KeepsContents (node : Node) : Prop :=
  ∀ xs, Spelled node xs → xs.filter isContent = node.contents

section

variable {nodes otherwise : List Node} {xs : List Item}

theorem filter_spelledAll (h : ∀ node ∈ nodes, KeepsContents node) (hxs : SpelledAll nodes xs) :
    xs.filter isContent = listContents nodes := by
  induction nodes generalizing xs with
  | nil => cases hxs; rfl
  | cons node nodes ih =>
    cases hxs with
    | cons hnode hrest =>
      rw [List.filter_append, h node List.mem_cons_self _ hnode,
        ih (fun n hn => h n (List.mem_cons_of_mem node hn)) hrest]
      rfl

theorem filter_spelledOtherwise (h : ∀ node ∈ otherwise, KeepsContents node)
    (hxs : SpelledOtherwise otherwise xs) : xs.filter isContent = listContents otherwise := by
  cases hxs with
  | absent => rfl
  | present hxs =>
    rw [List.filter_cons_of_neg (by simp [isContent, Pipeline.keywords])]
    exact filter_spelledAll h hxs

theorem filter_spelledBranches {lead : List Token} {branches : List (Pipeline × List Node)}
    (hlead : ∀ tokens, isContent (.action (lead ++ tokens)) = false)
    (h : ∀ branch ∈ branches, ∀ node ∈ branch.2, KeepsContents node)
    (hxs : SpelledBranches lead branches xs) :
    xs.filter isContent = branchesContents branches := by
  induction branches generalizing lead xs with
  | nil => cases hxs; rfl
  | cons branch branches ih =>
    cases hxs with
    | cons _ p hbody hrest =>
      have hbranch := filter_spelledAll (h _ List.mem_cons_self) hbody
      have hothers := ih (fun _ => rfl) (fun b hb => h b (List.mem_cons_of_mem _ hb)) hrest
      rw [List.filter_cons_of_neg (by simp [hlead]), List.filter_append, hbranch, hothers]
      rfl

end

theorem Complete.keepsContents {node : Node} (h : node.Complete) : KeepsContents node := by
  induction h with
  | text t => intro xs hxs; cases hxs; rfl
  | action h hkeyword =>
    intro xs hxs
    cases hxs
    rw [List.filter_cons_of_pos (isContent_tokens h hkeyword)]
    rfl
  | choice _ _ _ _ ihBodies ihOtherwise =>
    intro xs hxs
    cases hxs with
    | choice hbranches hotherwise =>
      rw [List.filter_append, List.filter_append, filter_spelledBranches (fun _ => rfl) ihBodies
        hbranches, filter_spelledOtherwise ihOtherwise hotherwise]
      exact congrArg _ (List.append_nil _)
  | range _ _ _ ihBody ihOtherwise =>
    intro xs hxs
    cases hxs with
    | range p hbody hotherwise =>
      rw [List.filter_cons_of_neg (by simp [isContent, Pipeline.keywords]), List.filter_append,
        List.filter_append, filter_spelledAll ihBody hbody,
        filter_spelledOtherwise ihOtherwise hotherwise]
      exact congrArg _ (List.append_nil _)

/-! ## What is refused -/

/-- Items in which an action of a block stands where it cannot.  What stands before it is left open
where that does not matter, and so is what follows. -/
inductive Misplaced : List Item → Prop
  /-- There is more in an `end` than the word. -/
  | longEnd (front : List Item) (t : Token) (tokens : List Token) (rest : List Item) :
      Misplaced (front ++ .action (.word "end" :: t :: tokens) :: rest)
  /-- There is more in an `else` than the word, and it is not an `else if`. -/
  | longElse (front : List Item) {t : Token} (h : t ≠ .word "if") (tokens : List Token)
      (rest : List Item) : Misplaced (front ++ .action (.word "else" :: t :: tokens) :: rest)
  /-- No block is open that could end or go on. -/
  | stray {name : String} (hname : name = "end" ∨ name = "else") {xs : List Item}
      {nodes : List Node} (h : Writes xs nodes) (tokens : List Token) (rest : List Item) :
      Misplaced (xs ++ .action (.word name :: tokens) :: rest)
  /-- The last part of a block is followed by another one. -/
  | repeated (front : List Item) {xs : List Item} {nodes : List Node} (h : Writes xs nodes)
      (tokens : List Token) (rest : List Item) :
      Misplaced (front ++ .action [.word "else"] ::
        (xs ++ .action (.word "else" :: tokens) :: rest))
  | elseIfInRange (front : List Item) (tokens : List Token) {xs : List Item} {nodes : List Node}
      (h : Writes xs nodes) (condition : List Token) (rest : List Item) :
      Misplaced (front ++ .action (.word "range" :: tokens) ::
        (xs ++ .action (.word "else" :: .word "if" :: condition) :: rest))
  /-- The block is still open behind the last item. -/
  | unclosed (front : List Item) {name : String}
      (hname : name = "if" ∨ name = "range" ∨ name = "else") (tokens : List Token)
      {xs : List Item} {nodes : List Node} (h : Writes xs nodes) :
      Misplaced (front ++ .action (.word name :: tokens) :: xs)

/-- Reading does not come to an end. -/
def Refused (s : State) (xs : List Item) : Prop :=
  ∃ fault, read s.1 s.2 xs = .error fault

theorem refused_of_append {xs ys : List Item} (h : ∀ s, Refused s ys) (s : State) :
    Refused s (xs ++ ys) := by
  rw [Refused, read_append_eq]
  cases xs.foldlM step s with
  | error fault => exact ⟨fault, rfl⟩
  | ok next => exact h next

theorem refused_action {s : State} {tokens : List Token} {rest : List Item}
    (h : ∀ d next, Directive.ofTokens tokens = .ok d → obey s d = .ok next → Refused next rest) :
    Refused s (.action tokens :: rest) := by
  rw [Refused, read_cons, step]
  cases hd : Directive.ofTokens tokens with
  | error fault => exact ⟨fault, rfl⟩
  | ok d =>
    cases hnext : obey s d with
    | error fault => exact ⟨fault, by simp [bind, Except.bind, hnext]⟩
    | ok next =>
      obtain ⟨fault, hfault⟩ := h d next hd hnext
      exact ⟨fault, by simp [bind, Except.bind, hnext, hfault]⟩

/-- An action that starts with a keyword is one of a block. -/
theorem Directive.Complete.ne_emit {d : Directive} (h : d.Complete) {name : String}
    (hname : name ∈ Pipeline.keywords) {tokens : List Token}
    (htokens : .word name :: tokens = d.tokens) (p : Pipeline) : d ≠ .emit p := by
  rintro rfl
  have hhead : p.tokens.head? = some (.word name) := by
    rw [show p.tokens = .word name :: tokens from htokens.symm]
    rfl
  have hkeyword := h.1.startsWithKeyword_iff.2 ⟨name, hname, hhead⟩
  rw [h.2] at hkeyword
  cases hkeyword

section

variable {d : Directive} {tokens : List Token}

theorem Directive.eq_close (h : ofTokens (.word "end" :: tokens) = .ok d) : d = .close := by
  obtain ⟨hcomplete, htokens⟩ := complete_of_ofTokens h
  have hemit := hcomplete.ne_emit (by decide) htokens
  cases d <;> simp_all [Directive.tokens]

theorem Directive.eq_else (h : ofTokens (.word "else" :: tokens) = .ok d) :
    d = .otherwise ∨ ∃ p, d = .elseIf p := by
  obtain ⟨hcomplete, htokens⟩ := complete_of_ofTokens h
  have hemit := hcomplete.ne_emit (by decide) htokens
  cases d <;> simp_all [Directive.tokens]

theorem Directive.eq_beginIf (h : ofTokens (.word "if" :: tokens) = .ok d) :
    ∃ p, d = .beginIf p := by
  obtain ⟨hcomplete, htokens⟩ := complete_of_ofTokens h
  have hemit := hcomplete.ne_emit (by decide) htokens
  cases d <;> simp_all [Directive.tokens]

theorem Directive.eq_beginRange (h : ofTokens (.word "range" :: tokens) = .ok d) :
    ∃ p, d = .beginRange p := by
  obtain ⟨hcomplete, htokens⟩ := complete_of_ofTokens h
  have hemit := hcomplete.ne_emit (by decide) htokens
  cases d <;> simp_all [Directive.tokens]

end

theorem Writes.refused {xs ys : List Item} {nodes : List Node} (h : Writes xs nodes)
    {outer : List (Block × List Node)} {before : List Node}
    (hys : Refused (outer, nodes.reverse ++ before) ys) : Refused (outer, before) (xs ++ ys) := by
  have hread := read_spelledAll outer before (fun node hnode => (h.complete node hnode).isTaken)
    h.spelled ys
  obtain ⟨fault, hfault⟩ := hys
  exact ⟨fault, hread.trans hfault⟩

theorem refused_nil_cons (entry : Block × List Node) (outer : List (Block × List Node))
    (nodes : List Node) : Refused (entry :: outer, nodes) [] := by
  obtain ⟨block, before⟩ := entry
  cases block <;> exact ⟨_, rfl⟩

theorem exists_of_obey_elseIf {s next : State} {p : Pipeline} (h : obey s (.elseIf p) = .ok next) :
    ∃ done condition before outer, next = ((.branch done condition, before) :: outer, []) := by
  obtain ⟨_ | ⟨⟨block, before⟩, outer⟩, nodes⟩ := s
  · cases h
  · obtain ⟨block', hblock, rfl⟩ := map_eq_ok.1 h
    cases block with
    | branch done condition =>
      obtain rfl := Except.ok.inj hblock
      exact ⟨_, _, before, outer, rfl⟩
    | body | afterBranches | afterBody => cases hblock

/-- Behind an `else` there is a last part, which neither an `else` nor an `else if` ends. -/
theorem exists_of_obey_otherwise {s next : State} (h : obey s .otherwise = .ok next) :
    ∃ block before outer, next = ((block, before) :: outer, []) ∧
      ∀ nodes, block.otherwise nodes = .error .missingEnd ∧
        ∀ p, block.elseIf nodes p = .error .missingEnd := by
  obtain ⟨_ | ⟨⟨block, before⟩, outer⟩, nodes⟩ := s
  · cases h
  · obtain ⟨block', hblock, rfl⟩ := map_eq_ok.1 h
    refine ⟨block', before, outer, rfl, fun nodes => ?_⟩
    cases block with
    | branch | body =>
      obtain rfl := Except.ok.inj hblock
      exact ⟨rfl, fun _ => rfl⟩
    | afterBranches | afterBody => cases hblock

theorem Misplaced.exists_error {xs : List Item} (h : Misplaced xs) :
    ∃ fault, ofItems xs = .error fault := by
  change Refused ([], []) xs
  cases h with
  | longEnd front t tokens rest =>
    refine refused_of_append (fun s => refused_action fun d next hd _ => ?_) _
    cases hd
  | longElse front h tokens rest =>
    refine refused_of_append (fun s => refused_action fun d next hd _ => ?_) _
    obtain ⟨-, htokens⟩ := Directive.complete_of_ofTokens hd
    obtain rfl | ⟨p, rfl⟩ := Directive.eq_else hd
    · cases htokens
    · exact absurd (List.cons.inj (List.cons.inj htokens).2).1 h
  | stray hname h tokens rest =>
    refine h.refused (refused_action fun d next hd hnext => ?_)
    obtain rfl | rfl := hname
    · obtain rfl := Directive.eq_close hd
      cases hnext
    · obtain rfl | ⟨p, rfl⟩ := Directive.eq_else hd <;> cases hnext
  | repeated front h tokens rest =>
    refine refused_of_append (fun s => refused_action fun d next hd hnext => ?_) _
    obtain rfl := Except.ok.inj hd
    obtain ⟨block, before, outer, rfl, hlast⟩ := exists_of_obey_otherwise hnext
    refine h.refused (refused_action fun d next hd hnext => ?_)
    obtain rfl | ⟨p, rfl⟩ := Directive.eq_else hd
    · rw [obey, (hlast _).1] at hnext
      cases hnext
    · rw [obey, (hlast _).2] at hnext
      cases hnext
  | elseIfInRange front tokens h condition rest =>
    refine refused_of_append (fun s => refused_action fun d next hd hnext => ?_) _
    obtain ⟨p, rfl⟩ := Directive.eq_beginRange hd
    obtain rfl := Except.ok.inj hnext
    refine h.refused (refused_action fun d next hd hnext => ?_)
    obtain ⟨-, htokens⟩ := Directive.complete_of_ofTokens hd
    obtain rfl | ⟨q, rfl⟩ := Directive.eq_else hd
    · cases htokens
    · cases hnext
  | @unclosed front name hname tokens xs nodes h =>
    refine refused_of_append (fun s => refused_action fun d next hd hnext => ?_) _
    obtain ⟨entry, outer, rfl⟩ : ∃ entry outer, next = (entry :: outer, []) := by
      obtain rfl | rfl | rfl := hname
      · obtain ⟨p, rfl⟩ := Directive.eq_beginIf hd
        exact ⟨_, _, (Except.ok.inj hnext).symm⟩
      · obtain ⟨p, rfl⟩ := Directive.eq_beginRange hd
        exact ⟨_, _, (Except.ok.inj hnext).symm⟩
      · obtain rfl | ⟨p, rfl⟩ := Directive.eq_else hd
        · obtain ⟨block, before, outer, rfl, -⟩ := exists_of_obey_otherwise hnext
          exact ⟨_, _, rfl⟩
        · obtain ⟨done, condition, before, outer, rfl⟩ := exists_of_obey_elseIf hnext
          exact ⟨_, _, rfl⟩
    have hrefused := h.refused (refused_nil_cons entry outer (nodes.reverse ++ []))
    rwa [List.append_nil] at hrefused

/-- The items of complete nodes are read as these nodes, and no other items are read at all.  Every
text and every action is kept, in order, and no action of a block is passed over where it cannot
stand. -/
theorem ofItems_grammar (xs : List Item) :
    (∀ nodes, ofItems xs = .ok nodes ↔
      (∀ node ∈ nodes, node.Complete) ∧ SpelledAll nodes xs) ∧
    (∀ nodes, ofItems xs = .ok nodes → xs.filter isContent = listContents nodes) ∧
    (Misplaced xs → ∃ fault, ofItems xs = .error fault) := by
  refine ⟨fun nodes => ⟨fun h => ?_, fun ⟨hcomplete, hspelled⟩ => ?_⟩, fun nodes h => ?_,
    Misplaced.exists_error⟩
  · obtain ⟨hcomplete, hspelled⟩ := writes_of_ofItems h
    exact ⟨hcomplete, hspelled⟩
  · exact ofItems_of_writes ⟨hcomplete, hspelled⟩
  · obtain ⟨hcomplete, hspelled⟩ := writes_of_ofItems h
    exact filter_spelledAll (fun node hnode => (hcomplete node hnode).keepsContents) hspelled

end Node

end RecipeRunner.Template
