import RecipeRunner.Proofs.Template.Blocks
import RecipeRunner.Proofs.Template.Items
/-!
# Reading trees

Trees are read from what is written for them.  Well-formed trees have no gaps, so they are read from
their items, and the items of such a tree are read from its text.

* `WellFormed.complete`: arguments, pipelines and nodes without gaps.
* `Node.WellFormed.isRead`, `Node.WellFormed.lays`: the items of a node, and their text.
* `parse_write`: the tree is read from its text.
-/

namespace RecipeRunner.Template

/-! ## Pipelines -/

namespace Arg

theorem WellFormed.complete {arg : Arg} (h : arg.WellFormed) : arg.Complete := by
  induction h with
  | @field name => exact .field name
  | dot => exact .dot
  | @call name => exact .call name
  | literal h =>
    refine .literal ?_
    rintro items rfl
    exact h
  | group hpipeline hcommands _ ih => exact .group hpipeline hcommands ih

section

variable {commands : List Command} {args : List Arg}

theorem mem_argsTokens {t : Token} (h : t ∈ argsTokens args) : ∃ arg ∈ args, t ∈ arg.tokens := by
  induction args with
  | nil => cases h
  | cons arg args ih =>
    rcases List.mem_append.1 h with h | h
    · exact ⟨arg, List.mem_cons_self, h⟩
    · obtain ⟨found, hmem, h⟩ := ih h
      exact ⟨found, List.mem_cons_of_mem arg hmem, h⟩

theorem mem_commandsTokens {t : Token} (h : t ∈ commandsTokens commands) :
    t = .pipe ∨ ∃ command ∈ commands, ∃ arg ∈ command, t ∈ arg.tokens := by
  induction commands with
  | nil => cases h
  | cons command rest ih =>
    cases rest with
    | nil => exact .inr ⟨command, List.mem_cons_self, mem_argsTokens h⟩
    | cons next rest =>
      rw [commandsTokens_cons_cons] at h
      rcases List.mem_append.1 h with h | h
      · exact .inr ⟨command, List.mem_cons_self, mem_argsTokens h⟩
      · rcases List.mem_cons.1 h with rfl | h
        · exact .inl rfl
        · exact (ih h).imp_right fun ⟨found, hmem, h⟩ => ⟨found, List.mem_cons_of_mem _ hmem, h⟩

end

theorem WellFormed.token {arg : Arg} (h : arg.WellFormed) : ∀ t ∈ arg.tokens, t.WellFormed := by
  induction h with
  | field h => exact List.forall_mem_singleton.2 h
  | dot => exact List.forall_mem_singleton.2 trivial
  | call h => exact List.forall_mem_singleton.2 h
  | @literal value h =>
    cases value with
    | bool b => exact List.forall_mem_singleton.2 trivial
    | int n => exact List.forall_mem_singleton.2 h
    | str s => exact List.forall_mem_singleton.2 h
    | float x => exact h.elim
    | list items => exact h.elim
  | group _ _ _ ih =>
    intro t ht
    rcases List.mem_cons.1 ht with rfl | ht
    · trivial
    rcases List.mem_append.1 ht with ht | ht
    · rcases mem_commandsTokens ht with rfl | ⟨command, hcommand, arg, harg, ht⟩
      · trivial
      · exact ih command hcommand arg harg t ht
    · obtain rfl := List.mem_singleton.1 ht
      trivial

end Arg

namespace Pipeline

variable {p : Pipeline}

theorem WellFormed.complete (h : p.WellFormed) : p.Complete :=
  ⟨h.ne_nil, h.command_ne_nil, fun command hcommand arg harg =>
    (h.arg command hcommand arg harg).complete⟩

theorem WellFormed.token (h : p.WellFormed) : ∀ t ∈ p.tokens, t.WellFormed := by
  intro t ht
  rcases Arg.mem_commandsTokens ht with rfl | ⟨command, hcommand, arg, harg, ht⟩
  · trivial
  · exact (h.arg command hcommand arg harg).token t ht

end Pipeline

/-! ## Nodes -/

namespace Node

theorem WellFormed.complete {node : Node} (h : node.WellFormed) : node.Complete := by
  induction h with
  | @text t => exact .text t
  | action h hkeyword => exact .action h.complete hkeyword
  | choice hbranches hconditions _ _ _ _ ihBodies ihOtherwise =>
    exact .choice hbranches (fun branch hbranch => (hconditions branch hbranch).complete) ihBodies
      ihOtherwise
  | range h _ _ _ _ ihBody ihOtherwise => exact .range h.complete ihBody ihOtherwise

/-- What is written for a node is read as the node, in the block that is open. -/
def IsRead (node : Node) : Prop :=
  ∀ outer before rest, read outer before (node.items ++ rest) = read outer (node :: before) rest

theorem read_listItems {nodes : List Node} (outer : List (Block × List Node)) (before : List Node)
    (h : ∀ node ∈ nodes, IsRead node) (rest : List Item) :
    read outer before (listItems nodes ++ rest) = read outer (nodes.reverse ++ before) rest := by
  induction nodes generalizing before with
  | nil => rfl
  | cons node nodes ih =>
    rw [listItems, List.append_assoc, h node List.mem_cons_self,
      ih _ fun n hn => h n (List.mem_cons_of_mem node hn)]
    simp

theorem WellFormed.isRead {node : Node} (h : node.WellFormed) : IsRead node :=
  fun outer before rest => h.complete.isTaken node.items (spelled_items node) outer before rest

/-! ### Their items -/

/-- Items that start with an action, or none. -/
def StartsPlain (items : List Item) : Prop :=
  ∀ item ∈ items.head?, item.isText = false

theorem startsPlain_action_cons (tokens : List Token) (rest : List Item) :
    StartsPlain (.action tokens :: rest) := by
  intro item hitem
  obtain rfl := Option.some.inj hitem
  rfl

theorem wellFormed_keyword {name : String} (h : name ∈ Pipeline.keywords) :
    (Token.word name).WellFormed := by
  have hall : ∀ name ∈ Pipeline.keywords, IsFunctionName name := by decide
  exact hall name h

theorem readable_keyword_cons {name : String} (hname : name ∈ Pipeline.keywords)
    {rest : List Item} (h : Item.Readable rest) :
    Item.Readable (.action [.word name] :: rest) :=
  ⟨List.cons_ne_nil _ _, List.forall_mem_singleton.2 (wellFormed_keyword hname), h⟩

/-- Items that can be read stay so behind those of the node, unless two texts would meet. -/
def Lays (node : Node) : Prop :=
  ∀ rest, Item.Readable rest → (node.isText = true → StartsPlain rest) →
    Item.Readable (node.items ++ rest)

theorem startsPlain_items {node : Node} (h : node.WellFormed) (htext : node.isText = false)
    (rest : List Item) : StartsPlain (node.items ++ rest) := by
  cases h with
  | text => cases htext
  | action => exact startsPlain_action_cons _ _
  | choice hbranches =>
    obtain ⟨branch, branches, rfl⟩ := List.exists_cons_of_ne_nil hbranches
    exact startsPlain_action_cons _ _
  | range => exact startsPlain_action_cons _ _

section

variable {nodes otherwise : List Node} {rest : List Item}

theorem readable_listItems (hwf : ∀ node ∈ nodes, node.WellFormed)
    (h : ∀ node ∈ nodes, Lays node) (hapart : Apart nodes) (hrest : Item.Readable rest)
    (hplain : StartsPlain rest) : Item.Readable (listItems nodes ++ rest) := by
  induction nodes with
  | nil => exact hrest
  | cons node nodes ih =>
    have hchain := List.isChain_cons.1 hapart
    have hreadable := ih (fun n hn => hwf n (List.mem_cons_of_mem node hn))
      (fun n hn => h n (List.mem_cons_of_mem node hn)) hchain.2
    rw [listItems, List.append_assoc]
    refine h node List.mem_cons_self _ hreadable fun htext => ?_
    cases nodes with
    | nil => exact hplain
    | cons next nodes =>
      have hnext : next.isText = false := by simpa [htext] using hchain.1 next rfl
      rw [listItems, List.append_assoc]
      exact startsPlain_items (hwf next (List.mem_cons_of_mem node List.mem_cons_self)) hnext _

theorem otherwiseItems_of_ne_nil (h : otherwise ≠ []) :
    otherwiseItems otherwise = .action [.word "else"] :: listItems otherwise := by
  obtain ⟨node, nodes, rfl⟩ := List.exists_cons_of_ne_nil h
  rfl

theorem startsPlain_otherwiseItems (hplain : StartsPlain rest) :
    StartsPlain (otherwiseItems otherwise ++ rest) := by
  cases otherwise with
  | nil => exact hplain
  | cons node nodes => exact startsPlain_action_cons _ _

theorem readable_otherwiseItems (hwf : ∀ node ∈ otherwise, node.WellFormed)
    (h : ∀ node ∈ otherwise, Lays node) (hapart : Apart otherwise) (hrest : Item.Readable rest)
    (hplain : StartsPlain rest) : Item.Readable (otherwiseItems otherwise ++ rest) := by
  by_cases hne : otherwise = []
  · subst hne
    exact hrest
  · rw [otherwiseItems_of_ne_nil hne, List.cons_append]
    exact readable_keyword_cons (by decide) (readable_listItems hwf h hapart hrest hplain)

theorem startsPlain_branchesItems {lead : List Token} {branches : List (Pipeline × List Node)}
    (hplain : StartsPlain rest) : StartsPlain (branchesItems lead branches ++ rest) := by
  cases branches with
  | nil => exact hplain
  | cons branch branches => exact startsPlain_action_cons _ _

theorem readable_branchesItems {lead : List Token} (hlead : ∀ t ∈ lead, t.WellFormed)
    {branches : List (Pipeline × List Node)}
    (hconditions : ∀ branch ∈ branches, branch.1.WellFormed)
    (hwf : ∀ branch ∈ branches, ∀ node ∈ branch.2, node.WellFormed)
    (h : ∀ branch ∈ branches, ∀ node ∈ branch.2, Lays node)
    (hapart : ∀ branch ∈ branches, Apart branch.2) (hrest : Item.Readable rest)
    (hplain : StartsPlain rest) : Item.Readable (branchesItems lead branches ++ rest) := by
  induction branches generalizing lead with
  | nil => exact hrest
  | cons branch branches ih =>
    have hcondition := hconditions branch List.mem_cons_self
    have helseIf : ∀ t ∈ [Token.word "else", .word "if"], t.WellFormed :=
      List.forall_mem_cons.2 ⟨wellFormed_keyword (by decide),
        List.forall_mem_singleton.2 (wellFormed_keyword (by decide))⟩
    have hreadable := ih helseIf (fun b hb => hconditions b (List.mem_cons_of_mem branch hb))
      (fun b hb => hwf b (List.mem_cons_of_mem branch hb))
      (fun b hb => h b (List.mem_cons_of_mem branch hb))
      (fun b hb => hapart b (List.mem_cons_of_mem branch hb))
    rw [branchesItems, List.cons_append, List.append_assoc]
    have hne := List.append_ne_nil_of_right_ne_nil lead hcondition.complete.tokens_ne_nil
    refine ⟨hne, fun t ht => ?_,
      readable_listItems (hwf branch List.mem_cons_self) (h branch List.mem_cons_self)
        (hapart branch List.mem_cons_self) hreadable (startsPlain_branchesItems hplain)⟩
    exact (List.mem_append.1 ht).elim (hlead t) (hcondition.token t)

end

theorem WellFormed.lays {node : Node} (h : node.WellFormed) : Lays node := by
  induction h with
  | text h => exact fun rest hrest hplain => ⟨h, hplain rfl, hrest⟩
  | action h _ => exact fun rest hrest _ => ⟨h.complete.tokens_ne_nil, h.token, hrest⟩
  | @choice branches otherwise _ hconditions hbodies hapart hotherwise hotherwiseApart ihBodies
      ihOtherwise =>
    intro rest hrest _
    have hkeyword : "end" ∈ Pipeline.keywords := by decide
    have hend := readable_keyword_cons hkeyword hrest
    have hplain := startsPlain_action_cons [.word "end"] rest
    rw [items, List.append_assoc, List.append_assoc, List.singleton_append]
    exact readable_branchesItems (List.forall_mem_singleton.2 (wellFormed_keyword (by decide)))
      hconditions hbodies ihBodies hapart
      (readable_otherwiseItems hotherwise ihOtherwise hotherwiseApart hend hplain)
      (startsPlain_otherwiseItems hplain)
  | @range p body otherwise h hbody hapart hotherwise hotherwiseApart ihBody ihOtherwise =>
    intro rest hrest _
    have hkeyword : "end" ∈ Pipeline.keywords := by decide
    have hend := readable_keyword_cons hkeyword hrest
    have hplain := startsPlain_action_cons [.word "end"] rest
    rw [items, List.cons_append, List.append_assoc, List.append_assoc, List.singleton_append]
    exact ⟨List.cons_ne_nil _ _,
      List.forall_mem_cons.2 ⟨wellFormed_keyword (by decide), h.token⟩,
      readable_listItems hbody ihBody hapart
        (readable_otherwiseItems hotherwise ihOtherwise hotherwiseApart hend hplain)
        (startsPlain_otherwiseItems hplain)⟩

end Node

/-! ## Templates -/

/-- The items of the text of a tree, whether or not they are read as the tree. -/
theorem items_write (padded : Bool) {nodes : List Node}
    (h : Item.Readable (Node.listItems nodes)) :
    items (write padded nodes) = .ok (Node.listItems nodes) := by
  have hnone : Text.occursIn opening [] = false := rfl
  rw [items, write, String.toList_ofList]
  exact Item.ofSource_write padded h hnone (by decide) (.inl rfl) 0

/-- A well-formed tree is read from its text: reading undoes writing. -/
theorem parse_write (padded : Bool) {nodes : List Node} (h : ∀ node ∈ nodes, node.WellFormed)
    (hapart : Node.Apart nodes) : parse (write padded nodes) = .ok nodes := by
  have hreadable : Item.Readable (Node.listItems nodes ++ []) :=
    Node.readable_listItems h (fun node hnode => (h node hnode).lays) hapart trivial (by
      intro item hitem
      cases hitem)
  rw [List.append_nil] at hreadable
  have hread := Node.read_listItems [] [] (fun node hnode => (h node hnode).isRead) []
  rw [List.append_nil, List.append_nil] at hread
  rw [parse, items_write padded hreadable]
  exact hread.trans (congrArg Except.ok (List.reverse_reverse nodes))

/-- A tree with an else-if branch, a sub-pipeline, a range in the last branch, and a text with
both characters that are escaped. -/
def report : List Node :=
  [.text "\x7d ", .choice
    [([[.field "a.b-1"]], [.text "-", .action [[.dot]]]),
      ([[.group [[.field "n"], [.call "len"]]], [.call "eq", .literal (.str "\"\x7d\\")]], [])]
    [.range [[.field "n"]] [.action [[.literal (.int (-5)), .call "end_"]]] [.text "\x7b0"]]]

theorem parse_write_report : (∀ node ∈ report, node.WellFormed) ∧ Node.Apart report ∧
    parse (write false report) = .ok report := by
  have hsingle {arg : Arg} (h : arg.WellFormed) : Pipeline.WellFormed [[arg]] :=
    ⟨List.cons_ne_nil _ _, by simp, by simpa using h⟩
  have hsize : Pipeline.WellFormed
      [[.group [[.field "n"], [.call "len"]]], [.call "eq", .literal (.str "\"\x7d\\")]] := by
    refine ⟨List.cons_ne_nil _ _, by simp, ?_⟩
    simp only [List.mem_cons, List.not_mem_nil, or_false, forall_eq_or_imp, forall_eq]
    refine ⟨.group (List.cons_ne_nil _ _) (by simp) ?_, .call (by decide), .literal ?_⟩
    · simp only [List.mem_cons, List.not_mem_nil, or_false, forall_eq_or_imp, forall_eq]
      exact ⟨.field (by decide), .call (by decide)⟩
    · exact (by decide : Text.occursIn closing "\"\x7d\\".toList = false)
  have hcount : Pipeline.WellFormed [[.literal (.int (-5)), .call "end_"]] := by
    refine ⟨List.cons_ne_nil _ _, by simp, ?_⟩
    simp only [List.mem_cons, List.not_mem_nil, or_false, forall_eq_or_imp, forall_eq]
    exact ⟨.literal (by decide : Decimal.fits (-5) = true), .call (by decide)⟩
  have hrange : Node.WellFormed
      (.range [[.field "n"]] [.action [[.literal (.int (-5)), .call "end_"]]] [.text "\x7b0"]) := by
    refine .range (hsingle (.field (by decide))) ?_ (.singleton _) ?_ (.singleton _)
    · exact List.forall_mem_singleton.2 (.action hcount rfl)
    · exact List.forall_mem_singleton.2 (.text (by decide))
  have hwf : ∀ node ∈ report, node.WellFormed := by
    simp only [report, List.mem_cons, List.not_mem_nil, or_false, forall_eq_or_imp, forall_eq]
    refine ⟨.text (by decide), .choice (List.cons_ne_nil _ _) ?_ ?_ ?_ ?_ (.singleton _)⟩ <;>
      simp only [List.mem_cons, List.not_mem_nil, or_false, forall_eq_or_imp, forall_eq]
    · exact ⟨hsingle (.field (by decide)), hsize⟩
    · exact ⟨⟨.text (by decide), .action (hsingle .dot) rfl⟩, by simp⟩
    · exact ⟨by simp [Node.Apart, Node.isText], .nil⟩
    · exact hrange
  have hapart : Node.Apart report := by simp [Node.Apart, report, Node.isText]
  exact ⟨hwf, hapart, parse_write false hwf hapart⟩

/-- The words for the truth values are made of the characters of names, but they are not read as
the names of functions. -/
theorem parse_write_call_true : (∀ c ∈ "true".toList, Token.isWordPart c = true) ∧
    Pipeline.startsWithKeyword [[.call "true"]] = false ∧
    write false [.action [[.call "true"]]] = "\x7b\x7btrue\x7d\x7d" ∧
    parse "\x7b\x7btrue\x7d\x7d" = .ok [.action [[.literal (.bool true)]]] ∧
    parse (write false [.action [[.call "true"]]]) ≠ .ok [.action [[.call "true"]]] := by
  have hwrite : write false [.action [[.literal (.bool true)]]] = "\x7b\x7btrue\x7d\x7d" := rfl
  have hreadable : Item.Readable (Node.listItems [.action [[.literal (.bool true)]]]) :=
    ⟨List.cons_ne_nil _ _, List.forall_mem_singleton.2 trivial, trivial⟩
  have hparse : parse "\x7b\x7btrue\x7d\x7d" = .ok [.action [[.literal (.bool true)]]] := by
    rw [← hwrite, parse, items_write false hreadable]
    rfl
  refine ⟨by decide, rfl, rfl, hparse, fun h => ?_⟩
  cases hparse.symm.trans h

end RecipeRunner.Template
