import RecipeRunner.Template.Evaluation
import RecipeRunner.Proofs.Except
import RecipeRunner.Proofs.Template.Source
import RecipeRunner.Proofs.Text.Blank
/-!
# Templates in a row

What a template gives when a text follows it.  A template that gives a text closes all that it
opens: its actions and its blocks.  So what follows is read as if it stood alone, unless a
delimiter or the blanks that an action trims lie where the texts meet.  Only the random numbers that
it draws are others, those behind the nodes of the template.

* `Node.ofItems_append`: items behind others that are read to their end.
* `exists_renderRaw_append`: what follows a template gives what it gives alone.
-/

namespace RecipeRunner.Template

open Text (trimStart trimEnd isBlank Meet)
open Source

namespace Node

/-! ## Nodes -/

theorem read_append {outer : List (Block × List Node)} {nodes found : List Node}
    {xs : List Item} (h : read outer nodes xs = .ok found) (ys : List Item) :
    read outer nodes (xs ++ ys) = read [] found.reverse ys := by
  fun_induction read outer nodes xs with
  | case1 nodes =>
    obtain rfl := Except.ok.inj h
    rw [List.reverse_reverse, List.nil_append]
  | _ => simp_all [read]

/-- Puts nodes before all others, which are those of the outermost part. -/
def putBelow (base : List Node) : List (Block × List Node) → List (Block × List Node)
  | [] => []
  | [(block, before)] => [(block, before ++ base)]
  | entry :: next :: rest => entry :: putBelow base (next :: rest)

def nodesBelow (base : List Node) : List (Block × List Node) → List Node → List Node
  | [], nodes => nodes ++ base
  | _ :: _, nodes => nodes

theorem putBelow_cons (base : List Node) (block : Block) (nodes : List Node)
    (outer : List (Block × List Node)) :
    putBelow base ((block, nodes) :: outer) =
      (block, nodesBelow base outer nodes) :: putBelow base outer := by
  cases outer <;> rfl

theorem nodesBelow_nil (base nodes : List Node) : nodesBelow base [] nodes = nodes ++ base := rfl

theorem nodesBelow_of_cons (base : List Node) (entry : Block × List Node)
    (outer : List (Block × List Node)) (nodes : List Node) :
    nodesBelow base (entry :: outer) nodes = nodes := rfl

theorem nodesBelow_cons (base : List Node) (outer : List (Block × List Node)) (node : Node)
    (nodes : List Node) :
    nodesBelow base outer (node :: nodes) = node :: nodesBelow base outer nodes := by
  cases outer <;> rfl

theorem read_below (base : List Node) (outer : List (Block × List Node)) (nodes : List Node)
    (xs : List Item) :
    read (putBelow base outer) (nodesBelow base outer nodes) xs =
      (read outer nodes xs).map (base.reverse ++ ·) := by
  fun_induction read outer nodes xs <;>
    simp_all [read, putBelow_cons, nodesBelow_cons, nodesBelow_nil, nodesBelow_of_cons,
      Except.map, show putBelow base [] = [] from rfl]

theorem ofItems_append {xs : List Item} {nodes : List Node} (h : ofItems xs = .ok nodes)
    (ys : List Item) : ofItems (xs ++ ys) = (ofItems ys).map (nodes ++ ·) := by
  have hbelow := read_below nodes.reverse [] [] ys
  rw [List.reverse_reverse] at hbelow
  exact (read_append h ys).trans hbelow

theorem exists_read_of_append_text {outer : List (Block × List Node)} {nodes found : List Node}
    {xs : List Item} {t : String} (h : read outer nodes (xs ++ [.text t]) = .ok found) :
    ∃ front, read outer nodes xs = .ok front ∧ found = front ++ [.text t] := by
  fun_induction read outer nodes xs <;> simp_all [read]

end Node

/-! ## Texts -/

/-- A text without the blanks at its ends that the actions around it take away. -/
def trimmedBy (trimsStart trimsEnd : Bool) (cs : List Char) : List Char :=
  let cs := if trimsStart then trimStart cs else cs
  if trimsEnd then trimEnd cs else cs

theorem trimmedBy_append {first second : List Char} (h : Meet first second)
    (trimsStart trimsEnd : Bool) :
    trimmedBy trimsStart trimsEnd (first ++ second) =
      trimmedBy trimsStart false first ++ trimmedBy false trimsEnd second := by
  cases trimsStart with
  | false =>
    cases trimsEnd with
    | false => rfl
    | true => exact Text.trimEnd_append h
  | true =>
    have hstart := Text.trimStart_append h
    cases trimsEnd with
    | false => exact hstart
    | true => exact (congrArg trimEnd hstart).trans (Text.trimEnd_append h.trimStart)

/-- The text of items, if they have one. -/
def textOf? (b : Bindings) (xs : List Item) : Option String := do
  let nodes ← (Node.ofItems xs).toOption
  (renderNodes b none nodes).toOption

/-- The bindings behind nodes in a row. -/
def Bindings.behind (b : Bindings) : (count : Nat) → Bindings
  | 0 => b
  | count + 1 => (b.part 1).behind count

theorem Bindings.behind_add (b : Bindings) (m n : Nat) :
    b.behind (m + n) = (b.behind m).behind n := by
  induction m generalizing b with
  | zero => rw [Nat.zero_add, behind]
  | succ m ih => rw [Nat.succ_add, behind, behind, ih]

theorem Bindings.exists_behind_eq (b : Bindings) (count : Nat) :
    ∃ chance, b.behind count = b.drawing chance := by
  induction count generalizing b with
  | zero => exact ⟨b.chance, rfl⟩
  | succ count ih =>
    obtain ⟨chance, h⟩ := ih (b.part 1)
    exact ⟨chance, h⟩

theorem renderNodes_append (b : Bindings) (element : Operand) (xs ys : List Node) :
    renderNodes b element (xs ++ ys) = (do
      let first ← renderNodes b element xs
      let others ← renderNodes (b.behind xs.length) element ys
      return first ++ others) := by
  induction xs generalizing b with
  | nil =>
    rw [List.nil_append, renderNodes, List.length_nil, Bindings.behind]
    cases renderNodes b element ys with
    | error e => rfl
    | ok others => simp [bind, Except.bind, pure, Except.pure]
  | cons x xs ih =>
    rw [List.cons_append, renderNodes, renderNodes, ih, List.length_cons, Bindings.behind]
    cases renderNode (b.part 0) element x with
    | error e => rfl
    | ok first =>
      cases renderNodes (b.part 1) element xs with
      | error e => rfl
      | ok second =>
        cases renderNodes ((b.part 1).behind xs.length) element ys with
        | error e => rfl
        | ok others => simp [bind, Except.bind, pure, Except.pure, String.append_assoc]

theorem exists_textOf?_append {b : Bindings} {xs : List Item} {t : String}
    (h : textOf? b xs = some t) :
    ∃ count, ∀ ys, textOf? b (xs ++ ys) = (textOf? (b.behind count) ys).map (t ++ ·) := by
  obtain ⟨nodes, hnodes, ht⟩ := Option.bind_eq_some_iff.1 h
  rw [toOption_eq_some_iff] at hnodes ht
  refine ⟨nodes.length, fun ys => ?_⟩
  unfold textOf?
  rw [Node.ofItems_append hnodes]
  cases Node.ofItems ys with
  | error fault => rfl
  | ok more =>
    change (renderNodes b none (nodes ++ more)).toOption =
      (renderNodes (b.behind nodes.length) none more).toOption.map (t ++ ·)
    rw [renderNodes_append, ht]
    cases renderNodes (b.behind nodes.length) none more with
    | error e => rfl
    | ok others => rfl

theorem renderNodes_text (b : Bindings) (element : Operand) (t : String) :
    renderNodes b element [.text t] = .ok t := by
  simp [renderNodes, renderNode, bind, Except.bind, pure, Except.pure]

theorem textOf?_text_cons (b : Bindings) (t : String) (ys : List Item) :
    textOf? b (.text t :: ys) = (textOf? (b.part 1) ys).map (t ++ ·) := by
  have hitems := @Node.ofItems_append [.text t] [.text t] rfl ys
  rw [List.singleton_append] at hitems
  unfold textOf?
  rw [hitems]
  cases Node.ofItems ys with
  | error fault => rfl
  | ok nodes =>
    change (renderNodes b none ([.text t] ++ nodes)).toOption =
      (renderNodes (b.part 1) none nodes).toOption.map (t ++ ·)
    rw [renderNodes_append, renderNodes_text]
    change ((renderNodes (b.part 1) none nodes) >>= fun others => .ok (t ++ others)).toOption = _
    cases renderNodes (b.part 1) none nodes with
    | error e => rfl
    | ok others => rfl

theorem ofText_eq (trimsStart trimsEnd : Bool) (cs : List Char) :
    Item.ofText trimsStart trimsEnd cs =
      if (trimmedBy trimsStart trimsEnd cs).isEmpty then []
      else [.text (String.ofList (trimmedBy trimsStart trimsEnd cs))] := rfl

/-- How many nodes a text makes: none if nothing is left of it. -/
def nodeCount (cs : List Char) : Nat :=
  if cs.isEmpty then 0 else 1

theorem textOf?_ofText (b : Bindings) (trimsStart trimsEnd : Bool) (cs : List Char)
    (ys : List Item) :
    textOf? b (Item.ofText trimsStart trimsEnd cs ++ ys) =
      (textOf? (b.behind (nodeCount (trimmedBy trimsStart trimsEnd cs))) ys).map
        (String.ofList (trimmedBy trimsStart trimsEnd cs) ++ ·) := by
  rw [ofText_eq, nodeCount]
  split
  · next hempty =>
    rw [List.isEmpty_iff.1 hempty, List.nil_append, Bindings.behind]
    cases textOf? b ys with
    | none => rfl
    | some t => simp
  · exact textOf?_text_cons b _ ys

theorem exists_textOf?_of_ofText {b : Bindings} {xs : List Item} {trimsStart trimsEnd : Bool}
    {cs : List Char} {t : String}
    (h : textOf? b (xs ++ Item.ofText trimsStart trimsEnd cs) = some t) :
    ∃ front, textOf? b xs = some front ∧
      t = front ++ String.ofList (trimmedBy trimsStart trimsEnd cs) := by
  rw [ofText_eq] at h
  split at h
  · next hempty =>
    rw [List.append_nil] at h
    refine ⟨t, h, ?_⟩
    rw [List.isEmpty_iff.1 hempty]
    simp
  · obtain ⟨nodes, hnodes, ht⟩ := Option.bind_eq_some_iff.1 h
    obtain ⟨front, hfront, rfl⟩ :=
      Node.exists_read_of_append_text (toOption_eq_some_iff.1 hnodes)
    have hread : (Node.ofItems xs).toOption = some front := toOption_eq_some_iff.2 hfront
    rw [toOption_eq_some_iff, renderNodes_append] at ht
    cases hrender : renderNodes b none front with
    | error e =>
      rw [hrender] at ht
      cases ht
    | ok first =>
      rw [hrender] at ht
      refine ⟨first, ?_, ?_⟩
      · unfold textOf?
        rw [hread]
        exact toOption_eq_some_iff.2 hrender
      · rw [renderNodes_text] at ht
        exact (Except.ok.inj ht).symm

/-- A text takes up the random numbers of a node, but for one that it shares with what follows. -/
theorem nodeCount_append (first second : List Char) :
    ∃ count, nodeCount (first ++ second) = count + nodeCount second := by
  cases second with
  | nil => exact ⟨nodeCount first, by rw [List.append_nil]; rfl⟩
  | cons c second => exact ⟨0, by simp [nodeCount]⟩

theorem exists_textOf?_join_text (b : Bindings) {cs : List Char} {next : Source}
    (h : Meet cs next.lead) (trims : Bool) :
    ∃ count, ((Source.text cs).join next).items? trims >>= textOf? b =
      (next.items? false >>= textOf? (b.behind count)).map
        (String.ofList (trimmedBy trims false cs) ++ ·) := by
  have hitems : ∀ (trimsEnd : Bool) (first : List Char), Meet cs first →
      ∃ count, ∀ more, textOf? b (Item.ofText trims trimsEnd (cs ++ first) ++ more) =
        (textOf? (b.behind count) (Item.ofText false trimsEnd first ++ more)).map
          (String.ofList (trimmedBy trims false cs) ++ ·) := by
    intro trimsEnd first hmeet
    obtain ⟨count, hcount⟩ :=
      nodeCount_append (trimmedBy trims false cs) (trimmedBy false trimsEnd first)
    refine ⟨count, fun more => ?_⟩
    rw [textOf?_ofText, textOf?_ofText, trimmedBy_append hmeet, hcount, Bindings.behind_add,
      Option.map_map]
    congr 1
    funext t
    simp [String.append_assoc]
  cases next with
  | text first =>
    obtain ⟨count, hfirst⟩ := hitems false first h
    have hnil := hfirst []
    rw [List.append_nil, List.append_nil] at hnil
    exact ⟨count, hnil⟩
  | unclosed before inside => exact ⟨0, rfl⟩
  | action before a rest =>
    obtain ⟨count, hfirst⟩ := hitems a.trimsBefore before h
    refine ⟨count, ?_⟩
    change (((Item.ofBody a.body).toOption >>= fun item => rest.items? (endsWithDash a.body) >>=
      fun items => some (Item.ofText trims a.trimsBefore (cs ++ before) ++ item ++ items)) >>=
        textOf? b) = _
    rw [items?]
    cases (Item.ofBody a.body).toOption with
    | none => rfl
    | some item =>
      cases rest.items? (endsWithDash a.body) with
      | none => rfl
      | some items =>
        have hbefore := hfirst (item ++ items)
        rw [← List.append_assoc, ← List.append_assoc] at hbefore
        exact hbefore

theorem toOption_renderRaw (b : Bindings) (template : String) :
    (renderRaw b template).toOption = (ofChars template.toList).items? false >>= textOf? b := by
  unfold renderRaw
  split
  · rw [parse, items, ← toOption_ofSource 0]
    cases Item.ofSource 0 false (ofChars template.toList) with
    | error fault => rfl
    | ok found =>
      have hparse : (Except.ok found >>= Node.ofItems) = Node.ofItems found := rfl
      rw [hparse]
      change _ = textOf? b found
      unfold textOf?
      cases Node.ofItems found with
      | error fault => rfl
      | ok nodes => rfl
  · next h =>
    have hcut : Text.cutAt? opening template.toList = none := by
      simpa [hasTemplate, Text.occursIn] using h
    rw [ofChars_of_none hcut]
    have htext := textOf?_ofText b false false template.toList []
    rw [List.append_nil] at htext
    refine Eq.trans ?_ htext.symm
    simp [trimmedBy, textOf?, Node.ofItems, Node.read, renderNodes, Except.toOption]

theorem exists_renderRaw_append {b : Bindings} {s next t : String}
    (h : renderRaw b s = .ok t)
    (hopens : s.toList.getLast? = some '\x7b' → next.toList.head? ≠ some '\x7b')
    (hmeet : Meet (ofChars s.toList).last (ofChars next.toList).lead) :
    ∃ chance, (renderRaw b (s ++ next)).toOption =
      (renderRaw (b.drawing chance) next).toOption.map (t ++ ·) := by
  have hs := toOption_renderRaw b s
  rw [h] at hs
  obtain ⟨found, hfound, htext⟩ := Option.bind_eq_some_iff.1 hs.symm
  obtain ⟨front, trims, rfl, hjoin⟩ := items?_join hfound
  obtain ⟨start, hstart, rfl⟩ := exists_textOf?_of_ofText htext
  obtain ⟨count, hfront⟩ := exists_textOf?_append hstart
  obtain ⟨more, hrest⟩ := exists_textOf?_join_text (b.behind count) hmeet trims
  obtain ⟨chance, hchance⟩ := b.exists_behind_eq (count + more)
  refine ⟨chance, ?_⟩
  rw [toOption_renderRaw, toOption_renderRaw, String.toList_append,
    ofChars_append (isClosed_of_items? hfound) hopens, hjoin, ← hchance, Bindings.behind_add]
  have hitems : ∀ items? : Option (List Item), items?.map (front ++ ·) >>= textOf? b =
      (items? >>= textOf? (b.behind count)).map (start ++ ·) := by
    intro items?
    cases items? with
    | none => rfl
    | some items => exact hfront items
  rw [hitems, hrest, Option.map_map]
  congr 1
  funext t
  simp [String.append_assoc]

/-- A character at which texts meet that neither opens an action nor is a blank. -/
structure IsFirm (c : Char) : Prop where
  ne_brace : c ≠ '\x7b'
  not_blank : isBlank c = false

/-- What follows a template starts with a firm character. -/
theorem exists_renderRaw_append_of_head? {b : Bindings} {s next t : String} {c : Char}
    (h : renderRaw b s = .ok t) (hnext : next.toList.head? = some c) (hc : IsFirm c) :
    ∃ chance, (renderRaw b (s ++ next)).toOption =
      (renderRaw (b.drawing chance) next).toOption.map (t ++ ·) := by
  refine exists_renderRaw_append h (fun _ hbrace => ?_)
    (.inr ⟨c, head?_lead_ofChars hnext hc.ne_brace, hc.not_blank⟩)
  rw [hnext] at hbrace
  exact hc.ne_brace (Option.some.inj hbrace)

theorem renderRaw_of_not_hasTemplate (b : Bindings) {s : String} (h : hasTemplate s = false) :
    renderRaw b s = .ok s := by
  rw [renderRaw, if_neg (by simp [h])]

/-- What precedes a template is a text that ends with a firm character. -/
theorem exists_renderRaw_append_of_getLast? (b : Bindings) {s : String} (next : String) {c : Char}
    (h : hasTemplate s = false) (hs : s.toList.getLast? = some c) (hc : IsFirm c) :
    ∃ chance, (renderRaw b (s ++ next)).toOption =
      (renderRaw (b.drawing chance) next).toOption.map (s ++ ·) := by
  have hsource : ofChars s.toList = .text s.toList :=
    ofChars_of_none (by simpa [hasTemplate, Text.occursIn] using h)
  refine exists_renderRaw_append (renderRaw_of_not_hasTemplate b h) (fun hbrace => ?_)
    (.inl ⟨c, ?_, hc.not_blank⟩)
  · rw [hs] at hbrace
    exact absurd (Option.some.inj hbrace) hc.ne_brace
  · rw [hsource]
    exact hs

end RecipeRunner.Template
