import RecipeRunner.Proofs.Template.Writing
/-!
# The grammar of pipelines

A pipeline is commands with pipes between them, a command arguments in a row, and an argument one
token or a pipeline between parentheses.  Nothing of this may be empty.  The reader keeps the groups
that are open on a stack and goes through the tokens once; reading a group by itself, from its
opening parenthesis to the one that closes it, comes to the same.

* `Pipeline.Complete`: the pipelines that tokens can write.
* `Pipeline.descend`: the reader that goes into groups.
* `Pipeline.ofTokens_grammar`: the tokens of complete pipelines are read, and nothing else is.
-/

namespace RecipeRunner.Template

/-! ## Pipelines that tokens can write -/

namespace Arg

/-- Arguments that tokens can write: no literal is a list, and groups have no gaps. -/
inductive Complete : Arg → Prop
  | field (name : String) : Complete (.field name)
  | dot : Complete .dot
  | call (name : String) : Complete (.call name)
  | literal {value : Value} (h : ∀ items, value ≠ .list items) : Complete (.literal value)
  | group {commands : List (List Arg)} (hpipeline : commands ≠ [])
      (hcommands : ∀ command ∈ commands, command ≠ [])
      (hargs : ∀ command ∈ commands, ∀ arg ∈ command, Complete arg) :
      Complete (.group commands)

end Arg

/-- Pipelines that tokens can write: one or more commands of one or more arguments. -/
structure Pipeline.Complete (p : Pipeline) : Prop where
  ne_nil : p ≠ []
  command_ne_nil : ∀ command ∈ p, command ≠ []
  arg : ∀ command ∈ p, ∀ arg ∈ command, arg.Complete

namespace Arg

/-- A complete argument is written as one token that stands for it, or it is a group. -/
@[elab_as_elim]
theorem Complete.recToken {motive : (arg : Arg) → arg.Complete → Prop}
    (token : ∀ {arg : Arg} {t : Token} (h : arg.Complete), arg.tokens = [t] →
      ofToken? t = some arg → motive arg h)
    (group : ∀ {commands : List Command} (hpipeline : commands ≠ [])
      (hcommands : ∀ command ∈ commands, command ≠ [])
      (hargs : ∀ command ∈ commands, ∀ arg ∈ command, arg.Complete),
      (∀ command hcommand arg harg, motive arg (hargs command hcommand arg harg)) →
        motive (.group commands) (.group hpipeline hcommands hargs))
    {arg : Arg} (h : arg.Complete) : motive arg h := by
  induction h with
  | field name => exact token (t := .field name) _ rfl rfl
  | dot => exact token (t := .dot) _ rfl rfl
  | call name => exact token (t := .word name) _ rfl rfl
  | @literal value h =>
    cases value with
    | bool b => exact token (t := .bool b) _ rfl rfl
    | int n => exact token (t := .int n) _ rfl rfl
    | float x => exact token (t := .float x) _ rfl rfl
    | str s => exact token (t := .str s) _ rfl rfl
    | list items => exact absurd rfl (h items)
  | group hpipeline hcommands hargs ih => exact group hpipeline hcommands hargs ih

theorem complete_of_ofToken? {t : Token} {arg : Arg} (h : ofToken? t = some arg) :
    arg.Complete := by
  cases t <;> cases h
  case field name => exact .field name
  case dot => exact .dot
  case word name => exact .call name
  all_goals exact .literal nofun

theorem tokens_of_ofToken? {t : Token} {arg : Arg} (h : ofToken? t = some arg) :
    arg.tokens = [t] := by
  cases t <;> cases h <;> rfl

theorem commandsTokens_cons_cons (command next : Command) (rest : List Command) :
    commandsTokens (command :: next :: rest) =
      argsTokens command ++ .pipe :: commandsTokens (next :: rest) := rfl

theorem commandsTokens_append_singleton (commands : List Command) (last : Command) :
    commandsTokens (commands ++ [last]) =
      (commands.flatMap fun command => argsTokens command ++ [.pipe]) ++ argsTokens last := by
  induction commands with
  | nil => rfl
  | cons command commands ih =>
    obtain ⟨next, rest, hrest⟩ := List.exists_cons_of_ne_nil
      (List.append_ne_nil_of_right_ne_nil commands (List.cons_ne_nil last []))
    rw [List.cons_append, hrest, commandsTokens_cons_cons, ← hrest, ih]
    simp

theorem argsTokens_append (front back : List Arg) :
    argsTokens (front ++ back) = argsTokens front ++ argsTokens back := by
  induction front with
  | nil => rfl
  | cons arg front ih => rw [List.cons_append, argsTokens, argsTokens, ih, List.append_assoc]

end Arg

namespace Pipeline

/-! ## Reading by going into groups -/

/-- How many groups besides the outermost are open behind a token, if `depth` are before it; none
if the token closes the outermost. -/
def depthBehind? (depth : Nat) : Token → Option Nat
  | .openGroup => some (depth + 1)
  | .closeGroup =>
    match depth with
    | 0 => none
    | depth + 1 => some depth
  | _ => some depth

/-- The tokens up to the one that closes `depth + 1` open groups, and those behind it. -/
def cutAtClose? (depth : Nat) : List Token → Option (List Token × List Token)
  | [] => none
  | t :: rest =>
    match depthBehind? depth t with
    | none => some ([], rest)
    | some depth => (cutAtClose? depth rest).map fun (inside, behind) => (t :: inside, behind)

theorem eq_closeGroup_of_depthBehind? {depth : Nat} {t : Token} (h : depthBehind? depth t = none) :
    depth = 0 ∧ t = .closeGroup := by
  cases t <;> cases depth <;> simp_all [depthBehind?]

theorem cutAtClose?_cons {depth next : Nat} {t : Token} (h : depthBehind? depth t = some next)
    {rest inside behind : List Token} :
    cutAtClose? depth (t :: rest) = some (inside, behind) ↔
      ∃ inner, cutAtClose? next rest = some (inner, behind) ∧ inside = t :: inner := by
  rw [cutAtClose?, h]
  constructor
  · intro hcut
    obtain ⟨⟨inner, back⟩, hrest, heq⟩ := Option.map_eq_some_iff.1 hcut
    obtain ⟨rfl, rfl⟩ := Prod.mk.inj heq
    exact ⟨inner, hrest, rfl⟩
  · rintro ⟨inner, hrest, rfl⟩
    exact Option.map_eq_some_iff.2 ⟨(inner, behind), hrest, rfl⟩

theorem cutAtClose?_closeGroup (rest : List Token) :
    cutAtClose? 0 (.closeGroup :: rest) = some ([], rest) := rfl

theorem eq_append_of_cutAtClose? {depth : Nat} {tokens inside behind : List Token}
    (h : cutAtClose? depth tokens = some (inside, behind)) :
    tokens = inside ++ .closeGroup :: behind := by
  induction tokens generalizing depth inside with
  | nil => cases h
  | cons t rest ih =>
    match hdepth : depthBehind? depth t with
    | none =>
      obtain ⟨rfl, rfl⟩ := eq_closeGroup_of_depthBehind? hdepth
      obtain ⟨rfl, rfl⟩ := Prod.mk.inj (Option.some.inj h)
      rfl
    | some next =>
      obtain ⟨inner, hrest, rfl⟩ := (cutAtClose?_cons hdepth).1 h
      rw [ih hrest]
      rfl

theorem length_cutAtClose? {depth : Nat} {tokens inside behind : List Token}
    (h : cutAtClose? depth tokens = some (inside, behind)) :
    inside.length < tokens.length ∧ behind.length < tokens.length := by
  rw [eq_append_of_cutAtClose? h, List.length_append, List.length_cons]
  omega

/-- Reads a pipeline of which `p` has been read.  What stands between parentheses is read by
itself. -/
def descend (p : Partial) (tokens : List Token) : Except SyntaxFault Pipeline :=
  match tokens with
  | [] => p.finish
  | .pipe :: rest =>
    match p.endCommand with
    | .ok p => descend p rest
    | .error fault => .error fault
  | .openGroup :: rest =>
    match _h : cutAtClose? 0 rest with
    | none => .error .unclosedOpen
    | some (inside, behind) =>
      match descend {} inside with
      | .ok group => descend (p.addArg (.group group)) behind
      | .error fault => .error fault
  | .closeGroup :: _ => .error .unexpectedClose
  | token :: rest =>
    match Arg.ofToken? token with
    | some arg => descend (p.addArg arg) rest
    | none => descend p rest
termination_by tokens.length
decreasing_by
  all_goals
    first
    | exact Nat.lt_succ_of_lt (length_cutAtClose? _h).1
    | exact Nat.lt_succ_of_lt (length_cutAtClose? _h).2
    | exact Nat.lt_succ_self _

/-- The groups that are closed in tokens do not depend on what follows them. -/
theorem cutAtClose?_append {depth : Nat} {tokens inside behind : List Token}
    (h : cutAtClose? depth tokens = some (inside, behind)) (rest : List Token) :
    cutAtClose? depth (inside ++ .closeGroup :: rest) = some (inside, rest) := by
  induction tokens generalizing depth inside with
  | nil => cases h
  | cons t tokens ih =>
    match hdepth : depthBehind? depth t with
    | none =>
      obtain ⟨rfl, rfl⟩ := eq_closeGroup_of_depthBehind? hdepth
      obtain ⟨rfl, rfl⟩ := Prod.mk.inj (Option.some.inj h)
      rfl
    | some next =>
      obtain ⟨inner, hrest, rfl⟩ := (cutAtClose?_cons hdepth).1 h
      exact (cutAtClose?_cons hdepth).2 ⟨inner, ih hrest, rfl⟩

/-- What closes `m + n + 2` groups closes `m + 1` of them first, and the others behind it. -/
theorem exists_cutAtClose?_of_add {m n : Nat} {tokens inside behind : List Token}
    (h : cutAtClose? (m + n + 1) tokens = some (inside, behind)) :
    ∃ inner rest, cutAtClose? m tokens = some (inner, rest ++ .closeGroup :: behind) ∧
      inside = inner ++ .closeGroup :: rest ∧
      cutAtClose? n (rest ++ .closeGroup :: behind) = some (rest, behind) := by
  induction tokens generalizing m inside with
  | nil => cases h
  | cons t tokens ih =>
    match hdepth : depthBehind? m t with
    | none =>
      obtain ⟨rfl, rfl⟩ := eq_closeGroup_of_depthBehind? hdepth
      have hnext : depthBehind? (0 + n + 1) .closeGroup = some n := by simp [depthBehind?]
      obtain ⟨rest, hrest, rfl⟩ := (cutAtClose?_cons hnext).1 h
      obtain rfl := eq_append_of_cutAtClose? hrest
      exact ⟨[], rest, cutAtClose?_closeGroup _, rfl, hrest⟩
    | some next =>
      have hnext : depthBehind? (m + n + 1) t = some (next + n + 1) := by
        cases t <;> cases m <;> simp_all [depthBehind?] <;> omega
      obtain ⟨inner, hinner, rfl⟩ := (cutAtClose?_cons hnext).1 h
      obtain ⟨first, rest, hfirst, rfl, hrest⟩ := ih hinner
      exact ⟨t :: first, rest, (cutAtClose?_cons hdepth).2 ⟨first, hfirst, rfl⟩, rfl, hrest⟩

theorem closes_eq (depth : Nat) (tokens : List Token) :
    closes depth tokens = (cutAtClose? depth tokens).isSome := by
  fun_induction closes depth tokens <;> simp_all [cutAtClose?, depthBehind?]

/-- Tokens that leave no group open and close none but their own. -/
def Enclosed (tokens : List Token) : Prop :=
  ∀ behind, cutAtClose? 0 (tokens ++ .closeGroup :: behind) = some (tokens, behind)

theorem Enclosed.exists_of_openGroup {rest : List Token} (h : Enclosed (.openGroup :: rest)) :
    ∃ inside behind, cutAtClose? 0 rest = some (inside, behind) ∧ Enclosed inside ∧
      Enclosed behind := by
  have hdepth : depthBehind? 0 .openGroup = some (0 + 0 + 1) := rfl
  obtain ⟨inner, hinner, heq⟩ := (cutAtClose?_cons hdepth).1 (h [])
  obtain rfl := (List.cons.inj heq).2
  obtain ⟨inside, behind, hinside, rfl, hbehind⟩ :=
    exists_cutAtClose?_of_add (m := 0) (n := 0) hinner
  exact ⟨inside, behind, cutAtClose?_append hinside behind, cutAtClose?_append hinside,
    cutAtClose?_append hbehind⟩

theorem Enclosed.of_openGroup {rest inside behind : List Token} (h : Enclosed (.openGroup :: rest))
    (hcut : cutAtClose? 0 rest = some (inside, behind)) : Enclosed inside ∧ Enclosed behind := by
  obtain ⟨inner, back, hsome, henclosed⟩ := h.exists_of_openGroup
  obtain ⟨rfl, rfl⟩ := Prod.mk.inj (Option.some.inj (hcut.symm.trans hsome))
  exact henclosed

theorem Enclosed.of_cons {t : Token} {rest : List Token}
    (ht : ∀ depth, depthBehind? depth t = some depth) (h : Enclosed (t :: rest)) : Enclosed rest := by
  intro behind
  obtain ⟨inner, hinner, heq⟩ := (cutAtClose?_cons (ht 0)).1 (h behind)
  obtain rfl := (List.cons.inj heq).2
  exact hinner

theorem not_enclosed_closeGroup (rest : List Token) : ¬Enclosed (.closeGroup :: rest) := by
  intro h
  cases (h []).symm.trans (cutAtClose?_closeGroup _)

/-- Every token but the pipe and the parentheses stands for an argument. -/
theorem exists_ofToken? {t : Token} (hpipe : t ≠ .pipe) (hopen : t ≠ .openGroup)
    (hclose : t ≠ .closeGroup) : ∃ arg, Arg.ofToken? t = some arg := by
  cases t <;> first | exact ⟨_, rfl⟩ | contradiction

theorem depthBehind?_of_ofToken? {t : Token} {arg : Arg} (h : Arg.ofToken? t = some arg)
    (depth : Nat) : depthBehind? depth t = some depth := by
  cases t <;> first | rfl | cases h

theorem read_of_ofToken? {t : Token} {arg : Arg} (h : Arg.ofToken? t = some arg)
    (outer : List Partial) (p : Partial) (rest : List Token) :
    read outer p (t :: rest) = read outer (p.addArg arg) rest := by
  cases t <;> first | (cases h; rfl) | cases h

/-- A group that is closed is put on the stack. -/
theorem read_openGroup {tokens inside behind : List Token}
    (h : cutAtClose? 0 tokens = some (inside, behind)) (outer : List Partial) (p : Partial)
    (rest : List Token) :
    read outer p (.openGroup :: (tokens ++ rest)) =
      read (p :: outer) {} (inside ++ .closeGroup :: (behind ++ rest)) := by
  have hcut := cutAtClose?_append h (behind ++ rest)
  have htokens : tokens ++ rest = inside ++ .closeGroup :: (behind ++ rest) := by
    rw [eq_append_of_cutAtClose? h, List.append_assoc, List.cons_append]
  have hcloses : closes 0 (tokens ++ rest) = true := by
    rw [closes_eq, htokens, hcut]
    rfl
  rw [read, if_pos hcloses, htokens]

/-- A group on the stack is read as the group by itself, and what is behind it follows. -/
theorem read_enclosed {tokens : List Token} (h : Enclosed tokens) (outer : List Partial)
    (around p : Partial) (rest : List Token) :
    read (around :: outer) p (tokens ++ .closeGroup :: rest) =
      match descend p tokens with
      | .ok group => read outer (around.addArg (.group group)) rest
      | .error fault => .error fault := by
  fun_induction descend p tokens generalizing outer around rest with
  | case1 p => rfl
  | case2 p tokens q hend ih =>
    rw [List.cons_append, read, hend]
    exact ih (h.of_cons fun _ => rfl) outer around rest
  | case3 p tokens fault hend => rw [List.cons_append, read, hend]
  | case4 p tokens hcut =>
    obtain ⟨inside, behind, hsome, -⟩ := h.exists_of_openGroup
    cases hcut.symm.trans hsome
  | case5 p tokens inside behind hcut group hgroup ihInside ihBehind =>
    obtain ⟨hinside, hbehind⟩ := h.of_openGroup hcut
    rw [List.cons_append, read_openGroup hcut, ihInside hinside, hgroup]
    exact ihBehind hbehind outer around rest
  | case6 p tokens inside behind hcut fault hfault ihInside =>
    obtain ⟨hinside, -⟩ := h.of_openGroup hcut
    rw [List.cons_append, read_openGroup hcut, ihInside hinside, hfault]
  | case7 p tokens => exact absurd h (not_enclosed_closeGroup tokens)
  | case8 p t tokens _ _ _ arg harg ih =>
    rw [List.cons_append, read_of_ofToken? harg]
    exact ih (h.of_cons (depthBehind?_of_ofToken? harg)) outer around rest
  | case9 p t tokens hpipe hopen hclose harg =>
    obtain ⟨arg, hsome⟩ := exists_ofToken? hpipe hopen hclose
    cases harg.symm.trans hsome

/-- The stack does the work of the recursion into groups. -/
theorem read_eq_descend (p : Partial) (tokens : List Token) :
    read [] p tokens = descend p tokens := by
  fun_induction descend p tokens with
  | case1 p => rfl
  | case2 p tokens q hend ih => rw [read, hend, ← ih]
  | case3 p tokens fault hend => rw [read, hend]
  | case4 p tokens hcut => rw [read, closes_eq, hcut]; rfl
  | case5 p tokens inside behind hcut group hgroup _ ihBehind =>
    have hread := read_openGroup hcut [] p []
    rw [List.append_nil, List.append_nil, read_enclosed (cutAtClose?_append hcut), hgroup] at hread
    exact hread.trans ihBehind
  | case6 p tokens inside behind hcut fault hfault _ =>
    have hread := read_openGroup hcut [] p []
    rwa [List.append_nil, List.append_nil, read_enclosed (cutAtClose?_append hcut), hfault]
      at hread
  | case7 p tokens => rfl
  | case8 p t tokens _ _ _ arg harg ih => rw [read_of_ofToken? harg, ih]
  | case9 p t tokens hpipe hopen hclose harg =>
    obtain ⟨arg, hsome⟩ := exists_ofToken? hpipe hopen hclose
    cases harg.symm.trans hsome

/-! ## What is read -/

namespace Partial

/-- The tokens of what has been read. -/
def tokens (p : Partial) : List Token :=
  (p.commands.reverse.flatMap fun command => Arg.argsTokens command ++ [.pipe]) ++
    Arg.argsTokens p.args.reverse

/-- What has been read so far of a complete pipeline. -/
structure Complete (p : Partial) : Prop where
  command_ne_nil : ∀ command ∈ p.commands, command ≠ []
  command_arg : ∀ command ∈ p.commands, ∀ arg ∈ command, arg.Complete
  arg : ∀ arg ∈ p.args, arg.Complete

theorem complete_empty : Complete {} :=
  ⟨nofun, nofun, nofun⟩

variable {p q : Partial}

theorem Complete.addArg (h : p.Complete) {arg : Arg} (harg : arg.Complete) :
    (p.addArg arg).Complete :=
  ⟨h.command_ne_nil, h.command_arg, List.forall_mem_cons.2 ⟨harg, h.arg⟩⟩

theorem tokens_addArg (arg : Arg) : (p.addArg arg).tokens = p.tokens ++ arg.tokens := by
  simp [tokens, Partial.addArg, Arg.argsTokens_append, Arg.argsTokens]

theorem endCommand_eq_ok (h : p.endCommand = .ok q) :
    p.args ≠ [] ∧ q = { commands := p.args.reverse :: p.commands } := by
  rw [endCommand] at h
  split at h
  · cases h
  · next hargs => exact ⟨by simpa using hargs, (Except.ok.inj h).symm⟩

theorem Complete.endCommand (h : p.Complete) (hend : p.endCommand = .ok q) : q.Complete := by
  obtain ⟨hargs, rfl⟩ := endCommand_eq_ok hend
  exact ⟨List.forall_mem_cons.2 ⟨by simpa using hargs, h.command_ne_nil⟩,
    List.forall_mem_cons.2 ⟨by simpa using h.arg, h.command_arg⟩, nofun⟩

theorem tokens_endCommand (hend : p.endCommand = .ok q) : q.tokens = p.tokens ++ [.pipe] := by
  obtain ⟨-, rfl⟩ := endCommand_eq_ok hend
  simp [tokens, Arg.argsTokens]

theorem finish_eq_ok {pipeline : Pipeline} (h : p.finish = .ok pipeline) :
    p.args ≠ [] ∧ pipeline = p.commands.reverse ++ [p.args.reverse] := by
  rw [finish] at h
  split at h
  · cases h
  · next hargs => exact ⟨by simpa using hargs, by simpa using (Except.ok.inj h).symm⟩

theorem Complete.finish (h : p.Complete) {pipeline : Pipeline} (hfinish : p.finish = .ok pipeline) :
    pipeline.Complete := by
  obtain ⟨hargs, rfl⟩ := finish_eq_ok hfinish
  refine ⟨by simp, ?_, ?_⟩ <;> simp only [List.mem_append, List.mem_reverse, List.mem_singleton]
  · rintro command (hcommand | rfl)
    · exact h.command_ne_nil command hcommand
    · simpa using hargs
  · rintro command (hcommand | rfl) arg harg
    · exact h.command_arg command hcommand arg harg
    · exact h.arg arg (List.mem_reverse.1 harg)

theorem tokens_finish {pipeline : Pipeline} (hfinish : p.finish = .ok pipeline) :
    pipeline.tokens = p.tokens := by
  obtain ⟨-, rfl⟩ := finish_eq_ok hfinish
  exact Arg.commandsTokens_append_singleton _ _

end Partial

/-- No token is dropped, and nothing is read that has a gap. -/
theorem complete_of_descend {p : Partial} {tokens : List Token} {pipeline : Pipeline}
    (hp : p.Complete) (h : descend p tokens = .ok pipeline) :
    pipeline.Complete ∧ pipeline.tokens = p.tokens ++ tokens := by
  fun_induction descend p tokens generalizing pipeline with
  | case1 p => exact ⟨hp.finish h, by rw [Partial.tokens_finish h, List.append_nil]⟩
  | case2 p tokens q hend ih =>
    obtain ⟨hcomplete, htokens⟩ := ih (hp.endCommand hend) h
    refine ⟨hcomplete, ?_⟩
    rw [htokens, Partial.tokens_endCommand hend, List.append_assoc, List.singleton_append]
  | case5 p tokens inside behind hcut group hgroup ihInside ihBehind =>
    obtain ⟨hgroup, hinside⟩ := ihInside Partial.complete_empty hgroup
    have harg : (Arg.group group).Complete := .group hgroup.ne_nil hgroup.command_ne_nil hgroup.arg
    obtain ⟨hcomplete, htokens⟩ := ihBehind (hp.addArg harg) h
    refine ⟨hcomplete, ?_⟩
    have hwritten : (Arg.group group).tokens = .openGroup :: (inside ++ [.closeGroup]) := by
      rw [Arg.tokens, show Arg.commandsTokens group = inside from hinside]
    rw [htokens, Partial.tokens_addArg, hwritten, eq_append_of_cutAtClose? hcut]
    simp
  | case8 p t tokens _ _ _ arg harg ih =>
    obtain ⟨hcomplete, htokens⟩ := ih (hp.addArg (Arg.complete_of_ofToken? harg)) h
    refine ⟨hcomplete, ?_⟩
    rw [htokens, Partial.tokens_addArg, Arg.tokens_of_ofToken? harg, List.append_assoc,
      List.singleton_append]
  | case9 p t tokens hpipe hopen hclose harg =>
    obtain ⟨arg, hsome⟩ := exists_ofToken? hpipe hopen hclose
    cases harg.symm.trans hsome
  | case3 | case4 | case6 | case7 => cases h

end Pipeline

/-! ## What is written is read -/

namespace Arg

section

variable {commands : List Command} {args : List Arg}

theorem Complete.tokens_ne_nil {arg : Arg} (h : arg.Complete) : arg.tokens ≠ [] := by
  induction h using Complete.recToken with
  | token _ htokens =>
    rw [htokens]
    exact List.cons_ne_nil _ []
  | group => exact List.cons_ne_nil _ _

/-! ### Groups are closed -/

theorem closes_of_ofToken? {t : Token} {arg : Arg} (h : ofToken? t = some arg) (depth : Nat)
    (rest : List Token) : Pipeline.closes depth (t :: rest) = Pipeline.closes depth rest := by
  cases t <;> first | rfl | cases h

/-- Tokens that leave the groups as they are that are open before them. -/
def Balanced (tokens : List Token) : Prop :=
  ∀ depth rest, Pipeline.closes depth (tokens ++ rest) = Pipeline.closes depth rest

theorem Balanced.append {front back : List Token} (hfront : Balanced front)
    (hback : Balanced back) : Balanced (front ++ back) := by
  intro depth rest
  rw [List.append_assoc, hfront, hback]

theorem balanced_pipe_cons {tokens : List Token} (h : Balanced tokens) :
    Balanced (.pipe :: tokens) :=
  fun depth rest => h depth rest

theorem balanced_argsTokens (h : ∀ arg ∈ args, Balanced arg.tokens) :
    Balanced (argsTokens args) := by
  induction args with
  | nil => exact fun depth rest => rfl
  | cons arg args ih =>
    exact (h arg List.mem_cons_self).append (ih fun a ha => h a (List.mem_cons_of_mem arg ha))

theorem balanced_commandsTokens (h : ∀ command ∈ commands, ∀ arg ∈ command, Balanced arg.tokens) :
    Balanced (commandsTokens commands) := by
  induction commands with
  | nil => exact fun depth rest => rfl
  | cons command rest ih =>
    have hcommand := balanced_argsTokens (h command List.mem_cons_self)
    have hrest := ih fun c hc => h c (List.mem_cons_of_mem command hc)
    cases rest with
    | nil => exact hcommand
    | cons next rest => exact hcommand.append (balanced_pipe_cons hrest)

theorem Complete.balanced {arg : Arg} (h : arg.Complete) : Balanced arg.tokens := by
  induction h using Complete.recToken with
  | token _ htokens htoken =>
    rw [htokens]
    exact closes_of_ofToken? htoken
  | group _ _ _ ih =>
    intro depth rest
    rw [tokens, List.cons_append, List.append_assoc, Pipeline.closes,
      balanced_commandsTokens ih]
    rfl

/-! ### Reading them -/

/-- What is written for an argument is read as the argument, in the pipeline that is open. -/
def IsRead (arg : Arg) : Prop :=
  ∀ outer inner rest, Pipeline.read outer inner (arg.tokens ++ rest) =
    Pipeline.read outer (inner.addArg arg) rest

theorem read_argsTokens (h : ∀ arg ∈ args, IsRead arg) (outer : List Pipeline.Partial)
    (inner : Pipeline.Partial) (rest : List Token) :
    Pipeline.read outer inner (argsTokens args ++ rest) =
      Pipeline.read outer { inner with args := args.reverse ++ inner.args } rest := by
  induction args generalizing inner with
  | nil => rfl
  | cons arg args ih =>
    rw [argsTokens, List.append_assoc, h arg List.mem_cons_self,
      ih fun a ha => h a (List.mem_cons_of_mem arg ha)]
    simp [Pipeline.Partial.addArg]

/-- Commands are read up to the end of the last one, which what follows may end. -/
theorem exists_read_commandsTokens (hpipeline : commands ≠ [])
    (hcommands : ∀ command ∈ commands, command ≠ [])
    (h : ∀ command ∈ commands, ∀ arg ∈ command, IsRead arg) (done : List Command) :
    ∃ p : Pipeline.Partial, p.finish = .ok (done.reverse ++ commands) ∧ ∀ outer rest,
      Pipeline.read outer { commands := done } (commandsTokens commands ++ rest) =
        Pipeline.read outer p rest := by
  induction commands generalizing done with
  | nil => exact absurd rfl hpipeline
  | cons command more ih =>
    have hne := hcommands command List.mem_cons_self
    have hcommand := read_argsTokens (h command List.mem_cons_self)
    cases more with
    | nil =>
      refine ⟨{ commands := done, args := command.reverse }, ?_, fun outer rest => ?_⟩
      · simp [Pipeline.Partial.finish, hne]
      · rw [commandsTokens, hcommand, List.append_nil]
    | cons next more =>
      obtain ⟨p, hfinish, hread⟩ := ih (List.cons_ne_nil next more)
        (fun c hc => hcommands c (List.mem_cons_of_mem command hc))
        (fun c hc => h c (List.mem_cons_of_mem command hc)) (command :: done)
      refine ⟨p, ?_, fun outer rest => ?_⟩
      · rw [hfinish, List.reverse_cons, List.append_assoc, List.singleton_append]
      · have hend : Pipeline.Partial.endCommand { commands := done, args := command.reverse } =
            .ok { commands := command :: done } := by
          simp [Pipeline.Partial.endCommand, hne]
        rw [commandsTokens_cons_cons, List.append_assoc, hcommand, List.append_nil,
          List.cons_append, Pipeline.read, hend]
        exact hread outer rest

theorem Complete.isRead {arg : Arg} (h : arg.Complete) : IsRead arg := by
  induction h using Complete.recToken with
  | token _ htokens htoken =>
    intro outer inner rest
    rw [htokens]
    exact Pipeline.read_of_ofToken? htoken outer inner rest
  | @group commands hpipeline hcommands hargs ih =>
    intro outer inner rest
    have hbalanced : Balanced (commandsTokens commands) :=
      balanced_commandsTokens fun command hcommand arg harg =>
        (hargs command hcommand arg harg).balanced
    have hcloses : Pipeline.closes 0 (commandsTokens commands ++ .closeGroup :: rest) = true :=
      hbalanced 0 _
    obtain ⟨p, hfinish, hread⟩ := exists_read_commandsTokens hpipeline hcommands ih []
    rw [tokens, List.cons_append, List.append_assoc, List.singleton_append, Pipeline.read,
      if_pos hcloses, hread, Pipeline.read, hfinish]
    rfl

end

end Arg

namespace Pipeline

variable {p : Pipeline}

/-- A pipeline is read from its tokens. -/
theorem ofTokens_tokens (h : p.Complete) : ofTokens p.tokens = .ok p := by
  obtain ⟨q, hfinish, hread⟩ := Arg.exists_read_commandsTokens h.ne_nil h.command_ne_nil
    (fun command hcommand arg harg => (h.arg command hcommand arg harg).isRead) []
  have := hread [] []
  rw [List.append_nil] at this
  exact this.trans hfinish

theorem Complete.exists_tokens_eq (h : p.Complete) : ∃ arg args commands rest,
    p = (arg :: args) :: commands ∧ arg.Complete ∧ p.tokens = arg.tokens ++ rest := by
  obtain ⟨command, commands, rfl⟩ := List.exists_cons_of_ne_nil h.ne_nil
  obtain ⟨arg, args, rfl⟩ :=
    List.exists_cons_of_ne_nil (h.command_ne_nil command List.mem_cons_self)
  have harg := h.arg (arg :: args) List.mem_cons_self arg List.mem_cons_self
  cases commands with
  | nil => exact ⟨arg, args, [], _, rfl, harg, rfl⟩
  | cons next rest =>
    have htokens : tokens ((arg :: args) :: next :: rest) =
        arg.tokens ++ (Arg.argsTokens args ++ .pipe :: Arg.commandsTokens (next :: rest)) := by
      rw [tokens, Arg.commandsTokens_cons_cons, Arg.argsTokens, List.append_assoc]
    exact ⟨arg, args, next :: rest, _, rfl, harg, htokens⟩

theorem Complete.tokens_ne_nil (h : p.Complete) : p.tokens ≠ [] := by
  obtain ⟨arg, args, commands, rest, -, harg, htokens⟩ := h.exists_tokens_eq
  rw [htokens]
  exact List.append_ne_nil_of_left_ne_nil harg.tokens_ne_nil rest

/-- Only the name of a function is written as a word. -/
theorem Complete.startsWithKeyword_iff (h : p.Complete) : p.startsWithKeyword = true ↔
    ∃ name ∈ keywords, p.tokens.head? = some (.word name) := by
  obtain ⟨arg, args, commands, rest, rfl, harg, htokens⟩ := h.exists_tokens_eq
  rw [htokens, List.head?_append_of_ne_nil _ harg.tokens_ne_nil]
  cases harg with
  | call name => simp [startsWithKeyword, Arg.tokens]
  | @literal value h => cases value <;> simp_all [startsWithKeyword, Arg.tokens, Arg.literalTokens]
  | field | dot | group => simp [startsWithKeyword, Arg.tokens]

theorem complete_of_ofTokens {tokens : List Token} (h : ofTokens tokens = .ok p) :
    p.Complete ∧ tokens = p.tokens := by
  rw [ofTokens, read_eq_descend] at h
  obtain ⟨hcomplete, htokens⟩ := complete_of_descend Partial.complete_empty h
  exact ⟨hcomplete, htokens.symm⟩

/-- The tokens of a complete pipeline are read as that pipeline, and no other tokens are read at
all.  What stands between parentheses is read as it is by itself; this recursion ends, since it is
shorter than what it stands in. -/
theorem ofTokens_grammar (tokens : List Token) :
    (∀ p, ofTokens tokens = .ok p ↔ p.Complete ∧ tokens = p.tokens) ∧
      ofTokens tokens = descend {} tokens := by
  refine ⟨fun p => ⟨complete_of_ofTokens, ?_⟩, read_eq_descend {} tokens⟩
  rintro ⟨hcomplete, rfl⟩
  exact ofTokens_tokens hcomplete

end Pipeline

end RecipeRunner.Template
