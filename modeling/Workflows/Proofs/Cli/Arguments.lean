import Mathlib.Data.List.Perm.Basic
import Workflows.Cli.Arguments
import Workflows.Proofs.Data.Dict

/-!
# Options in any order

A command line is made of words, in their order, and of options, in whatever order and wherever between the words
they are given. A value is never taken for an option or for a word, whatever it is.

* `Cli.Group`: arguments that belong together; `Cli.Options`: a choice of options, each at most once;
* `Cli.Order`: a command with its operand, and `Order.command?`, what it asks for with a choice of options;
* `Cli.Interleaved`: words with groups between them;
* `gather_word`, `gather_value`, `gather_decision`, `gather_verbose`: how a group is taken;
  `gather_interleaved`: what was gathered in the end;
* **`parse_interleaved`**: the request of a command line depends on its words and its choice of options only.
-/

namespace Workflows

namespace Cli

/-! ## Groups of arguments -/

/-- Arguments that belong together: an option with its value, or a flag. -/
inductive Group where
  | value (o : ValueOption) (v : String)
  | decision (approve : Bool)
  | verbose (short : Bool)
  deriving DecidableEq

namespace Group

/-- How a group is written. -/
def written : Group → List String
  | value o v => [o.flag, v]
  | decision approve => [if approve then "--approve" else "--reject"]
  | verbose short => [if short then "-v" else "--verbose"]

/-- The option of a group, with its value. -/
def binding? : Group → Option (ValueOption × String)
  | value o v => some (o, v)
  | _ => none

/-- The decision of a group. -/
def decision? : Group → Option Bool
  | decision approve => some approve
  | _ => none

/-- Whether a group asks for details. -/
def isVerbose : Group → Bool
  | verbose _ => true
  | _ => false

end Group

/-- All options that take a value. -/
def ValueOption.all : List ValueOption :=
  [.config, .dataDir, .entity, .entityType, .entityId, .entityName, .actor, .data]

/-- A choice of options, each given at most once. -/
structure Options where
  value : ValueOption → Option String
  decision : Option Bool
  /-- Whether details are asked for, and in the short spelling or in the long one. -/
  verbose : Option Bool

/-- The groups that a choice of options is written in. -/
def Options.groups (options : Options) : List Group :=
  (ValueOption.all.filterMap fun o => (options.value o).map (Group.value o)) ++
    (options.decision.map Group.decision).toList ++ (options.verbose.map Group.verbose).toList

/-- A command with its operand. -/
inductive Order where
  | run (workflow : String)
  | resume (execution : String)
  | display (execution : String)
  | list
  | validate (workflow : String)
  deriving DecidableEq

namespace Order

/-- The word that a command goes by. -/
def name : Order → String
  | run _ => "run"
  | resume _ => "resume"
  | display _ => "show"
  | list => "list"
  | validate _ => "validate"

/-- The operand of a command. -/
def operand? : Order → Option String
  | run workflow | validate workflow => some workflow
  | resume execution | display execution => some execution
  | list => none

/-- The words of a command, in their order. -/
def words (order : Order) : List String := order.name :: order.operand?.toList

/-- What a command asks for with a choice of options, of which it takes those that it uses; nothing if one is missing
that it cannot do without. -/
def command? (options : Options) : Order → Option Command
  | run workflow => do
    return .run workflow (← options.value .entity) (← options.value .entityType) (← options.value .entityId)
      (options.value .entityName) (options.value .actor)
  | resume execution => do return .resume execution (← options.decision) (options.value .data)
  | display execution => some (.display execution)
  | list => some .list
  | validate workflow => some (.validate workflow)

end Order

/-- Words in their order, with groups of arguments in their order between them. -/
inductive Interleaved : List String → List Group → List String → Prop
  | nil : Interleaved [] [] []
  | word {word : String} {words : List String} {groups : List Group} {line : List String} :
      Interleaved words groups line → Interleaved (word :: words) groups (word :: line)
  | group {group : Group} {words : List String} {groups : List Group} {line : List String} :
      Interleaved words groups line → Interleaved words (group :: groups) (group.written ++ line)

/-! ## How a group is taken -/

theorem ValueOption.ofFlag?_eq_some_iff {s : String} {o : ValueOption} : ofFlag? s = some o ↔ s = o.flag := by
  constructor
  · intro found
    unfold ofFlag? at found
    split at found <;> cases found <;> rfl
  · rintro rfl
    cases o <;> rfl

variable {g : Gathered} {rest : List String}

/-- A word that does not begin like an option is taken as a word. -/
theorem gather_word {word : String} (plain : word.startsWith "-" = false) :
    gather (word :: rest) g = gather rest { g with words := g.words ++ [word] } := by
  have other {flag : String} (option : flag.startsWith "-" = true) : word ≠ flag := by
    rintro rfl
    rw [plain] at option
    cases option
  have unknown : ValueOption.ofFlag? word = none := by
    cases found : ValueOption.ofFlag? word with
    | none => rfl
    | some o =>
      have option : o.flag.startsWith "-" = true := by cases o <;> decide +kernel
      exact absurd (ValueOption.ofFlag?_eq_some_iff.1 found) (other option)
  simp [gather, other, unknown, plain]

/-- What follows an option is its value, whatever it is. -/
theorem gather_value (o : ValueOption) (v : String) :
    gather (o.flag :: v :: rest) g = gather rest { g with given := (o, v) :: g.given } := by
  cases o <;> rfl

/-- A decision is taken where there was none. -/
theorem gather_decision {approve : Bool} (undecided : g.decision = none) :
    gather ((Group.decision approve).written ++ rest) g = gather rest { g with decision := some approve } := by
  cases g with
  | mk words given decision verbose =>
    obtain rfl : decision = none := undecided
    cases approve <;> rfl

theorem gather_verbose (short : Bool) :
    gather ((Group.verbose short).written ++ rest) g = gather rest { g with verbose := true } := by
  cases short <;> rfl

/-- What was gathered, with further words and groups. -/
def Gathered.adding (g : Gathered) (words : List String) (groups : List Group) : Gathered where
  words := g.words ++ words
  given := (groups.filterMap Group.binding?).reverse ++ g.given
  decision := (g.decision.toList ++ groups.filterMap Group.decision?).head?
  verbose := g.verbose || groups.any Group.isVerbose

section Adding

variable {words : List String} {groups : List Group}

theorem adding_nil (g : Gathered) : g.adding [] [] = g := by
  cases g with
  | mk words given decision verbose => cases decision <;> simp [Gathered.adding]

theorem adding_word (word : String) :
    g.adding (word :: words) groups = { g with words := g.words ++ [word] }.adding words groups := by
  simp [Gathered.adding]

theorem adding_value (o : ValueOption) (v : String) :
    g.adding words (.value o v :: groups) = { g with given := (o, v) :: g.given }.adding words groups := by
  simp only [Gathered.adding, List.filterMap_cons, Group.binding?, Group.decision?, List.any_cons, Group.isVerbose,
    List.reverse_cons, List.append_assoc, List.singleton_append, Bool.false_or]

theorem adding_decision {approve : Bool} (undecided : g.decision = none)
    (once : groups.filterMap Group.decision? = []) :
    g.adding words (.decision approve :: groups) = { g with decision := some approve }.adding words groups := by
  simp only [Gathered.adding, List.filterMap_cons, Group.binding?, Group.decision?, List.any_cons, Group.isVerbose,
    undecided, once, Option.toList, List.nil_append, List.append_nil, Bool.false_or]

theorem adding_verbose (short : Bool) :
    g.adding words (.verbose short :: groups) = { g with verbose := true }.adding words groups := by
  simp only [Gathered.adding, List.filterMap_cons, Group.binding?, Group.decision?, List.any_cons, Group.isVerbose,
    Bool.true_or, Bool.or_true]

end Adding

/-- **What is gathered from words with groups between them**, where no more than one decision is given. -/
theorem gather_interleaved {words : List String} {groups : List Group} {line : List String}
    (shuffled : Interleaved words groups line) (plain : ∀ w ∈ words, w.startsWith "-" = false) (g : Gathered)
    (once : (g.decision.toList ++ groups.filterMap Group.decision?).length ≤ 1) :
    gather line g = (g.adding words groups).invocation.map .call := by
  induction shuffled generalizing g with
  | nil =>
    rw [adding_nil]
    rfl
  | @word word words groups line _ ih =>
    rw [gather_word (plain word List.mem_cons_self), adding_word]
    exact ih (fun w mem => plain w (List.mem_cons_of_mem _ mem)) _ once
  | @group group words groups line _ ih =>
    cases group with
    | value o v =>
      rw [adding_value]
      exact (gather_value o v).trans (ih plain _ once)
    | decision approve =>
      have undecided : g.decision = none := by
        cases decided : g.decision with
        | none => rfl
        | some earlier => simp [decided, Group.decision?] at once
      have last : groups.filterMap Group.decision? = [] := by simpa [undecided, Group.decision?] using once
      rw [gather_decision undecided, adding_decision undecided last]
      exact ih plain _ (by simp [last])
    | verbose short =>
      rw [gather_verbose, adding_verbose]
      exact ih plain _ once

/-! ## Choices of options -/

namespace Options

variable (options : Options)

theorem bindings_groups : options.groups.filterMap Group.binding? =
    ValueOption.all.filterMap fun o => (options.value o).map fun v => (o, v) := by
  have flags : (options.decision.map Group.decision).toList.filterMap Group.binding? = [] ∧
      (options.verbose.map Group.verbose).toList.filterMap Group.binding? = [] := by
    cases options.decision <;> cases options.verbose <;> exact ⟨rfl, rfl⟩
  rw [groups, List.filterMap_append, List.filterMap_append, flags.1, flags.2, List.filterMap_filterMap,
    List.append_nil, List.append_nil]
  refine List.filterMap_congr fun o _ => ?_
  cases options.value o <;> rfl

theorem decisions_groups : options.groups.filterMap Group.decision? = options.decision.toList := by
  have values : (ValueOption.all.filterMap fun o => (options.value o).map (Group.value o)).filterMap
      Group.decision? = [] := by
    rw [List.filterMap_filterMap, List.filterMap_eq_nil_iff]
    intro o _
    cases options.value o <;> rfl
  rw [groups, List.filterMap_append, List.filterMap_append, values]
  cases options.decision <;> cases options.verbose <;> rfl

theorem any_isVerbose_groups : options.groups.any Group.isVerbose = options.verbose.isSome := by
  have values : (ValueOption.all.filterMap fun o => (options.value o).map (Group.value o)).any
      Group.isVerbose = false := by
    rw [List.any_eq_false]
    intro group mem
    obtain ⟨o, -, chosen⟩ := List.mem_filterMap.1 mem
    obtain ⟨v, -, rfl⟩ := Option.map_eq_some_iff.1 chosen
    exact Bool.false_ne_true
  rw [groups, List.any_append, List.any_append, values]
  cases options.decision <;> cases options.verbose <;> rfl

variable {options} {groups : List Group}

/-- However the groups are ordered, an option has the value that was chosen for it. -/
theorem lookup_bindings (given : groups.Perm options.groups) (o : ValueOption) :
    (groups.filterMap Group.binding?).reverse.lookup o = options.value o := by
  have same : (groups.filterMap Group.binding?).reverse.Perm
      (ValueOption.all.filterMap fun o => (options.value o).map fun v => (o, v)) :=
    (List.reverse_perm _).trans (options.bindings_groups ▸ given.filterMap Group.binding?)
  have distinct : ((ValueOption.all.filterMap fun o => (options.value o).map fun v => (o, v)).map (·.1)).Nodup := by
    rw [List.map_filterMap]
    refine List.Nodup.filterMap (fun a a' o chosen chosen' => ?_) (by decide)
    simp only [Option.map_map, Option.mem_def, Option.map_eq_some_iff, Function.comp_apply] at chosen chosen'
    obtain ⟨-, -, rfl⟩ := chosen
    obtain ⟨-, -, rfl⟩ := chosen'
    rfl
  have every : o ∈ ValueOption.all := by cases o <;> decide
  ext v
  rw [Bindings.lookup_eq_some_iff ((same.map (·.1)).nodup_iff.2 distinct), same.mem_iff, List.mem_filterMap]
  constructor
  · rintro ⟨o, -, chosen⟩
    obtain ⟨v, value, same⟩ := Option.map_eq_some_iff.1 chosen
    cases same
    exact value
  · intro value
    exact ⟨o, every, by rw [value]; rfl⟩

/-- However the groups are ordered, there is the one decision that was chosen. -/
theorem decisions (given : groups.Perm options.groups) :
    groups.filterMap Group.decision? = options.decision.toList := by
  have same := given.filterMap Group.decision?
  rw [decisions_groups] at same
  cases decided : options.decision with
  | none => simpa [decided] using same
  | some approve => simpa [decided] using same

end Options

/-! ## The request -/

/-- The word of a command does not begin like an option. -/
theorem Order.startsWith_name (order : Order) : order.name.startsWith "-" = false := by
  cases order <;> rw [name] <;> decide +kernel

/-- The command that was given, where the words and the options are those of an order. -/
theorem Gathered.toOption_command {order : Order} {options : Options} (words : g.words = order.words)
    (value : ∀ o, g.value? o = options.value o) (decision : g.decision = options.decision) :
    g.command.toOption = order.command? options := by
  have needed (o : ValueOption) : g.need o = (options.value o).elim (.error (.missingOption o)) .ok := by
    rw [need, value]
    cases options.value o <;> rfl
  unfold command commandWithRest
  rw [words]
  cases order with
  | run workflow =>
    simp only [Order.words, Order.name, Order.operand?, Option.toList, operand, needed, value, Order.command?]
    cases options.value .entity <;> cases options.value .entityType <;> cases options.value .entityId <;> rfl
  | resume execution =>
    simp only [Order.words, Order.name, Order.operand?, Option.toList, operand, decision, value, Order.command?]
    cases options.decision <;> rfl
  | display execution => rfl
  | list => rfl
  | validate workflow => rfl

/-- The request that was given, with its settings. -/
theorem Gathered.toOption_request : (g.invocation.map Wish.call).toOption =
    g.command.toOption.map fun c => .call ⟨c, g.value? .config, g.value? .dataDir, g.verbose⟩ := by
  unfold invocation
  cases g.command <;> rfl

/-- **The order of the options does not matter.** However the options of a choice are ordered, and wherever between the
words of a command they stand, the request is that command with the values that were chosen, and there is none only if
an option is missing that the command cannot do without. -/
theorem parse_interleaved {order : Order} {options : Options} {groups : List Group} {line : List String}
    (plain : ∀ w ∈ order.operand?, w.startsWith "-" = false) (given : groups.Perm options.groups)
    (shuffled : Interleaved order.words groups line) :
    (parse line).toOption = (order.command? options).map fun c =>
      .call ⟨c, options.value .config, options.value .dataDir, options.verbose.isSome⟩ := by
  have all : ∀ w ∈ order.words, w.startsWith "-" = false := by
    intro w mem
    rcases List.mem_cons.1 mem with rfl | mem
    · exact order.startsWith_name
    · exact plain w (Option.mem_toList.1 mem)
  have once : (Gathered.empty.decision.toList ++ groups.filterMap Group.decision?).length ≤ 1 := by
    rw [Options.decisions given]
    cases options.decision <;> simp [Gathered.empty]
  let g := Gathered.empty.adding order.words groups
  have value (o : ValueOption) : g.value? o = options.value o := by
    rw [← Options.lookup_bindings given o]
    simp [g, Gathered.value?, Gathered.adding, Gathered.empty]
  have decision : g.decision = options.decision := by
    simp only [g, Gathered.adding, Gathered.empty, Options.decisions given]
    cases options.decision <;> rfl
  have verbose : g.verbose = options.verbose.isSome := by
    simp only [g, Gathered.adding, Gathered.empty, given.any_eq, Options.any_isVerbose_groups, Bool.false_or]
  have gathered : parse line = g.invocation.map .call := gather_interleaved shuffled all .empty once
  have words : g.words = order.words := rfl
  rw [gathered, Gathered.toOption_request, Gathered.toOption_command words value decision, value, value, verbose]

/-- An entity id that reads like a question for help, and options on both sides of the words. -/
theorem parse_interleaved_run :
    (parse ["--entity-id", "--help", "-v", "run", "--entity", "-", "w.yaml", "--entity-type", "t"]).toOption =
      some (.call ⟨.run "w.yaml" "-" "t" "--help" none none, none, none, true⟩) := by
  let options : Options :=
    ⟨(List.lookup · [(.entity, "-"), (.entityType, "t"), (.entityId, "--help")]), none, some true⟩
  let groups : List Group :=
    [.value .entityId "--help", .verbose true, .value .entity "-", .value .entityType "t"]
  have given : groups.Perm options.groups := by decide
  have shuffled : Interleaved (Order.run "w.yaml").words groups
      ["--entity-id", "--help", "-v", "run", "--entity", "-", "w.yaml", "--entity-type", "t"] :=
    .group (.group (.word (.group (.word (.group .nil)))))
  exact parse_interleaved (by decide +kernel) given shuffled

end Cli

end Workflows
