import Spellbook.Proofs.Evaluation.Discipline
import Spellbook.Proofs.Evaluation.Library
import Spellbook.Proofs.Evaluation.Slips
import Spellbook.Proofs.Lexing.Division
import Spellbook.Proofs.Parsing.Shape
import Spellbook.Session

/-!
# How the evaluation of a script conducts itself

A script is a tree that was read from a source, so that nothing is missing in it and all its
operators exist. Its evaluation visits such nodes only and never ends in an error that blames the
tree. Where it ends in a fault, the fault is that of an operation that slipped or of a builtin.

All of this is one invariant of traced evaluations (`Traced.Upright`). It includes that the bodies
of all declared spells are statements, since spells are entered long after they were declared.
-/

namespace Spellbook

open List

/-! ## Blame -/

/-- Does the trouble blame the tree, rather than what the script does? -/
def Trouble.blamesTree : Trouble → Bool
  | error failure => failure.cause.blamesTree
  | fault _ => false

theorem Trouble.Worded.spares {trouble : Trouble} (worded : trouble.Worded) :
    trouble.blamesTree = false := by
  cases worded <;> rfl

namespace Halt

def blamesTree : Halt → Bool
  | trouble failure => failure.blamesTree
  | breaking | continuing | casting _ | weary => false

def fault? : Halt → Option Fault
  | trouble failure => failure.fault?
  | breaking | continuing | casting _ | weary => none

end Halt

namespace Action

variable {α β : Type}

/-- An action that never blames the tree. -/
structure Spares (action : Action α) : Prop where
  spares : ∀ {world after : World} {trouble : Trouble}, action world = .error trouble after →
    trouble.blamesTree = false

namespace Spares

theorem of_composed {action : Action α} (composed : Composed action) : Spares action :=
  ⟨fun ended => (composed.worded ended).spares⟩

theorem blame {cause : Cause} (spared : cause.blamesTree = false) (place : Place) :
    Spares (Operation.blame cause place : Action α) := by
  constructor
  intro world after trouble ended
  cases ended
  exact spared

theorem bind {action : Action α} {next : α → Action β} (begun : Spares action)
    (continued : ∀ res, Spares (next res)) : Spares (action >>= next) := by
  constructor
  intro world after trouble ended
  simp only [Bind.bind, EStateM.bind] at ended
  cases first : action world with
  | ok res middle =>
    simp only [first] at ended
    exact (continued res).spares ended
  | error failure middle =>
    simp only [first] at ended
    cases ended
    exact begun.spares first

theorem readLine (prompt : String) : Spares (Action.readLine prompt) := by
  constructor
  intro world after trouble ended
  cases head : world.console.input.head? with
  | none =>
    rw [readLine_of_nothing head] at ended
    cases ended
    rfl
  | some line =>
    cases line with
    | none =>
      rw [readLine_of_interrupt head] at ended
      cases ended
      rfl
    | some line =>
      rw [readLine_of_line head] at ended
      cases ended

theorem of_moved {place place' : Place} {action action' : Action α}
    (moved : Moved place place' action action') : Spares action := by
  induction moved with
  | composed composed => exact of_composed composed
  | blame spared => exact blame spared place
  | bind begun continued ih ihNext => exact ih.bind ihNext

end Spares

end Action

theorem Builtin.spares_of_named {name : String} {builtin : Builtin}
    (found : named? name = some builtin) (args : List Value) :
    Action.Spares (builtin.act args) := by
  rcases library_composed builtin (mem_of_find?_eq_some found) args with composed | reads
  · exact .of_composed composed
  · rw [reads]
    apply Action.Spares.bind (.of_composed (.textOr _ _))
    intro prompt
    exact (Action.Spares.readLine prompt).bind fun _ => .of_composed (.pure _)

/-! ## Proper moments -/

theorem Node.IsExpression.isVisitable {node : Node} (isExpression : node.IsExpression) :
    node.isVisitable = true := by
  cases isExpression with
  | @binary left right op place known leftSide rightSide =>
    cases op with
    | unknown spelling => simp [Operator.all] at known
    | _ => rfl
  | _ => rfl

theorem Node.IsStatement.isVisitable {node : Node} (isStatement : node.IsStatement) :
    node.isVisitable = true := by
  cases isStatement <;> rfl

namespace Moment

/-- A visit to a node that can be visited, or a spell entered with an argument per parameter. -/
def isProper : Moment → Bool
  | visit node => node.isVisitable
  | enter params args => params.length == args.length
  | operate .. | invoke .. => true

/-- The fault of an operation that slips, or of a builtin. -/
def slip? : Moment → Option Fault
  | operate labour world => labour.slip? world
  | invoke builtin args world => (builtin.act args).fault? world
  | visit _ | enter .. => none

def isEntry : Moment → Bool
  | enter .. => true
  | visit _ | operate .. | invoke .. => false

/-- Is a builtin called at the moment? -/
def isInvocation : Moment → Bool
  | invoke .. => true
  | visit _ | operate .. | enter .. => false

theorem filterMap_slip? (moment : Moment) : [moment].filterMap slip? = moment.slip?.toList := by
  rw [filterMap_cons]
  cases moment.slip? <;> rfl

end Moment

/-- The bodies of all declared spells are statements. -/
def Machine.Stated (machine : Machine) : Prop :=
  ∀ closure ∈ machine.closures, ∀ node ∈ closure.body, node.IsStatement

namespace Eval

variable {α : Type}

theorem fault?_iff {ended : EStateM.Result Halt Machine α} {fault : Fault} :
    (halt? ended).bind Halt.fault? = some fault ↔
      ∃ after, ended = .error (.trouble (.fault fault)) after := by
  constructor
  · intro isFault
    rcases ended with _ | ⟨⟨_ | _⟩ | _, after⟩ <;> cases isFault
    exact ⟨after, rfl⟩
  · rintro ⟨after, rfl⟩
    rfl

/-- What is neither a fault nor weariness is a value or an error of the language. -/
theorem graceful_iff {ended : EStateM.Result Halt Machine α} :
    ((∃ value after, ended = .ok value after) ∨
        ∃ halt after, ended = .error halt after ∧ halt.isScriptError = true) ↔
      (∀ fault, ¬∃ after, ended = .error (.trouble (.fault fault)) after) ∧
        ¬∃ after, ended = .error .weary after := by
  constructor
  · rintro (⟨value, after, rfl⟩ | ⟨halt, after, rfl, graceful⟩)
    · exact ⟨by rintro fault ⟨_, ⟨⟩⟩, by rintro ⟨_, ⟨⟩⟩⟩
    · constructor
      · rintro fault ⟨_, ⟨⟩⟩
        cases graceful
      · rintro ⟨_, ⟨⟩⟩
        cases graceful
  · rintro ⟨faultless, awake⟩
    rcases ended with ⟨value, after⟩ | ⟨⟨failure | fault⟩ | _, after⟩
    case error.trouble.fault => exact absurd ⟨after, rfl⟩ (faultless fault)
    case ok => exact Or.inl ⟨value, after, rfl⟩
    case error.weary => exact absurd ⟨after, rfl⟩ awake
    all_goals exact Or.inr ⟨_, after, rfl, rfl⟩

end Eval

namespace Traced

open Told

variable {α β : Type}

/--
An evaluation that is told as it should be: its moments are proper, what slips in them is the fault
in which it ends, and it neither blames the tree nor leaves a spell whose body is not made of
statements.
-/
structure Decent (told : List Moment × EStateM.Result Halt Machine α) : Prop where
  stated : (Eval.left told.2).Stated
  proper : ∀ moment ∈ told.1, moment.isProper = true
  slips : told.1.filterMap Moment.slip? = ((Eval.halt? told.2).bind Halt.fault?).toList
  spares : ∀ halt ∈ Eval.halt? told.2, halt.blamesTree = false

theorem Decent.fault_iff {told : List Moment × EStateM.Result Halt Machine α} (decent : Decent told)
    (fault : Fault) :
    (∃ after, told.2 = .error (.trouble (.fault fault)) after) ↔
      ∃ moment ∈ told.1, moment.slip? = some fault := by
  rw [← mem_filterMap, decent.slips, Option.mem_toList, Eval.fault?_iff]

/-- A traced evaluation that is decent wherever the bodies of all spells are statements. -/
def Upright (body : Traced α) : Prop := ∀ machine, machine.Stated → Decent (body machine)

theorem silent_get_bind (next : Machine → Traced α) (machine : Machine) :
    (silent get >>= next) machine = next machine machine := rfl

namespace Upright

theorem pure (res : α) : Upright (Pure.pure res) := by
  intro machine stated
  exact ⟨stated, forall_mem_nil _, rfl, fun halt mem => by cases mem⟩

theorem bind {body : Traced α} {next : α → Traced β} (begun : Upright body)
    (continued : ∀ res, Upright (next res)) : Upright (body >>= next) := by
  intro machine stated
  have first := begun machine stated
  simp only [Bind.bind]
  generalize body machine = told at first
  rcases told with ⟨moments, res | halt⟩
  case ok middle =>
    have second := continued res middle first.stated
    refine ⟨second.stated, ?_, ?_, second.spares⟩
    · intro moment mem
      rcases mem_append.mp mem with earlier | later
      · exact first.proper moment earlier
      · exact second.proper moment later
    · rw [filterMap_append, first.slips]
      exact second.slips
  case error middle => exact ⟨first.stated, first.proper, first.slips, first.spares⟩

theorem note (moment : Moment) (proper : moment.isProper = true) (sure : moment.slip? = none) :
    Upright (Told.note moment) := by
  intro machine stated
  refine ⟨stated, ?_, ?_, fun halt mem => by cases mem⟩
  · intro other mem
    rw [mem_singleton.mp mem]
    exact proper
  · exact (Moment.filterMap_slip? moment).trans (congrArg Option.toList sure)

/-! ### Evaluations in which there is nothing to tell -/

/-- An end that leaves the spells of a machine as they are and is neither a fault nor blame. -/
inductive Harmless (machine : Machine) : EStateM.Result Halt Machine α → Prop where
  | ok (res : α) {after : Machine} (closures : after.closures = machine.closures) :
      Harmless machine (.ok res after)
  | error {halt : Halt} {after : Machine} (closures : after.closures = machine.closures)
      (sure : halt.fault? = none) (spared : halt.blamesTree = false) :
      Harmless machine (.error halt after)

theorem silent {body : Eval α} (harmless : ∀ machine, Harmless machine (body machine)) :
    Upright (Told.silent body) := by
  intro machine stated
  have ended := harmless machine
  rw [Told.silent]
  generalize body machine = res at ended
  cases ended with
  | ok res closures =>
    refine ⟨?_, forall_mem_nil _, rfl, fun halt mem => by cases mem⟩
    exact fun closure mem => stated closure (closures ▸ mem)
  | error closures sure spared =>
    refine ⟨?_, forall_mem_nil _, (congrArg Option.toList sure).symm, ?_⟩
    · exact fun closure mem => stated closure (closures ▸ mem)
    · rintro _ ⟨⟩
      exact spared

theorem throw {halt : Halt} (sure : halt.fault? = none) (spared : halt.blamesTree = false) :
    Upright (Told.silent (MonadExcept.throw halt : Eval α)) :=
  silent fun _ => .error rfl sure spared

theorem blame {cause : Cause} (spared : cause.blamesTree = false) (place : Place) :
    Upright (Told.silent (Eval.blame cause place : Eval α)) :=
  throw rfl spared

theorem signal {node : Node} {halt : Halt} (gives : node.signals halt = true) :
    Upright (Told.silent (MonadExcept.throw halt : Eval α)) := by
  cases halt with
  | trouble => cases node <;> cases gives
  | _ => exact throw rfl rfl

theorem act {action : Action α}
    (unfailing : ∀ world, ∃ res after, action world = .ok res after) :
    Upright (Told.silent (Eval.act action)) := by
  apply silent
  intro machine
  obtain ⟨res, after, done⟩ := unfailing machine.world
  simp only [Eval.act, done]
  exact .ok res rfl

theorem lookUp (name : String) (place : Place) :
    Upright (Told.silent (Eval.lookUp name place)) := by
  apply silent
  intro machine
  simp only [Eval.lookUp, Eval.get_bind]
  cases machine.scopes.get? name with
  | some value => exact .ok value rfl
  | none => exact .error rfl rfl rfl

theorem define (name : String) (value : Value) (constant : Bool) :
    Upright (Told.silent (Eval.define name value constant)) :=
  silent fun _ => .ok () rfl

theorem assign (name : String) (value : Value) (place : Place) :
    Upright (Told.silent (Eval.assign name value place)) := by
  apply silent
  intro machine
  simp only [Eval.assign, Eval.get_bind]
  cases machine.scopes.site name with
  | ok pos => exact .ok () rfl
  | error refusal => cases refusal <;> exact .error rfl rfl rfl

theorem delete (name : String) (place : Place) :
    Upright (Told.silent (Eval.delete name place)) := by
  apply silent
  intro machine
  simp only [Eval.delete, Eval.get_bind]
  cases machine.scopes.site name with
  | ok pos => exact .ok () rfl
  | error refusal => cases refusal <;> exact .error rfl rfl rfl

/-- The body of a new spell has to be made of statements itself. -/
theorem newSpell (name : String) (params : List String) {body : List Node} (aloud : Bool)
    (stmts : ∀ node ∈ body, node.IsStatement) :
    Upright (Told.silent (Eval.newSpell name params body aloud)) := by
  intro machine stated
  refine ⟨?_, forall_mem_nil _, rfl, fun halt mem => by cases mem⟩
  intro closure mem
  rcases Array.mem_push.mp mem with old | rfl
  · exact stated closure old
  · exact stmts

/-! ### Operations, builtins and what is around an evaluation -/

/-- A moment in which an action is carried out that ends in the slip of the moment. -/
theorem momentary {action : Action α} {moment : World → Moment}
    (proper : ∀ world, (moment world).isProper = true)
    (slips : ∀ world, action.fault? world = (moment world).slip?) (spares : action.Spares) :
    Upright fun machine => ([moment machine.world], Eval.act action machine) := by
  intro machine stated
  have slip := congrArg Option.toList (slips machine.world).symm
  rw [← Moment.filterMap_slip?] at slip
  have properHere : ∀ other ∈ [moment machine.world], other.isProper = true := by
    intro other mem
    rw [mem_singleton.mp mem]
    exact proper machine.world
  unfold Action.fault? at slip
  cases ended : action machine.world with
  | ok res after =>
    rw [ended] at slip
    simp only [Eval.act, ended]
    exact ⟨stated, properHere, slip, fun halt mem => by cases mem⟩
  | error trouble after =>
    rw [ended] at slip
    simp only [Eval.act, ended]
    refine ⟨stated, properHere, slip, ?_⟩
    rintro _ ⟨⟩
    exact spares.spares ended

theorem operate {labour : Labour} {action : Action α}
    (slips : ∀ world, action.fault? world = labour.slip? world) (spares : action.Spares) :
    Upright (Traced.operate labour action) :=
  momentary (fun _ => rfl) slips spares

theorem invoke {name : String} {builtin : Builtin} (found : Builtin.named? name = some builtin)
    (args : List Value) : Upright (Traced.invoke builtin args) :=
  momentary (fun _ => rfl) (fun _ => rfl) (Builtin.spares_of_named found args)

theorem within {body : Traced α} (upright : Upright body) (parent : Nat) (frame : Frame) :
    Upright (Traced.within parent frame body) := by
  intro machine stated
  have told := upright (Eval.atScope { machine with scopes := machine.scopes.push parent frame }
    machine.scopes.all.size) stated
  simp only [Traced.within, Eval.within]
  generalize body _ = ended at told
  rcases ended with ⟨moments, res | halt⟩
  all_goals exact ⟨told.stated, told.proper, told.slips, told.spares⟩

theorem nested {body : Traced α} (upright : Upright body) (frame : Frame) :
    Upright (Traced.nested frame body) :=
  fun machine => upright.within machine.scopes.current frame machine

theorem takeCast {body : Traced Value} (upright : Upright body) :
    Upright (Traced.takeCast body) := by
  intro machine stated
  have told := upright machine stated
  simp only [Traced.takeCast, Eval.takeCast]
  generalize body machine = ended at told
  rcases ended with ⟨moments, res | halt⟩
  case ok => exact told
  case error =>
    cases halt with
    | casting value => exact ⟨told.stated, told.proper, told.slips, fun _ mem => by cases mem⟩
    | _ => exact told

theorem round {body : Traced Value} (upright : Upright body) (before : Value) :
    Upright (Traced.round body before) := by
  intro machine stated
  have told := upright machine stated
  simp only [Traced.round, Eval.round]
  generalize body machine = ended at told
  rcases ended with ⟨moments, res | halt⟩
  case ok => exact ⟨told.stated, told.proper, told.slips, fun _ mem => by cases mem⟩
  case error =>
    cases halt with
    | breaking | continuing =>
      exact ⟨told.stated, told.proper, told.slips, fun _ mem => by cases mem⟩
    | trouble | casting | weary => exact ⟨told.stated, told.proper, told.slips, told.spares⟩

theorem checkArity_bind {next : Unit → Traced α} {wanted given : Nat} (place : Place)
    (continued : wanted = given → Upright (next ())) :
    Upright (Told.silent (Eval.checkArity place wanted given) >>= next) := by
  rw [Eval.checkArity]
  split
  case isTrue same => exact bind (pure ()) fun _ => continued same
  case isFalse =>
    have blamed : (Cause.wrongArity wanted given).blamesTree = false := rfl
    exact fun machine stated => @blame α _ blamed place machine stated

/-- An operation ends in its slip and blames the tree only for an operator that does not exist. -/
theorem of_does {labour : Labour} {action : Action α} (does : labour.Does action)
    (known : labour.isKnown = true) : Upright (Traced.operate labour action) := by
  cases does with
  | binary place op left right =>
    have listed : op ∈ Operator.all := by
      cases op with
      | unknown => cases known
      | _ => simp [Operator.all]
    exact operate (Operation.fault?_binary place op left right)
      (.of_moved (.binary place place left right listed))
  | unary place op operand =>
    have slips := Operation.fault?_unary place op operand
    cases op with
    | denial => exact operate slips (.of_moved (.denial place place operand))
    | negation => exact operate slips (.of_moved (.negation place place operand))
    | unknown => cases known
  | readItem place coll index =>
    exact operate (Operation.fault?_readItem place coll index)
      (.of_moved (.readItem place place coll index))
  | writeItem place coll index value =>
    exact operate (Operation.fault?_writeItem place coll index value)
      (.of_moved (.writeItem place place coll index value))
  | readMember place object name =>
    exact operate (Operation.fault?_readMember place object name)
      (.of_moved (.readMember place place object name))
  | takeKey key => exact operate (Operation.fault?_checkKey key) (.of_composed (.checkKey key))
  | advance prey => exact operate prey.fault?_next (.of_composed (.preyNext prey))
  | utter res =>
    exact operate (Action.fault?_utter _) (.of_composed (.bind (.text _) .speakResult))

theorem congruence : Congruence False fun {_} traced _ => Upright traced where
  pure := pure
  bind := bind
  trouble tolerated := tolerated.elim
  blame spared _ place := blame spared place
  act := act
  operate does known := of_does does (known.resolve_right id)
  invoke := invoke
  lookUp := lookUp
  assign := assign
  delete := delete

end Upright

/-! ## Steps and runs -/

/-- What a step at the node evaluates are expressions and statements. -/
structure Orderly (node : Node) : Prop where
  visitable : node.isVisitable = true
  parts : ∀ part ∈ node.parts, part.IsExpression
  blocks : ∀ body ∈ node.branches ++ node.repeated, ∀ inner ∈ body, inner.IsStatement
  spells : ∀ {place name parameters body aloud}, node = .spell place name parameters body aloud →
    ∀ inner ∈ body, inner.IsStatement

theorem Orderly.of_expression {node : Node} (isExpression : node.IsExpression) : Orderly node := by
  refine ⟨isExpression.isVisitable, ?_, ?_, ?_⟩
  all_goals cases isExpression <;> grind [Node.parts, Node.branches, Node.repeated]

theorem Orderly.of_statement {node : Node} (isStatement : node.IsStatement) : Orderly node := by
  refine ⟨isStatement.isVisitable, ?_, ?_, ?_⟩
  case refine_2 =>
    cases isStatement with
    | conditional place tested stated testedAlso statedAlso statedLast =>
      simp only [Node.branches, Node.repeated, append_nil, forall_mem_cons, forall_mem_append,
        forall_mem_map, Option.mem_toList]
      exact ⟨stated, statedAlso, statedLast⟩
    | _ => grind [Node.branches, Node.repeated]
  all_goals cases isStatement <;> grind [Node.parts]

/-- The evaluation of nodes is upright on expressions and statements. -/
structure Trusty (evaluate : Node → Traced Value) : Prop where
  expression : ∀ {node : Node}, node.IsExpression → Upright (evaluate node)
  statement : ∀ {node : Node}, node.IsStatement → Upright (evaluate node)

namespace Trusty

variable {self : Node → Traced Value} (trusty : Trusty self)

include trusty

theorem sequence {nodes : List Node} (stmts : ∀ node ∈ nodes, node.IsStatement) :
    Upright (Traced.sequence self nodes) :=
  @Congruence.sequence _ _ self (fun node => (self node).plain) Upright.congruence nodes
    fun node mem => trusty.statement (stmts node mem)

theorem callSpell (place : Place) (ref : Nat) (aloud : Bool) (args : List Value) :
    Upright (Traced.callSpell self place ref aloud args) := by
  intro machine stated
  rw [Traced.callSpell, silent_get_bind]
  cases found : machine.closures[ref]? with
  | none => exact Upright.blame rfl place machine stated
  | some closure =>
    have body := stated closure (Array.mem_of_getElem? found)
    refine Upright.checkArity_bind place ?_ machine stated
    intro counted
    apply Upright.bind (.note (.enter closure.parameters args) (beq_iff_eq.mpr counted) rfl)
    intro entered
    apply Upright.bind (.takeCast ((trusty.sequence body).within _ _))
    intro res
    exact (Upright.congruence.speak aloud res).bind fun _ => .pure res

theorem step {node : Node} (orderly : Orderly node) (rounds : Nat) :
    Upright (Traced.step self rounds node) := by
  have alongside : Alongside (fun {_} traced _ => Upright traced) self
      (fun node => (self node).plain) node :=
    { parts := fun part mem => trusty.expression (orderly.parts part mem)
      branches := fun body mem =>
        (trusty.sequence (orderly.blocks body (mem_append_left _ mem))).nested _
      rounds := fun body mem frame =>
        ((trusty.sequence (orderly.blocks body (mem_append_right _ mem))).nested frame).round
      signals := fun gives => .signal gives
      defines := fun _ value => .define _ value _
      newSpell := fun isSpell => .newSpell _ _ _ (orderly.spells isSpell)
      callSpell := trusty.callSpell }
  exact Upright.congruence.step (.inl orderly.visitable) alongside (.inl ⟨rfl, .throw rfl rfl⟩)

end Trusty

/-- Evaluation in any number of steps is upright. -/
theorem run_trusty (fuel : Nat) : Trusty (run fuel) := by
  induction fuel with
  | zero => exact ⟨fun _ => .throw rfl rfl, fun _ => .throw rfl rfl⟩
  | succ fuel ih =>
    have visits {node : Node} (orderly : Orderly node) : Upright (run (fuel + 1) node) :=
      (Upright.note (.visit node) orderly.visitable rfl).bind fun _ => ih.step orderly fuel
    exact ⟨fun isExpression => visits (.of_expression isExpression),
      fun isStatement => visits (.of_statement isStatement)⟩

end Traced

namespace Machine

open Traced Told

/-- The evaluation of a script that was read is decent, in any world. -/
theorem interpret_decent {source : String} {program : Node}
    (read : readSource source = .ok program) (world : World) :
    Decent (Traced.interpret program (start world)) := by
  obtain ⟨tokens, -, parsed⟩ := Token.except_bind_eq_ok.mp read
  obtain ⟨stmts, rfl, stated⟩ := Parser.exists_statements parsed
  apply (run_trusty ampleBudget).sequence stated
  intro closure mem
  cases Array.not_mem_empty closure mem

theorem traced_interpret (program : Node) (machine : Machine) :
    (Traced.interpret program machine).2 = interpret program machine :=
  congrFun (plain_interpret program) machine

/--
The evaluation of a script that was read from a source visits only nodes that are there, that can be
visited and whose operators exist, and it enters spells only with as many arguments as they have
parameters.  So it ends in no error that blames the tree.
-/
theorem interpret_stays_proper {source : String} {program : Node}
    (read : readSource source = .ok program) (world : World) :
    (∀ moment ∈ (Traced.interpret program (start world)).1, moment.isProper = true) ∧
      (Traced.interpret program (start world)).2 = interpret program (start world) ∧
        ∀ halt after, interpret program (start world) = .error halt after →
          halt.blamesTree = false := by
  have decent := interpret_decent read world
  have forgotten := traced_interpret program (start world)
  refine ⟨decent.proper, forgotten, ?_⟩
  intro halt after ended
  apply decent.spares
  rw [forgotten, ended]
  rfl

def moments? (source : String) : Option (List Moment) :=
  match readSource source with
  | .ok program => some (Traced.interpret program (start {})).1
  | .error _ => none

theorem exists_of_moments {source : String} {property : List Moment → Bool}
    (checked : (moments? source).any property = true) :
    ∃ program, readSource source = .ok program ∧
      property (Traced.interpret program (start {})).1 = true := by
  unfold moments? at checked
  cases read : readSource source with
  | ok program =>
    rw [read] at checked
    exact ⟨program, rfl, checked⟩
  | error failure =>
    rw [read] at checked
    cases checked

/-- A spell that is called in a loop. -/
def doubling : String :=
  "spell double(n) \x7b cast n * 2 \x7d\nconjure x as 1\n" ++
    "patrol until x exceeds 5 \x7b transmute x as double(x) \x7d\n-x"

theorem interpret_stays_proper_doubling :
    ∃ program, readSource doubling = .ok program ∧
      (Traced.interpret program (start {})).1.any Moment.isEntry = true ∧
        (∀ moment ∈ (Traced.interpret program (start {})).1, moment.isProper = true) ∧
          (Traced.interpret program (start {})).2 = interpret program (start {}) ∧
            ∀ halt after, interpret program (start {}) = .error halt after →
              halt.blamesTree = false := by
  have entered : (moments? doubling).any (fun moments => moments.any Moment.isEntry) = true := by
    decide +kernel
  obtain ⟨program, read, entered⟩ := exists_of_moments entered
  exact ⟨program, read, entered, interpret_stays_proper read {}⟩

/--
A script that calls no builtin ends in a fault exactly if an operation in it slips, and the fault is
that of the operation.  It ends in a value or in an error of the language exactly if no operation
slips and it does not grow weary: spells that call one another without end are a failure below the
language too.
-/
theorem interpret_fault_iff_slip {source : String} {program : Node}
    (read : readSource source = .ok program) {world : World}
    (unaided : ∀ moment ∈ (Traced.interpret program (start world)).1,
      moment.isInvocation = false) :
    (∀ fault, (∃ after,
        interpret program (start world) = .error (.trouble (.fault fault)) after) ↔
          ∃ labour here, .operate labour here ∈ (Traced.interpret program (start world)).1 ∧
            labour.slip? here = some fault) ∧
      (((∃ value after, interpret program (start world) = .ok value after) ∨
          ∃ halt after, interpret program (start world) = .error halt after ∧
            halt.isScriptError = true) ↔
        (∀ labour here, .operate labour here ∈ (Traced.interpret program (start world)).1 →
            labour.slip? here = none) ∧
          ¬∃ after, interpret program (start world) = .error .weary after) := by
  have decent := interpret_decent read world
  rw [← traced_interpret program (start world)]
  generalize Traced.interpret program (start world) = told at decent unaided
  -- The only moments that can slip are operations.
  have slips (fault : Fault) : (∃ moment ∈ told.1, moment.slip? = some fault) ↔
      ∃ labour here, .operate labour here ∈ told.1 ∧ labour.slip? here = some fault := by
    constructor
    · rintro ⟨moment, member, slip⟩
      cases moment with
      | operate labour here => exact ⟨labour, here, member, slip⟩
      | invoke => cases unaided _ member
      | visit | enter => cases slip
    · rintro ⟨labour, here, member, slip⟩
      exact ⟨.operate labour here, member, slip⟩
  have faults (fault : Fault) := (decent.fault_iff fault).trans (slips fault)
  refine ⟨faults, Eval.graceful_iff.trans (and_congr_left fun _ => ?_)⟩
  constructor
  · intro faultless labour here member
    rw [Option.eq_none_iff_forall_ne_some]
    intro fault slip
    exact faultless fault ((faults fault).mpr ⟨labour, here, member, slip⟩)
  · rintro sure fault faulty
    obtain ⟨labour, here, member, slip⟩ := (faults fault).mp faulty
    cases (sure labour here member).symm.trans slip

/-- A spell that takes a remainder, and a call of it with zero. -/
def remainder : String := "spell rest(n) \x7b cast 10 % n \x7d\nrest(0)"

theorem interpret_fault_iff_slip_remainder :
    ∃ program, readSource remainder = .ok program ∧
      (∀ moment ∈ (Traced.interpret program (start {})).1, moment.isInvocation = false) ∧
        (∀ fault, (∃ after,
          interpret program (start {}) = .error (.trouble (.fault fault)) after) ↔
            ∃ labour here, .operate labour here ∈ (Traced.interpret program (start {})).1 ∧
              labour.slip? here = some fault) ∧
          (((∃ value after, interpret program (start {}) = .ok value after) ∨
              ∃ halt after, interpret program (start {}) = .error halt after ∧
                halt.isScriptError = true) ↔
            (∀ labour here, .operate labour here ∈ (Traced.interpret program (start {})).1 →
                labour.slip? here = none) ∧
              ¬∃ after, interpret program (start {}) = .error .weary after) := by
  have unaided : (moments? remainder).any
      (fun moments => moments.all fun moment => !moment.isInvocation) = true := by
    decide +kernel
  obtain ⟨program, read, unaided⟩ := exists_of_moments unaided
  have none : ∀ moment ∈ (Traced.interpret program (start {})).1,
      moment.isInvocation = false := by
    intro moment member
    simpa using all_eq_true.mp unaided moment member
  exact ⟨program, read, none, interpret_fault_iff_slip read none⟩

def halt? (source : String) : Option Halt :=
  match readSource source with
  | .ok program => Eval.halt? (interpret program (start {}))
  | .error _ => none

/--
A quotient by zero is an error of the language, but a remainder by zero is a fault.
-/
theorem remainder_by_zero_faults :
    (halt? "1 / 0").map Halt.isScriptError = some true ∧
      (halt? "1 % 0").map Halt.isScriptError = some false ∧
        (halt? "1 % 0").map Halt.className = some "ZeroDivisionError" := by
  decide +kernel

end Machine

end Spellbook
