import Spellbook.Proofs.Evaluation.Discipline
import Spellbook.Proofs.Parsing.Shape

/-!
# Signals are taken up

`break` and `continue` halt with a signal that the innermost loop takes up, `cast` with one that the
innermost call takes up. If they stand in a script only where there is a loop or a spell around
them, no signal is left over, neither at the end of the script nor at the end of any call.

Calls reach spells that were declared elsewhere, so every step keeps that their bodies are placed as
well as the script is (`Machine.Settled`). To speak of every call in a run, an evaluation is
watched: whenever a call ends in a signal, an alarm is raised in its place, which nothing takes up.
-/

namespace Spellbook

/-! ## Where signals may stand -/

namespace Halt

/-- Is the halt a signal that a loop or a call takes up? -/
def isSignal : Halt → Bool
  | breaking | continuing | casting _ => true
  | trouble _ | weary => false

/-- Can code halt like this, if it stands in a loop or in a spell as given? -/
def allowed (inLoop inSpell : Bool) : Halt → Bool
  | breaking | continuing => inLoop
  | casting _ => inSpell
  | trouble _ | weary => true

theorem isSignal_of_allowed {halt : Halt} (allowed : halt.allowed false false = true) :
    halt.isSignal = false := by
  cases halt <;> first | rfl | cases allowed

/-- What code can do outside loops and spells, it can do inside them. -/
theorem allowed_inside {halt : Halt} (allowed : halt.allowed false false = true)
    (inLoop inSpell : Bool) : halt.allowed inLoop inSpell = true := by
  cases halt <;> first | rfl | cases allowed

end Halt

namespace Node

mutual

/--
Does every `break` and `continue` in the tree stand in the body of a loop, with no spell in between,
and every `cast` in the body of a spell?  The tree itself stands in a loop or spell as given.
-/
def signalsPlaced (inLoop inSpell : Bool) : Node → Bool
  | stray _ | bare _ | literal .. | identifier .. | deletion .. => true
  | breakLoop _ | continueLoop _ => inLoop
  | cast _ none => inSpell
  | cast _ (some value) => inSpell && value.signalsPlaced inLoop inSpell
  | spell _ _ _ body _ => allPlaced false true body
  | patrol _ cond body =>
    cond.signalsPlaced inLoop inSpell && allPlaced true inSpell body
  | hunt _ _ iterable body =>
    iterable.signalsPlaced inLoop inSpell && allPlaced true inSpell body
  | conditional _ cond outcome alts otherwise =>
    cond.signalsPlaced inLoop inSpell && allPlaced inLoop inSpell outcome &&
      branchesPlaced inLoop inSpell alts && blockPlaced inLoop inSpell otherwise
  | program _ stmts => allPlaced inLoop inSpell stmts
  | binary _ left _ right =>
    left.signalsPlaced inLoop inSpell && right.signalsPlaced inLoop inSpell
  | unary _ _ operand => operand.signalsPlaced inLoop inSpell
  | tome _ elems => allPlaced inLoop inSpell elems
  | grimoire _ pairs => pairsPlaced inLoop inSpell pairs
  | index _ coll pos =>
    coll.signalsPlaced inLoop inSpell && pos.signalsPlaced inLoop inSpell
  | call _ callee args =>
    callee.signalsPlaced inLoop inSpell && allPlaced inLoop inSpell args
  | member _ object _ => object.signalsPlaced inLoop inSpell
  | declaration _ _ value _ _ | assignment _ _ value | expression _ value =>
    value.signalsPlaced inLoop inSpell
  | indexAssignment _ coll pos value =>
    coll.signalsPlaced inLoop inSpell && pos.signalsPlaced inLoop inSpell &&
      value.signalsPlaced inLoop inSpell

def allPlaced (inLoop inSpell : Bool) : List Node → Bool
  | [] => true
  | node :: nodes => node.signalsPlaced inLoop inSpell && allPlaced inLoop inSpell nodes

def pairsPlaced (inLoop inSpell : Bool) : List (Node × Node) → Bool
  | [] => true
  | (first, second) :: pairs =>
    first.signalsPlaced inLoop inSpell && second.signalsPlaced inLoop inSpell &&
      pairsPlaced inLoop inSpell pairs

def branchesPlaced (inLoop inSpell : Bool) : List (Node × List Node) → Bool
  | [] => true
  | (condition, body) :: branches =>
    condition.signalsPlaced inLoop inSpell && allPlaced inLoop inSpell body &&
      branchesPlaced inLoop inSpell branches

def blockPlaced (inLoop inSpell : Bool) : Option (List Node) → Bool
  | none => true
  | some body => allPlaced inLoop inSpell body

end

section Placed

variable {inLoop inSpell : Bool}

theorem signalsPlaced_of_all {nodes : List Node} (placed : allPlaced inLoop inSpell nodes = true) :
    ∀ node ∈ nodes, node.signalsPlaced inLoop inSpell = true := by
  induction nodes with
  | nil =>
    intro node mem
    cases mem
  | cons first nodes ih =>
    obtain ⟨firstPlaced, placed⟩ := Bool.and_eq_true_iff.mp placed
    intro node mem
    rcases List.mem_cons.mp mem with rfl | later
    · exact firstPlaced
    · exact ih placed node later

theorem allPlaced_of_branches {branches : List (Node × List Node)}
    (placed : branchesPlaced inLoop inSpell branches = true) :
    ∀ branch ∈ branches, allPlaced inLoop inSpell branch.2 = true := by
  induction branches with
  | nil =>
    intro branch mem
    cases mem
  | cons first branches ih =>
    obtain ⟨firstPlaced, placed⟩ := Bool.and_eq_true_iff.mp placed
    intro branch mem
    rcases List.mem_cons.mp mem with rfl | later
    · exact (Bool.and_eq_true_iff.mp firstPlaced).2
    · exact ih placed branch later

/-- Statements whose signals are placed, standing in a loop or spell as given. -/
def AllSettled (inLoop inSpell : Bool) (nodes : List Node) : Prop :=
  ∀ node ∈ nodes, node.IsStatement ∧ node.signalsPlaced inLoop inSpell = true

theorem allSettled_of {nodes : List Node} (stated : ∀ node ∈ nodes, node.IsStatement)
    (placed : allPlaced inLoop inSpell nodes = true) : AllSettled inLoop inSpell nodes :=
  fun node mem => ⟨stated node mem, signalsPlaced_of_all placed node mem⟩

/--
The nodes that a step evaluates are expressions, and its blocks and signals are placed, if the node
stands in a loop or spell as given.
-/
structure Meets (inLoop inSpell : Bool) (node : Node) : Prop where
  parts : ∀ part ∈ node.parts, part.IsExpression
  branches : ∀ body ∈ node.branches, AllSettled inLoop inSpell body
  repeated : ∀ body ∈ node.repeated, AllSettled true inSpell body
  spells : ∀ {place name parameters body aloud}, node = .spell place name parameters body aloud →
    AllSettled false true body
  signals : ∀ {halt : Halt}, node.signals halt = true → halt.allowed inLoop inSpell = true

theorem IsExpression.meets {node : Node} (isExpression : node.IsExpression) :
    node.Meets false false := by
  constructor
  case parts => cases isExpression <;> grind [Node.parts]
  all_goals cases isExpression <;> grind [Node.branches, Node.repeated, Node.signals]

theorem IsStatement.meets {node : Node} (isStatement : node.IsStatement)
    (placed : node.signalsPlaced inLoop inSpell = true) : node.Meets inLoop inSpell := by
  constructor
  case parts => cases isStatement <;> grind [Node.parts]
  case signals =>
    intro halt
    cases isStatement <;> cases halt <;> grind [Node.signals, signalsPlaced, Halt.allowed]
  case spells =>
    rintro _ _ _ _ _ rfl
    cases isStatement with
    | spell place name params aloud stated => exact allSettled_of stated placed
  case repeated =>
    cases isStatement <;> grind [Node.repeated, signalsPlaced, allSettled_of]
  case branches =>
    intro body mem
    cases isStatement with
    | conditional place tested stated testedAlso statedAlso statedLast =>
      simp only [signalsPlaced, Bool.and_eq_true] at placed
      obtain ⟨⟨⟨-, placed⟩, placedAlso⟩, placedLast⟩ := placed
      rcases List.mem_cons.mp mem with rfl | more
      · exact allSettled_of stated placed
      rcases List.mem_append.mp more with among | last
      · obtain ⟨branch, inside, rfl⟩ := List.mem_map.mp among
        exact allSettled_of (statedAlso branch inside)
          (allPlaced_of_branches placedAlso branch inside)
      · obtain rfl := Option.mem_toList.mp last
        exact allSettled_of (statedLast body rfl) placedLast
    | _ => cases mem

end Placed

end Node

/-- The bodies of all declared spells are statements whose signals are placed. -/
def Machine.Settled (machine : Machine) : Prop :=
  ∀ closure ∈ machine.closures, Node.AllSettled false true closure.body

/-- The one machine twice, if it is settled. -/
def Machine.BothSettled (one other : Machine) : Prop := other = one ∧ one.Settled

instance : Machine.Scoped Machine.BothSettled where
  same both := congrArg Machine.scopes both.1
  rescope both scopes :=
    ⟨congrArg (fun machine : Machine => { machine with scopes }) both.1, both.2⟩

instance : Machine.Worldly Machine.BothSettled where
  same both := congrArg Machine.world both.1
  replace both world := ⟨congrArg (fun machine : Machine => { machine with world }) both.1, both.2⟩

namespace Eval

/-! ## Two evaluations that do the same -/

/-- The same halt twice, if it is possible in the given surroundings. -/
def BothAllowed (inLoop inSpell : Bool) (halt halt' : Halt) : Prop :=
  halt' = halt ∧ halt.allowed inLoop inSpell = true

/--
From settled machines on, the two evaluations do the same, and they halt only as code in the given
surroundings can.
-/
abbrev Agree {α : Type} (inLoop inSpell : Bool) (watched plain : Eval α) : Prop :=
  Parallel (BothAllowed inLoop inSpell) (fun _ => False) Machine.BothSettled watched plain

namespace Agree

variable {α β : Type} {inLoop inSpell : Bool} {watched plain : Eval α}

theorem throw {halt : Halt} (allowed : halt.allowed inLoop inSpell = true) :
    Agree inLoop inSpell (MonadExcept.throw halt : Eval α) (MonadExcept.throw halt) :=
  Parallel.throw ⟨rfl, allowed⟩

/-- What agrees outside loops and spells does inside them. -/
theorem inside (agree : Agree false false watched plain) (inLoop inSpell : Bool) :
    Agree inLoop inSpell watched plain :=
  fun _ _ both => (agree both).mono
    (fun same => ⟨same.1, Halt.allowed_inside same.2 inLoop inSpell⟩) id

/-- A new spell has to be settled itself. -/
theorem newSpell (name : String) (params : List String) {body : List Node} (aloud : Bool)
    (settled : Node.AllSettled false true body) :
    Agree inLoop inSpell (Eval.newSpell name params body aloud)
      (Eval.newSpell name params body aloud) := by
  rintro _ machine ⟨rfl, before⟩
  refine .ok _ ⟨rfl, ?_⟩
  intro closure mem
  rcases Array.mem_push.mp mem with old | rfl
  · exact before closure old
  · exact settled

theorem takeCast {watched plain : Eval Value} (agree : Agree false true watched plain) :
    Agree inLoop inSpell (Eval.takeCast watched) (Eval.takeCast plain) := by
  rw [takeCast_eq_takeUp, takeCast_eq_takeUp]
  refine agree.takeUp ?_ False.elim
  rintro _ halt ⟨rfl, allowed⟩
  refine ⟨rfl, fun unheard => ⟨rfl, ?_⟩⟩
  cases halt with
  | casting => cases unheard
  | trouble | weary => rfl
  | breaking | continuing => cases allowed

theorem round {watched plain : Eval Value} (agree : Agree true inSpell watched plain)
    (before : Value) :
    Agree inLoop inSpell (Eval.round watched before) (Eval.round plain before) := by
  rw [round_eq_takeUp, round_eq_takeUp]
  refine (agree.bind fun _ => .pure _).takeUp ?_ False.elim
  rintro _ halt ⟨rfl, allowed⟩
  refine ⟨rfl, fun unheard => ⟨rfl, ?_⟩⟩
  cases halt with
  | breaking | continuing => cases unheard
  | _ => exact allowed

theorem congruence : Congruence (Agree inLoop inSpell) := Parallel.congruence fun _ => ⟨rfl, rfl⟩

/-- In a settled machine both evaluations do the same, and they halt only as they can. -/
theorem same (agree : Agree inLoop inSpell watched plain) {machine : Machine}
    (settled : machine.Settled) :
    watched machine = plain machine ∧
      ∀ {halt after}, plain machine = .error halt after → halt.allowed inLoop inSpell = true := by
  have ends := agree ⟨rfl, settled⟩
  generalize watched machine = end₁, plain machine = end₂ at ends
  cases ends with
  | ok res both => exact ⟨by rw [both.1], fun same => by cases same⟩
  | error same both =>
    refine ⟨by rw [same.1, both.1], ?_⟩
    rintro _ _ ⟨⟩
    exact same.1 ▸ same.2
  | excuse granted => cases granted

end Agree

/-- The two evaluations of nodes agree on expressions and on statements whose signals are placed. -/
structure Faithful (watched plain : Node → Eval Value) : Prop where
  expression : ∀ {node : Node}, node.IsExpression → Agree false false (watched node) (plain node)
  statement : ∀ {inLoop inSpell : Bool} {node : Node}, node.IsStatement →
    node.signalsPlaced inLoop inSpell = true → Agree inLoop inSpell (watched node) (plain node)

/-! ## The parts of a step -/

namespace Faithful

variable {watched plain : Node → Eval Value} (faithful : Faithful watched plain)
  {inLoop inSpell : Bool}

include faithful

theorem sequence {nodes : List Node} (settled : Node.AllSettled inLoop inSpell nodes) :
    Agree inLoop inSpell (Eval.sequence watched nodes) (Eval.sequence plain nodes) :=
  Agree.congruence.sequence fun node mem =>
    faithful.statement (settled node mem).1 (settled node mem).2

/-- A call of a spell reaches statements that are settled, since the machine is. -/
theorem callSpell (place : Place) (ref : Nat) (aloud : Bool) (args : List Value) :
    Agree false false (Eval.callSpell watched place ref aloud args)
      (Eval.callSpell plain place ref aloud args) := by
  rintro _ machine ⟨rfl, settled⟩
  cases found : machine.closures[ref]? with
  | none =>
    simp only [Eval.callSpell, get_bind, found]
    exact Agree.throw rfl ⟨rfl, settled⟩
  | some closure =>
    have body := settled closure (Array.mem_of_getElem? found)
    simp only [Eval.callSpell, get_bind, found]
    refine Parallel.bind (Agree.congruence.checkArity _ _ _) ?_ ⟨rfl, settled⟩
    intro checked
    refine Parallel.bind (Agree.takeCast ((faithful.sequence body).within _ _)) ?_
    intro res
    exact (Agree.congruence.speak aloud res).bind fun _ => .pure _

theorem step {node : Node} (meets : node.Meets inLoop inSpell) (rounds : Nat) :
    Agree inLoop inSpell (Eval.step watched rounds node) (Eval.step plain rounds node) := by
  have alongside : Alongside (Agree inLoop inSpell) watched plain node :=
    { parts := fun part mem => (faithful.expression (meets.parts part mem)).inside _ _
      branches := fun body mem => (faithful.sequence (meets.branches body mem)).nested _
      rounds := fun body mem frame =>
        Agree.round ((faithful.sequence (meets.repeated body mem)).nested frame)
      signals := fun gives => .throw (meets.signals gives)
      defines := fun _ value => .rescope (·.define _ value _)
      newSpell := fun isSpell => .newSpell _ _ _ (meets.spells isSpell)
      callSpell := fun _ _ _ _ => (faithful.callSpell _ _ _ _).inside _ _ }
  exact Agree.congruence.step alongside (.inl ⟨rfl, .throw rfl⟩)

end Faithful

/-! ## Watched evaluation -/

/-- An evaluation that ends in an alarm in place of a signal. -/
def alarmed (alarm : Halt) (body : Eval Value) : Eval Value := fun machine =>
  match body machine with
  | .ok res after => .ok res after
  | .error halt after => .error (if halt.isSignal then alarm else halt) after

/-- The evaluation of a node, alarmed if the node is a call. -/
def watch (alarm : Halt) (node : Node) (body : Eval Value) : Eval Value :=
  match node with
  | .call .. => alarmed alarm body
  | _ => body

/-- Evaluate a node in at most so many nested steps, with every call in it watched. -/
def watchedRun (alarm : Halt) : (fuel : Nat) → Node → Eval Value
  | 0 => fun _ => throw .weary
  | fuel + 1 => fun node => watch alarm node (step (watchedRun alarm fuel) fuel node)

-- A call that ends in a signal, since one of its arguments does, raises the alarm.
example : watchedRun .weary 2 (.call .unknown (.literal .unknown .void) [.breakLoop .unknown]) {} =
    .error .weary {} := rfl

/-- What ends in no signal raises no alarm. -/
theorem Agree.alarmed {watched plain : Eval Value} (agree : Agree false false watched plain)
    (alarm : Halt) : Agree false false (Eval.alarmed alarm watched) plain := by
  intro one other both
  have ends := agree both
  rw [Eval.alarmed]
  generalize watched one = end₁, plain other = end₂ at ends
  cases ends with
  | ok res both => exact .ok res both
  | error same both =>
    simp only [Halt.isSignal_of_allowed same.2, Bool.false_eq_true, if_false]
    exact .error same both
  | excuse granted => cases granted

/-- Watched and plain evaluation agree, in any number of steps. -/
theorem watchedRun_faithful (alarm : Halt) (fuel : Nat) :
    Faithful (watchedRun alarm fuel) (run fuel) := by
  induction fuel with
  | zero => exact ⟨fun _ => Agree.throw rfl, fun _ _ => Agree.throw rfl⟩
  | succ fuel ih =>
    refine ⟨?_, ?_⟩
    · intro node isExpression
      have agree := ih.step isExpression.meets fuel
      cases isExpression with
      | call place called args => exact agree.alarmed alarm
      | _ => exact agree
    · intro inLoop inSpell node isStatement placed
      have agree := ih.step (isStatement.meets placed) fuel
      cases isStatement <;> exact agree

end Eval

namespace Machine

/-- Evaluate the statements of a program in order, with every call watched. -/
def watchedInterpret (alarm : Halt) : Node → Eval Value
  | .program _ stmts => Eval.sequence (Eval.watchedRun alarm ampleBudget) stmts
  | node => Eval.watchedRun alarm ampleBudget node

/--
If every `break` and `continue` of a script stands in a loop and every `cast` in a spell, the script
does not end in a signal, in any world.  Nor does any call in it: raising an alarm whenever one does
makes no difference.
-/
theorem interpret_takesUp_signals {tokens : List Token} {program : Node}
    (read : Parser.parse tokens = .ok program)
    (placed : program.signalsPlaced false false = true) (world : World) :
    (∀ halt after, interpret program (start world) = .error halt after → halt.isSignal = false) ∧
      ∀ alarm, watchedInterpret alarm program (start world) = interpret program (start world) := by
  obtain ⟨statements, rfl, stated⟩ := Parser.exists_statements read
  have settled : (start world).Settled := fun closure member => by simp [start] at member
  have agree : ∀ alarm, Eval.Agree false false
      (watchedInterpret alarm (.program (.known 0 0) statements))
      (interpret (.program (.known 0 0) statements)) :=
    fun alarm => (Eval.watchedRun_faithful alarm ampleBudget).sequence
      (Node.allSettled_of stated placed)
  refine ⟨?_, fun alarm => ((agree alarm).same settled).1⟩
  intro halt after ended
  exact Halt.isSignal_of_allowed (((agree .weary).same settled).2 ended)

/-- The tokens of a spell that casts nothing, and of a loop that calls it and is left. -/
def castInLoop : List Token :=
  [(.spell, ""), (.identifier, "f"), (.leftParen, ""), (.rightParen, ""), (.leftBrace, ""),
    (.cast, ""), (.rightBrace, ""), (.patrol, ""), (.untilWord, ""), (.falseWord, ""),
    (.leftBrace, ""), (.identifier, "f"), (.leftParen, ""), (.rightParen, ""), (.breakWord, ""),
    (.rightBrace, ""), (.endOfFile, "")].map fun (kind, text) => ⟨kind, .scroll text, 1, 1⟩

/-- The tree of these tokens. -/
def castInLoopTree : Node :=
  .program (.known 0 0)
    [.spell (.known 1 1) "f" [] [.cast (.known 1 1) none] false,
      .patrol (.known 1 1) (.literal (.known 1 1) (.charm false))
        [.expression (.known 1 1) (.call (.known 1 1) (.identifier (.known 1 1) "f") []),
          .breakLoop (.known 1 1)]]

theorem interpret_takesUp_signals_castInLoop :
    Parser.parse castInLoop = .ok castInLoopTree ∧
      castInLoopTree.signalsPlaced false false = true ∧
      (∀ halt after, interpret castInLoopTree (start {}) = .error halt after →
        halt.isSignal = false) ∧
      ∀ alarm, watchedInterpret alarm castInLoopTree (start {}) =
        interpret castInLoopTree (start {}) :=
  ⟨rfl, rfl, @interpret_takesUp_signals castInLoop castInLoopTree rfl rfl {}⟩

end Machine

end Spellbook
