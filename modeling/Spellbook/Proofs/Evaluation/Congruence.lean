import Spellbook.Proofs.Evaluation.Composition
import Spellbook.Proofs.Evaluation.Trace

/-!
# What the steps of two evaluations have in common

A step evaluates nodes inside a node and does single operations in between. So a traced step and a
plain one at one node are related if the operations that every node may use keep the relation
(`Traced.Congruence`) and if it holds for what the node does besides (`Traced.Alongside`).

A relation between two plain evaluations is one between what is left of a traced evaluation and a
plain one, so that it is kept by steps in the same way (`Eval.Congruence.step`).
-/

namespace Spellbook

open List

/-! ## What a node evaluates and does -/

namespace Node

/-- The nodes that a step evaluates in the scope of the node. -/
def parts : Node → List Node
  | stray _ | bare _ | literal .. | identifier .. | deletion .. | spell .. | cast _ none
  | breakLoop _ | continueLoop _ => []
  | unary _ _ part | member _ part _ | declaration _ _ part _ _ | assignment _ _ part
  | cast _ (some part) | patrol _ part _ | hunt _ _ part _ | expression _ part => [part]
  | binary _ left _ right | index _ left right => [left, right]
  | indexAssignment _ coll pos value => [coll, pos, value]
  | tome _ nodes | program _ nodes => nodes
  | grimoire _ pairs => pairs.flatMap fun pair => [pair.1, pair.2]
  | call _ callee args => callee :: args
  | conditional _ cond _ alts _ => cond :: alts.map Prod.fst

/-- The blocks of which a step evaluates one. -/
def branches : Node → List (List Node)
  | conditional _ _ outcome alts otherwise =>
    outcome :: (alts.map Prod.snd ++ otherwise.toList)
  | _ => []

/-- The block that a step repeats. -/
def repeated : Node → List (List Node)
  | patrol _ _ body | hunt _ _ _ body => [body]
  | _ => []

/-- The name that a step defines, with whether it is constant. -/
def defines : Node → List (String × Bool)
  | declaration _ name _ _ constant => [(name, constant)]
  | spell _ name _ _ _ => [(name, false)]
  | _ => []

/-- Is this the signal that a step gives? -/
def signals : Node → Halt → Bool
  | breakLoop _, .breaking | continueLoop _, .continuing | cast .., .casting _ => true
  | _, _ => false

/-- Is the node there, can it be visited, and does its operator exist? -/
def isVisitable : Node → Bool
  | stray _ | bare _ | binary _ _ (.unknown _) _ | unary _ (.unknown _) _ => false
  | _ => true

end Node

namespace Labour

def isKnown : Labour → Bool
  | binary (.unknown _) _ _ | unary (.unknown _) _ => false
  | _ => true

/-- The actions by which an operation is carried out. -/
inductive Does : Labour → {α : Type} → Action α → Prop where
  | binary (place : Place) (op : Operator) (left right : Value) :
      Does (.binary op left right) (Operation.binary place op left right)
  | unary (place : Place) (op : UnaryOperator) (operand : Value) :
      Does (.unary op operand) (Operation.unary place op operand)
  | readItem (place : Place) (coll index : Value) :
      Does (.readItem coll index) (Operation.readItem place coll index)
  | writeItem (place : Place) (coll index value : Value) :
      Does (.writeItem coll index) (Operation.writeItem place coll index value)
  | readMember (place : Place) (object : Value) (name : String) :
      Does (.readMember object name) (Operation.readMember place object name)
  | takeKey (key : Value) : Does (.takeKey key) (Operation.checkKey key)
  | advance (prey : Eval.Prey) : Does (.advance prey) prey.next
  | utter (res : Value) : Does (.utter res) (do Action.speakResult (← Action.text res))

end Labour

namespace Traced

open Told

/--
A relation between traced and plain evaluations that holds for every operation which any node may
use.  If it is tolerant, it also holds where the tree itself is to blame.
-/
structure Congruence (tolerant : Prop) (related : {α : Type} → Traced α → Eval α → Prop) :
    Prop where
  pure : ∀ {α : Type} (res : α), related (Pure.pure res) (Pure.pure res)
  bind : ∀ {α β : Type} {first : Traced α} {second : Eval α} {next : α → Traced β}
    {following : α → Eval β}, related first second →
      (∀ res, related (next res) (following res)) →
        related (first >>= next) (second >>= following)
  trouble : tolerant → ∀ {α : Type} (failure : Trouble),
    related (silent (throw (.trouble failure)) : Traced α) (throw (.trouble failure))
  blame : ∀ {cause : Cause}, cause.blamesTree = false → ∀ {α : Type} (place : Place),
    related (silent (Eval.blame cause place) : Traced α) (Eval.blame cause place)
  act : ∀ {α : Type} {action : Action α},
    (∀ world, ∃ res after, action world = .ok res after) →
      related (silent (Eval.act action)) (Eval.act action)
  operate : ∀ {α : Type} {labour : Labour} {action : Action α}, labour.Does action →
    (labour.isKnown = true ∨ tolerant) → related (operate labour action) (Eval.act action)
  invoke : ∀ {name : String} {builtin : Builtin}, Builtin.named? name = some builtin →
    ∀ args, related (invoke builtin args) (Eval.act (builtin.act args))
  lookUp : ∀ name place, related (silent (Eval.lookUp name place)) (Eval.lookUp name place)
  assign : ∀ name value place,
    related (silent (Eval.assign name value place)) (Eval.assign name value place)
  delete : ∀ name place, related (silent (Eval.delete name place)) (Eval.delete name place)

variable {tolerant : Prop} {related : {α : Type} → Traced α → Eval α → Prop}
  {one : Node → Traced Value} {other : Node → Eval Value}

/-- The relation holds for all that a step at the node does besides. -/
structure Alongside (related : {α : Type} → Traced α → Eval α → Prop) (one : Node → Traced Value)
    (other : Node → Eval Value) (node : Node) : Prop where
  parts : ∀ part ∈ node.parts, related (one part) (other part)
  branches : ∀ body ∈ node.branches, related (block one body) (Eval.block other body)
  rounds : ∀ body ∈ node.repeated, ∀ frame last,
    related (round (nested frame (sequence one body)) last)
      (Eval.round (Eval.nested frame (Eval.sequence other body)) last)
  signals : ∀ {halt : Halt}, node.signals halt = true →
    related (silent (throw halt) : Traced Value) (throw halt)
  defines : ∀ {name : String} {constant : Bool}, (name, constant) ∈ node.defines → ∀ value,
    related (silent (Eval.define name value constant)) (Eval.define name value constant)
  newSpell : ∀ {place name params body aloud}, node = .spell place name params body aloud →
    related (silent (Eval.newSpell name params body aloud))
      (Eval.newSpell name params body aloud)
  callSpell : ∀ place ref aloud args,
    related (callSpell one place ref aloud args)
      (Eval.callSpell other place ref aloud args)

/--
The loops of the two evaluations may take the same number of rounds, or the first one more rounds if
weariness of the second one is excused.
-/
def Paced (related : {α : Type} → Traced α → Eval α → Prop) (more rounds : Nat) : Prop :=
  more = rounds ∧ related (silent (throw .weary) : Traced Value) (throw .weary) ∨
    rounds ≤ more ∧ ∀ first : Traced Value, related first (throw .weary)

namespace Paced

variable {more rounds : Nat}

theorem zero (paced : Paced related more 0) {loop : Nat → Traced Value}
    (ends : loop 0 = silent (throw .weary)) : related (loop more) (throw .weary) := by
  rcases paced with ⟨rfl, tired⟩ | ⟨-, excused⟩
  · rwa [ends]
  · exact excused _

theorem succ (paced : Paced related more (rounds + 1)) :
    ∃ less, more = less + 1 ∧ Paced related less rounds := by
  rcases paced with ⟨rfl, tired⟩ | ⟨enough, excused⟩
  · exact ⟨rounds, rfl, .inl ⟨rfl, tired⟩⟩
  · exact ⟨more - 1, by omega, .inr ⟨by omega, excused⟩⟩

end Paced

/-! ## The parts of a step -/

namespace Congruence

variable (congruence : Congruence tolerant related)

include congruence

theorem values {nodes : List Node} (parts : ∀ node ∈ nodes, related (one node) (other node)) :
    related (Traced.values one nodes) (Eval.values other nodes) := by
  induction nodes with
  | nil => exact congruence.pure _
  | cons node nodes ih =>
    obtain ⟨first, others⟩ := forall_mem_cons.mp parts
    exact congruence.bind first fun _ => congruence.bind (ih others) fun _ => congruence.pure _

theorem sequence {nodes : List Node} (parts : ∀ node ∈ nodes, related (one node) (other node)) :
    related (Traced.sequence one nodes) (Eval.sequence other nodes) := by
  induction nodes with
  | nil => exact congruence.pure _
  | cons node nodes ih =>
    obtain ⟨first, others⟩ := forall_mem_cons.mp parts
    cases nodes with
    | nil => exact first
    | cons next nodes => exact congruence.bind first fun _ => ih others

theorem fillEntries {pairs : List (Node × Node)}
    (parts : ∀ node ∈ pairs.flatMap fun pair => [pair.1, pair.2], related (one node) (other node))
    (entries : Entries) :
    related (Traced.fillEntries one pairs entries) (Eval.fillEntries other pairs entries) := by
  induction pairs generalizing entries with
  | nil => exact congruence.pure entries
  | cons pair pairs ih =>
    obtain ⟨key, parts⟩ := forall_mem_cons.mp parts
    obtain ⟨value, others⟩ := forall_mem_cons.mp parts
    refine congruence.bind key fun _ => congruence.bind value fun _ => ?_
    exact congruence.bind (congruence.operate (.takeKey _) (.inl rfl)) fun _ => ih others _

theorem condition {test : Node} (part : related (one test) (other test)) :
    related (Traced.condition one test) (Eval.condition other test) :=
  congruence.bind part fun _ => congruence.act fun _ => ⟨_, _, rfl⟩

theorem checkArity (place : Place) (wanted given : Nat) :
    related (silent (Eval.checkArity place wanted given)) (Eval.checkArity place wanted given) := by
  unfold Eval.checkArity
  split
  · exact congruence.pure ()
  · exact congruence.blame rfl place

theorem speak (aloud : Bool) (res : Value) :
    related (Traced.speak aloud res) (Eval.speak aloud res) := by
  cases aloud with
  | false => exact congruence.pure ()
  | true =>
    cases res with
    | void => exact congruence.pure ()
    | _ => exact congruence.operate (.utter _) (.inl rfl)

theorem callBuiltin (place : Place) (name : String) (args : List Value) :
    related (Traced.callBuiltin place name args) (Eval.callBuiltin place name args) := by
  unfold Traced.callBuiltin Eval.callBuiltin
  cases found : Builtin.named? name with
  | none => exact congruence.pure Value.void
  | some builtin =>
    dsimp only
    cases builtin.arity with
    | none => exact congruence.invoke found args
    | some wanted =>
      exact congruence.bind (congruence.checkArity _ _ _) fun _ => congruence.invoke found args

theorem firstBranch {otherwise : Option (List Node)} {branches : List (Node × List Node)}
    (tests : ∀ test ∈ branches.map Prod.fst, related (one test) (other test))
    (blocks : ∀ body ∈ branches.map Prod.snd ++ otherwise.toList,
      related (block one body) (Eval.block other body)) :
    related (Traced.firstBranch one otherwise branches)
      (Eval.firstBranch other otherwise branches) := by
  induction branches with
  | nil =>
    cases otherwise with
    | none => exact congruence.pure Value.void
    | some body => exact blocks body mem_cons_self
  | cons branch branches ih =>
    obtain ⟨test, tests⟩ := forall_mem_cons.mp tests
    obtain ⟨block, blocks⟩ := forall_mem_cons.mp blocks
    refine congruence.bind (congruence.condition test) ?_
    rintro (_ | _)
    · exact ih tests blocks
    · exact block

theorem patrol {test : Node} {body : List Node} (part : related (one test) (other test))
    (bodies : ∀ frame last, related (round (nested frame (Traced.sequence one body)) last)
      (Eval.round (Eval.nested frame (Eval.sequence other body)) last))
    {more rounds : Nat} (paced : Paced related more rounds) (last : Value) :
    related (Traced.patrol one test body more last) (Eval.patrol other test body rounds last) := by
  induction rounds generalizing more last with
  | zero => exact @Paced.zero _ more paced (Traced.patrol one test body · last) rfl
  | succ rounds ih =>
    obtain ⟨less, rfl, further⟩ := paced.succ
    refine congruence.bind (congruence.condition part) ?_
    rintro (_ | _)
    · refine congruence.bind (bodies {} last) ?_
      rintro (value | value)
      · exact ih further value
      · exact congruence.pure value
    · exact congruence.pure last

theorem hunt {body : List Node}
    (bodies : ∀ frame last, related (round (nested frame (Traced.sequence one body)) last)
      (Eval.round (Eval.nested frame (Eval.sequence other body)) last))
    {more rounds : Nat} (paced : Paced related more rounds) (name : String) (prey : Eval.Prey)
    (last : Value) :
    related (Traced.hunt one name body more prey last)
      (Eval.hunt other name body rounds prey last) := by
  induction rounds generalizing more prey last with
  | zero => exact @Paced.zero _ more paced (Traced.hunt one name body · prey last) rfl
  | succ rounds ih =>
    obtain ⟨less, rfl, further⟩ := paced.succ
    refine congruence.bind (congruence.operate (.advance prey) (.inl rfl)) ?_
    rintro (_ | next)
    · exact congruence.pure last
    · refine congruence.bind (bodies _ last) ?_
      rintro (value | value)
      · exact ih further next.2 value
      · exact congruence.pure value

/-! ## Steps -/

theorem step {node : Node} (visitable : node.isVisitable = true ∨ tolerant)
    (alongside : Alongside related one other node) {more rounds : Nat}
    (paced : Paced related more rounds) :
    related (Traced.step one more node) (Eval.step other rounds node) := by
  have parts := alongside.parts
  have bind := @congruence.bind
  have operate := @congruence.operate
  cases node with
  | stray | bare =>
    rcases visitable with visitable | tolerated
    · cases visitable
    · exact congruence.trouble tolerated _
  | literal => exact congruence.pure _
  | identifier => exact congruence.lookUp _ _
  | unary place op =>
    refine bind (parts _ (.head _)) fun _ => operate (.unary ..) ?_
    cases op <;> exact visitable
  | binary place left op =>
    refine bind (parts _ (.head _)) fun _ => bind (parts _ (.tail _ (.head _))) fun _ => ?_
    refine operate (.binary ..) ?_
    cases op <;> exact visitable
  | member => exact bind (parts _ (.head _)) fun _ => operate (.readMember ..) (.inl rfl)
  | index =>
    refine bind (parts _ (.head _)) fun _ => bind (parts _ (.tail _ (.head _))) fun _ => ?_
    exact operate (.readItem ..) (.inl rfl)
  | tome => exact bind (congruence.values parts) fun _ => congruence.act fun _ => ⟨_, _, rfl⟩
  | grimoire =>
    exact bind (congruence.fillEntries parts _) fun _ => congruence.act fun _ => ⟨_, _, rfl⟩
  | call place callee args =>
    obtain ⟨called, argued⟩ := forall_mem_cons.mp parts
    refine bind called fun callee => bind (congruence.values argued) fun _ => ?_
    cases callee with
    | spell => exact alongside.callSpell _ _ _ _
    | builtin => exact congruence.callBuiltin _ _ _
    | _ => exact congruence.blame rfl _
  | program => exact congruence.sequence parts
  | declaration =>
    refine bind (parts _ (.head _)) fun res => ?_
    exact bind (alongside.defines (.head _) res) fun _ => congruence.pure _
  | assignment =>
    refine bind (parts _ (.head _)) fun _ => ?_
    exact bind (congruence.assign _ _ _) fun _ => congruence.pure _
  | indexAssignment =>
    refine bind (parts _ (.head _)) fun _ => bind (parts _ (.tail _ (.head _))) fun _ => ?_
    refine bind (parts _ (.tail _ (.tail _ (.head _)))) fun _ => ?_
    exact bind (operate (.writeItem ..) (.inl rfl)) fun _ => congruence.pure _
  | deletion => exact bind (congruence.delete _ _) fun _ => congruence.pure _
  | spell =>
    refine bind (alongside.newSpell rfl) fun res => ?_
    exact bind (alongside.defines (.head _) res) fun _ => congruence.pure _
  | cast place value =>
    cases value with
    | none => exact alongside.signals rfl
    | some value => exact bind (parts _ (.head _)) fun _ => alongside.signals rfl
  | conditional => exact congruence.firstBranch parts alongside.branches
  | patrol =>
    exact congruence.patrol (parts _ (.head _)) (alongside.rounds _ (.head _)) paced .void
  | hunt place name iterable body =>
    refine bind (parts _ (.head _)) fun value => bind (congruence.act ?_) ?_
    · intro world
      cases value <;> exact ⟨_, _, rfl⟩
    · rintro (_ | prey)
      · exact congruence.blame rfl _
      · exact congruence.hunt (alongside.rounds _ (.head _)) paced _ prey .void
  | breakLoop | continueLoop => exact alongside.signals rfl
  | expression => exact parts _ (.head _)

end Congruence

/-! ## Forgetting the moments -/

theorem forgetting : Congruence True fun {_} traced plainly => plain traced = plainly where
  pure _ := rfl
  bind first next := by rw [plain_bind, first, funext next]
  trouble _ _ _ := rfl
  blame _ _ _ := rfl
  act _ := rfl
  operate _ _ := rfl
  invoke _ _ := rfl
  lookUp _ _ := rfl
  assign _ _ _ := rfl
  delete _ _ := rfl

section Forgetting

variable (forgets : ∀ node, plain (one node) = other node)

include forgets

theorem plain_sequence (nodes : List Node) :
    plain (sequence one nodes) = Eval.sequence other nodes :=
  forgetting.sequence fun node _ => forgets node

theorem plain_callSpell (place : Place) (ref : Nat) (aloud : Bool) (args : List Value) :
    plain (callSpell one place ref aloud args) = Eval.callSpell other place ref aloud args := by
  refine forgetting.bind rfl fun machine => ?_
  cases machine.closures[ref]? with
  | none => rfl
  | some closure =>
    simp only [plain_bind, plain_silent, plain_note, pure_bind, plain_takeCast, plain_within,
      plain_sequence forgets, forgetting.speak, plain_pure]

theorem plain_step (rounds : Nat) (node : Node) :
    plain (step one rounds node) = Eval.step other rounds node := by
  refine forgetting.step (.inr trivial) ?_ (.inl ⟨rfl, rfl⟩)
  exact
    { parts := fun part _ => forgets part
      branches := fun body _ => congrArg (Eval.nested {}) (plain_sequence forgets body)
      rounds := fun body _ frame last =>
        congrArg (fun body => Eval.round (Eval.nested frame body) last)
          (plain_sequence forgets body)
      signals := fun _ => rfl
      defines := fun _ _ => rfl
      newSpell := fun _ => rfl
      callSpell := plain_callSpell forgets }

end Forgetting

/-- A traced evaluation is the plain one once its moments are forgotten. -/
theorem plain_run (fuel : Nat) (node : Node) :
    plain (run fuel node) = Eval.run fuel node := by
  induction fuel generalizing node with
  | zero => rfl
  | succ fuel ih =>
    rw [run, plain_bind, plain_note, pure_bind, plain_step ih]
    rfl

theorem plain_interpret (program : Node) :
    plain (interpret program) = Machine.interpret program := by
  cases program with
  | program place stmts => exact plain_sequence (plain_run Machine.ampleBudget) stmts
  | _ => exact plain_run Machine.ampleBudget _

end Traced

/-! ## Two plain evaluations -/

namespace Eval

open Told

/-- A relation between two plain evaluations, the first of them as what is left of a traced one. -/
abbrev Congruence (related : {α : Type} → Eval α → Eval α → Prop) : Prop :=
  Traced.Congruence True fun {_} traced plainly => related (plain traced) plainly

variable {related : {α : Type} → Eval α → Eval α → Prop} {one other : Node → Eval Value}

structure Alongside (related : {α : Type} → Eval α → Eval α → Prop)
    (one other : Node → Eval Value) (node : Node) : Prop where
  parts : ∀ part ∈ node.parts, related (one part) (other part)
  branches : ∀ body ∈ node.branches, related (block one body) (block other body)
  rounds : ∀ body ∈ node.repeated, ∀ frame last,
    related (round (nested frame (sequence one body)) last)
      (round (nested frame (sequence other body)) last)
  signals : ∀ {halt : Halt}, node.signals halt = true →
    related (throw halt : Eval Value) (throw halt)
  defines : ∀ {name : String} {constant : Bool}, (name, constant) ∈ node.defines → ∀ value,
    related (define name value constant) (define name value constant)
  newSpell : ∀ {place name params body aloud}, node = .spell place name params body aloud →
    related (Eval.newSpell name params body aloud) (Eval.newSpell name params body aloud)
  callSpell : ∀ place ref aloud args,
    related (Eval.callSpell one place ref aloud args)
      (Eval.callSpell other place ref aloud args)

namespace Congruence

variable (congruence : Congruence related)

include congruence

theorem sequence {nodes : List Node} (parts : ∀ node ∈ nodes, related (one node) (other node)) :
    related (Eval.sequence one nodes) (Eval.sequence other nodes) := by
  rw [← Traced.plain_sequence (fun node => plain_silent (one node)) nodes]
  exact Traced.Congruence.sequence congruence parts

theorem speak (aloud : Bool) (res : Value) :
    related (Eval.speak aloud res) (Eval.speak aloud res) := by
  have spoken := Traced.Congruence.speak congruence aloud res
  rwa [Traced.forgetting.speak] at spoken

theorem step {node : Node} (alongside : Alongside related one other node) {more rounds : Nat}
    (paced : Traced.Paced (fun {_} traced plainly => related (plain traced) plainly) more rounds) :
    related (Eval.step one more node) (Eval.step other rounds node) := by
  let silently (node : Node) : Traced Value := silent (one node)
  have forgets (node : Node) : plain (silently node) = one node := rfl
  rw [← Traced.plain_step forgets]
  refine Traced.Congruence.step congruence (.inr trivial) ?_ paced
  exact
    { alongside with
      branches := fun body mem => by
        rw [Traced.block, Traced.plain_nested, Traced.plain_sequence forgets]
        exact alongside.branches body mem
      rounds := fun body mem frame last => by
        rw [Traced.plain_round, Traced.plain_nested, Traced.plain_sequence forgets]
        exact alongside.rounds body mem frame last
      callSpell := fun place ref aloud args => by
        rw [Traced.plain_callSpell forgets]
        exact alongside.callSpell place ref aloud args }

end Congruence

end Eval

end Spellbook
