import Spellbook.Proofs.Evaluation.Parallel
import Spellbook.Proofs.Store.Portrait
import Spellbook.Proofs.World.Passage
import Spellbook.Session

/-!
# Programs that end

A hunt goes through a tome item by item. Its body may bind the name of the tome to longer and longer
tomes, but the tome itself stays as it is, if nothing assigns to its elements. So a program that
evaluates no patrol loop, no call and no assignment to an element ends.
-/

namespace Spellbook

open List

/-! ## Worlds in which collections stay -/

/-- Collections are as they were, and no file has been opened. -/
structure World.Stays (before after : World) : Prop where
  keeps : before.store.Keeps after.store
  handles : before.handles = #[] → after.handles = #[]

namespace Action

instance : Passage World.Stays where
  refl world := ⟨.refl world.store, id⟩
  trans former latter := ⟨former.keeps.trans latter.keeps, latter.handles ∘ former.handles⟩

namespace Abides

variable {α : Type} (place : Place) (left right : Value)

attribute [local grind ←] pure throw bind get fault ofResult text truth items entries

theorem withStore_stays {change : Store → α × Store}
    (keeps : ∀ store : Store, store.Keeps (change store).2) :
    Abides World.Stays (Action.withStore change) :=
  ⟨fun world => ⟨keeps world.store, id⟩⟩

@[local grind ←]
theorem newTome_stays (items : List Value) : Abides World.Stays (Action.newTome items) :=
  withStore_stays fun store => .addTome store _

theorem newGrimoire_stays (entries : Entries) : Abides World.Stays (Action.newGrimoire entries) :=
  withStore_stays fun store => .addGrimoire store _

@[local grind ←]
theorem newQuantity_stays (quantity : Quantity) :
    Abides World.Stays (Action.newQuantity quantity) := by
  apply withStore_stays
  intro store
  have refl := Store.Keeps.refl store
  cases quantity with
  | floating num =>
    cases nan : num.isNaN <;> simp only [Store.addQuantity, Store.addPotion, nan]
    · exact refl
    · exact ⟨refl.1, refl.2, refl.3, refl.4⟩
  | _ => exact refl

@[local grind ←]
theorem blame_stays (cause : Cause) : Abides World.Stays (Operation.blame cause place : Action α) :=
  throw _

@[local grind ←]
theorem store_stays : Abides World.Stays Action.store := bind get fun _ => pure _

@[local grind ←]
theorem repetitions_stays (count : Int) : Abides World.Stays (Operation.repetitions count) := by
  grind [Operation.repetitions]

@[local grind ←]
theorem compare_stays (comparison : Comparison) :
    Abides World.Stays (Action.compare comparison left right) :=
  bind get fun _ => ofResult _

@[local grind ←]
theorem calculate_stays (operation : Quantity → Quantity → Except Fault Quantity) :
    Abides World.Stays (Operation.calculate place operation left right) := by
  unfold Operation.calculate
  split <;> grind

@[local grind ←]
theorem join_stays : Abides World.Stays (Operation.join place left right) := by
  unfold Operation.join
  split <;> grind

@[local grind ←]
theorem replicate_stays : Abides World.Stays (Operation.replicate place left right) := by
  unfold Operation.replicate
  split <;> grind [Operation.repeatText, Operation.repeatItems]

theorem binary_stays (op : Operator) :
    Abides World.Stays (Operation.binary place op left right) := by
  cases op <;> grind [Operation.binary, Operation.add, Operation.multiply, Operation.divide,
    Operation.order, Operation.equal]

theorem unary_stays (op : UnaryOperator) :
    Abides World.Stays (Operation.unary place op left) := by
  cases op <;> grind [Operation.unary]

@[local grind ←]
theorem checkKey_stays (key : Value) : Abides World.Stays (Operation.checkKey key) := by
  grind [Operation.checkKey]

theorem readItem_stays : Abides World.Stays (Operation.readItem place left right) := by
  cases left <;> grind [Operation.readItem]

theorem readMember_stays (name : String) :
    Abides World.Stays (Operation.readMember place left name) := by
  cases left <;> grind [Operation.readMember]

theorem readHandleLine_stays (ref : Nat) :
    Abides World.Stays (Action.readHandleLine ref) := by
  apply bind get
  intro world
  cases world.handles[ref]? with
  | none => exact fault _
  | some handle =>
    refine bind ⟨fun world => ⟨.refl _, fun none => ?_⟩⟩ fun _ => ofResult _
    exact Array.size_eq_zero_iff.mp (Array.size_modify.trans (congrArg Array.size none))

end Abides

end Action

/-! ## Trees without what may go on for ever -/

namespace Node

/-- The node is no patrol loop, no call and no assignment to an element. -/
def isMild : Node → Bool
  | patrol .. | call .. | indexAssignment .. => false
  | _ => true

/-- No patrol loop, no call and no assignment to an element is evaluated in the node. -/
inductive IsBounded : Node → Prop where
  | intro {node : Node} (mild : node.isMild = true) (parts : ∀ part ∈ node.parts, IsBounded part)
      (blocks : ∀ body ∈ node.branches ++ node.repeated, ∀ inner ∈ body, IsBounded inner) :
      IsBounded node

end Node

/-! ## Loops -/

namespace Eval

open Spellbook.Action (Abides Passage)

/-- How many things a loop can still go through at most, in a world without open files. -/
def Prey.left (world : World) : Prey → Nat
  | items ref pos => (world.store.tome ref).size - pos
  | keys _ size pos => size - pos
  | characters text => text.length
  | lines _ => 0

theorem Prey.next_stays (prey : Prey) : Abides World.Stays prey.next := by
  cases prey with
  | items => exact .bind (.items _) fun _ => .pure _
  | keys ref size pos =>
    refine .bind (.entries _) fun entries => ?_
    split
    · exact .pure _
    · exact .fault _
  | characters text => cases text <;> exact .pure _
  | lines ref => exact .bind (.readHandleLine_stays ref) fun _ => .pure _

theorem Prey.of_stays (value : Value) : Abides World.Stays (Prey.of? value) := by
  cases value with
  | grimoire => exact .bind (.entries _) fun _ => .pure _
  | _ => exact .pure _

/-- Whatever happens meanwhile, less is left with every round. -/
theorem Prey.left_lt {prey rest : Prey} {item : Value} {world middle later : World}
    (none : world.handles = #[]) (ended : prey.next world = .ok (some (item, rest)) middle)
    (stays : middle.Stays later) : rest.left later < prey.left world := by
  cases prey with
  | items ref pos =>
    obtain ⟨_, _, read, taken⟩ := Action.bind_eq_ok ended
    cases read
    cases found : (world.store.tome ref)[pos]? with
    | none => rw [found] at taken; cases taken
    | some value =>
      rw [found] at taken
      cases taken
      have inside := (Array.getElem?_eq_some_iff.mp found).1
      -- An item was there, so the tome is, and it stays as it is.
      have present : ref < world.store.tomes.size := by
        by_contra absent
        rw [Store.tome, Array.getElem?_eq_none (Nat.le_of_not_lt absent)] at inside
        cases inside
      change (later.store.tome ref).size - (pos + 1) < _ - pos
      rw [stays.keeps.tome ref present]
      omega
  | keys ref size pos =>
    obtain ⟨_, _, read, taken⟩ := Action.bind_eq_ok ended
    cases read
    cases whole : (world.store.grimoire ref).size == size with
    | false => rw [whole] at taken; cases taken
    | true =>
      rw [whole] at taken
      cases found : (world.store.grimoire ref)[pos]? with
      | none => simp only [found, if_true] at taken; cases taken
      | some value =>
        simp only [found, if_true] at taken
        cases taken
        have inside := (Array.getElem?_eq_some_iff.mp found).1
        rw [eq_of_beq whole] at inside
        change size - (pos + 1) < size - pos
        omega
  | characters text =>
    cases text with
    | nil => cases ended
    | cons char text =>
      cases ended
      exact Nat.lt_succ_self _
  | lines ref =>
    have closed : Action.readHandleLine ref world = .error (.fault .closedFile) world := by
      obtain ⟨⟩ := world
      cases none
      rfl
    rw [next, Action.bind_of_error closed] at ended
    cases ended

/-! ## Evaluations that end -/

variable {α β : Type} {machine : Machine}

/--
With enough of a budget the evaluation ends in one way, which is not weariness, and collections
stay.
-/
def EndsAt (body : Nat → Eval α) (machine : Machine) : Prop :=
  ∃ enough outcome, (∀ budget, enough ≤ budget → body budget machine = outcome) ∧
    halt? outcome ≠ some .weary ∧ machine.world.Stays (Eval.left outcome).world

/-- The evaluation ends in every machine without open files. -/
def Ends (body : Nat → Eval α) : Prop :=
  ∀ machine : Machine, machine.world.handles = #[] → EndsAt body machine

theorem EndsAt.bind {body : Nat → Eval α} {next : Nat → α → Eval β} (begun : EndsAt body machine)
    (continued : ∀ res middle, (∃ budget, body budget machine = .ok res middle) →
      machine.world.Stays middle.world → EndsAt (fun budget => next budget res) middle) :
    EndsAt (fun budget => body budget >>= next budget) machine := by
  obtain ⟨enough, outcome, same, awake, stays⟩ := begun
  cases outcome with
  | ok res middle =>
    rcases continued res middle ⟨enough, same enough (Nat.le_refl _)⟩ stays with
      ⟨more, outcome, sameLater, awakeLater, staysLater⟩
    refine ⟨max enough more, outcome, fun budget large => ?_, awakeLater, ?_⟩
    · exact (bind_of_ok (same budget (by omega))).trans (sameLater budget (by omega))
    · exact Passage.trans stays staysLater
  | error halt middle =>
    refine ⟨enough, .error halt middle, fun budget large => ?_, awake, stays⟩
    exact bind_of_error (same budget large)

/-- A step more or less makes no difference. -/
theorem EndsAt.succ {body : Nat → Eval α}
    (ends : EndsAt (fun budget => body (budget + 1)) machine) : EndsAt body machine := by
  obtain ⟨enough, outcome, same, finished⟩ := ends
  refine ⟨enough + 1, outcome, fun budget large => ?_, finished⟩
  cases budget with
  | zero => omega
  | succ budget => exact same budget (by omega)

theorem EndsAt.paced {body : Nat → Eval α} {pace : Nat → Nat}
    (grows : ∀ budget, budget ≤ pace budget) (ends : EndsAt body machine) :
    EndsAt (fun budget => body (pace budget)) machine := by
  obtain ⟨enough, outcome, same, finished⟩ := ends
  exact ⟨enough, outcome, fun budget large => same _ (Nat.le_trans large (grows budget)), finished⟩

theorem EndsAt.round {body : Nat → Eval Value} (ends : EndsAt body machine) (last : Value) :
    EndsAt (fun budget => Eval.round (body budget) last) machine := by
  obtain ⟨enough, outcome, same, awake, stays⟩ := ends
  refine ⟨enough, Eval.round (fun _ => outcome) last machine, fun budget large => ?_, ?_⟩
  · simp only [Eval.round, same budget large]
  · cases outcome with
    | ok value middle => exact ⟨by rintro ⟨⟩, stays⟩
    | error halt middle =>
      cases halt with
      | weary => exact absurd rfl awake
      | _ => exact ⟨by rintro ⟨⟩, stays⟩

namespace Ends

theorem nested {body : Nat → Eval α} (ends : Ends body) (frame : Frame) :
    Ends fun budget => Eval.nested frame (body budget) := by
  intro machine none
  let inner := atScope { machine with scopes := machine.scopes.push machine.scopes.current frame }
    machine.scopes.all.size
  obtain ⟨enough, outcome, same, awake, stays⟩ := ends inner none
  refine ⟨enough, Eval.nested frame (fun _ => outcome) machine, fun budget large => ?_, ?_⟩
  · simp only [Eval.nested, get_bind, within]
    rw [same budget large]
  · cases outcome with
    | ok value middle | error halt middle => exact ⟨awake, stays⟩

theorem aside {body : Eval α} (ends : ∀ machine, halt? (body machine) ≠ some .weary ∧
    (Eval.left (body machine)).world = machine.world) : Ends fun _ => body := by
  intro machine _
  refine ⟨0, body machine, fun _ _ => rfl, (ends machine).1, ?_⟩
  rw [(ends machine).2]
  exact Passage.refl _

theorem pure (res : α) : Ends fun _ => (Pure.pure res : Eval α) :=
  aside fun _ => ⟨by rintro ⟨⟩, rfl⟩

theorem throw {halt : Halt} (awake : halt ≠ .weary) :
    Ends fun _ => (MonadExcept.throw halt : Eval α) :=
  aside fun _ => ⟨fun same => awake (Option.some.inj same), rfl⟩

theorem lookUp (name : String) (place : Place) : Ends fun _ => Eval.lookUp name place := by
  apply aside
  intro machine
  simp only [Eval.lookUp, get_bind]
  cases machine.scopes.get? name <;> exact ⟨by rintro ⟨⟩, rfl⟩

theorem alter (name : String) (update : Frame → Frame) (cause : Refusal → String → Cause)
    (place : Place) : Ends fun _ => Eval.alter name update cause place := by
  apply aside
  intro machine
  simp only [Eval.alter, get_bind]
  cases machine.scopes.site name <;> exact ⟨by rintro ⟨⟩, rfl⟩

theorem act {action : Action α} (abides : Abides World.Stays action) :
    Ends fun _ => Eval.act action := by
  intro machine _
  have related := abides.related machine.world
  refine ⟨0, Eval.act action machine, fun _ _ => rfl, ?_⟩
  simp only [Eval.act]
  cases ended : action machine.world <;> rw [ended] at related <;> exact ⟨by rintro ⟨⟩, related⟩

theorem bind {body : Nat → Eval α} {next : Nat → α → Eval β} (begun : Ends body)
    (continued : ∀ res, Ends fun budget => next budget res) :
    Ends fun budget => body budget >>= next budget :=
  fun machine none => (begun machine none).bind fun res middle _ stays =>
    continued res middle (stays.handles none)

variable {self : Nat → Node → Eval Value} {nodes : List Node}

theorem values (parts : ∀ node ∈ nodes, Ends (self · node)) :
    Ends fun budget => Eval.values (self budget) nodes := by
  induction nodes with
  | nil => exact pure []
  | cons node nodes ih =>
    obtain ⟨first, others⟩ := forall_mem_cons.mp parts
    exact bind first fun _ => bind (ih others) fun _ => pure _

theorem sequence (parts : ∀ node ∈ nodes, Ends (self · node)) :
    Ends fun budget => Eval.sequence (self budget) nodes := by
  induction nodes with
  | nil => exact pure _
  | cons node nodes ih =>
    obtain ⟨first, others⟩ := forall_mem_cons.mp parts
    cases nodes with
    | nil => exact first
    | cons next nodes => exact bind first fun _ => ih others

theorem fillEntries {pairs : List (Node × Node)}
    (parts : ∀ node ∈ pairs.flatMap fun pair => [pair.1, pair.2], Ends (self · node))
    (entries : Entries) : Ends fun budget => Eval.fillEntries (self budget) pairs entries := by
  induction pairs generalizing entries with
  | nil => exact pure entries
  | cons pair pairs ih =>
    obtain ⟨key, parts⟩ := forall_mem_cons.mp parts
    obtain ⟨value, others⟩ := forall_mem_cons.mp parts
    refine bind key fun _ => bind value fun _ => ?_
    exact bind (act (.checkKey_stays _)) fun _ => ih others _

theorem firstBranch {otherwise : Option (List Node)} {branches : List (Node × List Node)}
    (tests : ∀ test ∈ branches.map Prod.fst, Ends (self · test))
    (blocks : ∀ body ∈ branches.map Prod.snd ++ otherwise.toList,
      Ends fun budget => Eval.sequence (self budget) body) :
    Ends fun budget => Eval.firstBranch (self budget) otherwise branches := by
  have block {body : List Node} (ends : Ends fun budget => Eval.sequence (self budget) body) :
      Ends fun budget => Eval.block (self budget) body := nested ends {}
  induction branches with
  | nil =>
    cases otherwise with
    | none => exact pure _
    | some body => exact block (blocks body mem_cons_self)
  | cons branch branches ih =>
    obtain ⟨test, tests⟩ := forall_mem_cons.mp tests
    obtain ⟨first, blocks⟩ := forall_mem_cons.mp blocks
    refine bind (bind test fun _ => act (.truth _)) ?_
    rintro (_ | _)
    · exact ih tests blocks
    · exact block first

/-- A loop ends since less is left with every round. -/
theorem hunt {body : List Node} (ends : Ends fun budget => Eval.sequence (self budget) body)
    {pace : Nat → Nat} (grows : ∀ budget, budget ≤ pace budget) (name : String) (prey : Prey)
    (last : Value) :
    Ends fun budget => Eval.hunt (self (pace budget)) name body budget prey last := by
  intro machine none
  generalize measure : prey.left machine.world = left
  induction left using Nat.strongRecOn generalizing prey last machine pace with
  | ind left ih =>
    have slower (budget : Nat) : budget ≤ pace (budget + 1) :=
      Nat.le_trans (Nat.le_succ _) (grows (budget + 1))
    apply EndsAt.succ
    refine (act prey.next_stays machine none).bind fun next middle gone stays => ?_
    rcases next with _ | ⟨item, rest⟩
    · exact pure last middle (stays.handles none)
    have taken : prey.next machine.world = .ok (some (item, rest)) middle.world := by
      obtain ⟨_, gone⟩ := gone
      simp only [Eval.act] at gone
      cases ended : prey.next machine.world with
      | ok res world => rw [ended] at gone; cases gone; rfl
      | error trouble world => rw [ended] at gone; cases gone
    have inner := nested (fun machine none => (ends machine none).paced slower)
      (Frame.ofBindings [(name, item)])
    refine ((inner middle (stays.handles none)).round last).bind fun round later _ staysLater => ?_
    have still := staysLater.handles (stays.handles none)
    have less := Prey.left_lt none taken staysLater
    rcases round with value | value
    · exact ih (rest.left later.world) (measure ▸ less) slower rest value later still rfl
    · exact pure value later still

theorem step {node : Node} (mild : node.isMild = true)
    (parts : ∀ part ∈ node.parts, Ends (run · part))
    (blocks : ∀ body ∈ node.branches ++ node.repeated,
      Ends fun budget => Eval.sequence (run budget) body) :
    Ends fun budget => Eval.step (run budget) budget node := by
  cases node with
  | stray | bare => exact throw Halt.noConfusion
  | literal => exact pure _
  | identifier => exact lookUp _ _
  | unary => exact bind (parts _ (.head _)) fun _ => act (.unary_stays _ _ _)
  | member => exact bind (parts _ (.head _)) fun _ => act (.readMember_stays _ _ _)
  | binary =>
    refine bind (parts _ (.head _)) fun _ => bind (parts _ (.tail _ (.head _))) fun _ => ?_
    exact act (.binary_stays _ _ _ _)
  | index =>
    refine bind (parts _ (.head _)) fun _ => bind (parts _ (.tail _ (.head _))) fun _ => ?_
    exact act (.readItem_stays _ _ _)
  | tome => exact bind (values parts) fun _ => act (.newTome_stays _)
  | grimoire => exact bind (fillEntries parts _) fun _ => act (.newGrimoire_stays _)
  | call | patrol | indexAssignment => cases mild
  | program => exact sequence parts
  | declaration =>
    refine bind (parts _ (.head _)) fun res => ?_
    exact bind (aside fun _ => ⟨by rintro ⟨⟩, rfl⟩) fun _ => pure _
  | assignment =>
    exact bind (parts _ (.head _)) fun _ => bind (alter _ _ _ _) fun _ => pure _
  | deletion => exact bind (alter _ _ _ _) fun _ => pure _
  | spell =>
    refine bind (aside fun _ => ⟨by rintro ⟨⟩, rfl⟩) fun _ => ?_
    exact bind (aside fun _ => ⟨by rintro ⟨⟩, rfl⟩) fun _ => pure _
  | cast place value =>
    cases value with
    | none => exact throw Halt.noConfusion
    | some value => exact bind (parts _ (.head _)) fun _ => throw Halt.noConfusion
  | conditional =>
    exact firstBranch parts fun body mem => blocks body (mem_append_left _ mem)
  | hunt place name iterable body =>
    have ends := blocks body (mem_append_right _ (.head _))
    refine bind (parts _ (.head _)) fun value => bind (act (Prey.of_stays value)) ?_
    rintro (_ | prey)
    · exact throw Halt.noConfusion
    · exact hunt ends Nat.le_refl name prey .void
  | breakLoop | continueLoop => exact throw Halt.noConfusion
  | expression => exact parts _ (.head _)

/-- Evaluating a bounded node ends. -/
theorem run {node : Node} (bounded : node.IsBounded) : Ends (Eval.run · node) := by
  induction bounded with
  | intro mild _ _ parts blocks =>
    have ends := step mild parts fun body mem => sequence (blocks body mem)
    exact fun machine none => .succ (ends machine none)

end Ends

end Eval

namespace Machine

/-- Evaluate the statements of a program in order, each in at most so many nested steps. -/
def interpretWithin (budget : Nat) : Node → Eval Value
  | .program _ stmts => Eval.sequence (Eval.run budget) stmts
  | node => Eval.run budget node

theorem interpret_eq (program : Node) :
    interpret program = interpretWithin ampleBudget program := by
  cases program <;> rfl

/--
Interpreting a program in which no patrol loop, no call and no assignment to an element is evaluated
ends with a value or an error, in whatever machine without open files: some number of nested steps
suffices, and more of them make no difference.
-/
theorem bounded_program_ends {program : Node} (bounded : program.IsBounded) (machine : Machine)
    (none : machine.world.handles = #[]) :
    ∃ enough outcome, Eval.halt? outcome ≠ some .weary ∧
      (∀ budget, enough ≤ budget → interpretWithin budget program machine = outcome) ∧
        (enough ≤ ampleBudget → interpret program machine = outcome) := by
  have ends : Eval.Ends (interpretWithin · program) := by
    cases program with
    | program place statements =>
      cases bounded with
      | intro _ parts _ => exact .sequence fun node member => .run (parts node member)
    | _ => exact .run bounded
  obtain ⟨enough, outcome, same, awake, -⟩ := ends machine none
  refine ⟨enough, outcome, awake, same, fun ample => ?_⟩
  rw [interpret_eq]
  exact same ampleBudget ample

end Machine

/-- Is the tree bounded, as far down as is looked at? -/
def Node.isBoundedTo : (depth : Nat) → Node → Bool
  | 0, _ => false
  | depth + 1, node =>
    node.isMild && node.parts.all (isBoundedTo depth) &&
      (node.branches ++ node.repeated).all (·.all (isBoundedTo depth))

theorem Node.isBounded_of_to {depth : Nat} {node : Node}
    (checked : node.isBoundedTo depth = true) : node.IsBounded := by
  induction depth generalizing node with
  | zero => cases checked
  | succ depth ih =>
    simp only [isBoundedTo, Bool.and_eq_true, all_eq_true] at checked
    obtain ⟨⟨mild, parts⟩, blocks⟩ := checked
    exact .intro mild (fun part mem => ih (parts part mem))
      fun body mem inner inside => ih (blocks body mem inner inside)

/-- A loop over a tome whose name is bound to longer and longer tomes, with a loop over these. -/
def growing : String :=
  "conjure x as [1, 2]\nhunt each y in x \x7b\ntransmute x as x + x\n" ++
    "hunt each z in x \x7b transmute x as x + [z] \x7d\n\x7d"

theorem bounded_program_ends_growing :
    ∃ program, readSource growing = .ok program ∧ program.IsBounded ∧
      ∃ enough outcome, Eval.halt? outcome ≠ some .weary ∧
        (∀ budget, enough ≤ budget →
          Machine.interpretWithin budget program (Machine.start {}) = outcome) ∧
          (enough ≤ Machine.ampleBudget →
            Machine.interpret program (Machine.start {}) = outcome) := by
  have checked : (readSource growing).toOption.any (Node.isBoundedTo 12) = true := by decide +kernel
  cases read : readSource growing with
  | error trouble => rw [read] at checked; cases checked
  | ok program =>
    rw [read] at checked
    have bounded : program.IsBounded := Node.isBounded_of_to checked
    exact ⟨program, rfl, bounded, Machine.bounded_program_ends bounded (Machine.start {}) rfl⟩

end Spellbook
