import Spellbook.Evaluator

/-!
# What actions are composed of

An action asks the world, changes it, prints, or ends in trouble, one after the other. Composed
actions do nothing else, so what holds of all of them is proved by induction on how they are
composed.
-/

namespace Spellbook

namespace World

def withConsole (world : World) (console : Console) : World := { world with console }

end World

/-- A fault, or an error that a builtin words itself. -/
inductive Trouble.Worded : Trouble → Prop where
  | fault (failure : Fault) : Worded (.fault failure)
  | told (errorClass : ErrorClass) (msg : String) : Worded (.told errorClass msg)

namespace Action

/--
An action that is composed of questions to the world, changes of it, prints and trouble.  Neither
the questions nor the changes look at the console.
-/
inductive Composed : {α : Type} → Action α → Prop where
  | pure {α : Type} (res : α) : Composed (Pure.pure res)
  | throw {α : Type} {trouble : Trouble} (worded : trouble.Worded) :
      Composed (MonadExcept.throw trouble : Action α)
  | bind {α β : Type} {action : Action α} {next : α → Action β} (begun : Composed action)
      (continued : ∀ res, Composed (next res)) : Composed (action >>= next)
  | recover {α : Type} {action : Action α} {mend : Trouble → Action α} (tried : Composed action)
      (mended : ∀ trouble, trouble.Worded → Composed (mend trouble)) :
      Composed (Action.recover action mend)
  | ask {α : Type} {more : World → Action α}
      (blind : ∀ world console, more (world.withConsole console) = more world)
      (continued : ∀ world, Composed (more world)) : Composed (get >>= more)
  | modifyGet {α : Type} {change : World → α × World}
      (aside : ∀ world console,
        change (world.withConsole console) =
          ((change world).1, (change world).2.withConsole console)) :
      Composed (MonadStateOf.modifyGet change : Action α)
  | print (text : String) : Composed (Action.print text)

attribute [grind ←] Composed.pure Composed.throw Composed.bind Composed.recover Composed.print

namespace Composed

variable {α β : Type}

/-! ## Composition -/

-- Without a bound result the continuation is a plain action, which is easier to match.
@[grind ←]
theorem seq {action : Action Unit} {next : Unit → Action β} (composed : Composed action)
    (composedNext : Composed (next ())) : Composed (action >>= next) :=
  bind composed fun _ => composedNext

@[grind ←]
theorem mapM {action : β → Action α} (composed : ∀ item, Composed (action item)) (items : List β) :
    Composed (items.mapM action) := by
  induction items with
  | nil => exact pure []
  | cons item items ih =>
    rw [List.mapM_cons]
    exact bind (composed item) fun _ => bind ih fun _ => pure _

@[grind ←]
theorem fault (failure : Fault) : Composed (Action.fault failure : Action α) :=
  throw (.fault failure)

@[grind ←]
theorem refuse (errorClass : ErrorClass) (msg : String) :
    Composed (Action.refuse errorClass msg : Action α) :=
  throw (.told errorClass msg)

@[grind ←]
theorem forbid (msg : String) : Composed (Action.forbid msg : Action α) :=
  refuse .forbiddenMagic msg

@[grind ←]
theorem ofResult (res : Except Fault α) : Composed (Action.ofResult res) := by
  cases res with
  | ok res => exact pure res
  | error failure => exact fault failure

/-! ## Changing the world -/

theorem modify {change : World → World}
    (aside : ∀ world console,
      change (world.withConsole console) = (change world).withConsole console) :
    Composed (MonadStateOf.modifyGet fun world => ((), change world) : Action Unit) :=
  modifyGet fun world console => congrArg (Prod.mk ()) (aside world console)

/-! ## The store, the console and chance -/

variable (ref : Nat) (path : String) (keep : Bool) (value left right : Value) (count : Int)

@[grind ←]
theorem store : Composed Action.store := ask (fun _ _ => rfl) fun _ => pure _

@[grind ←]
theorem withStore (change : Store → α × Store) : Composed (Action.withStore change) :=
  modifyGet fun _ _ => rfl

@[grind ←]
theorem modifyStore (change : Store → Store) : Composed (Action.modifyStore change) :=
  modify fun _ _ => rfl

@[grind ←]
theorem items : Composed (Action.items ref) := ask (fun _ _ => rfl) fun _ => pure _

@[grind ←]
theorem entries : Composed (Action.entries ref) := ask (fun _ _ => rfl) fun _ => pure _

@[grind ←]
theorem newTome (items : List Value) : Composed (Action.newTome items) := withStore _

@[grind ←]
theorem newGrimoire (entries : Entries) : Composed (Action.newGrimoire entries) := withStore _

@[grind ←]
theorem newRecord (entries : List (String × Value)) : Composed (Action.newRecord entries) :=
  newGrimoire _

@[grind ←]
theorem newPotion (num : Float) : Composed (Action.newPotion num) := withStore _

@[grind ←]
theorem newQuantity (quantity : Quantity) : Composed (Action.newQuantity quantity) := withStore _

@[grind ←]
theorem plant (datum : Datum) : Composed (Action.plant datum) := withStore _

@[grind ←]
theorem plantSaved (datum : Datum) : Composed (Action.plantSaved datum) := withStore _

@[grind ←]
theorem portray : Composed (Action.portray value) := ask (fun _ _ => rfl) fun _ => pure _

@[grind ←]
theorem text : Composed (Action.text value) := ask (fun _ _ => rfl) fun _ => ofResult _

@[grind ←]
theorem integerText (int : Int) : Composed (Action.integerText int) := ofResult _

@[grind ←]
theorem truth : Composed (Action.truth value) := ask (fun _ _ => rfl) fun _ => pure _

@[grind ←]
theorem compare (comparison : Comparison) : Composed (Action.compare comparison left right) :=
  ask (fun _ _ => rfl) fun _ => ofResult _

@[grind ←]
theorem put (key : String) : Composed (Action.put ref key value) := modifyStore _

@[grind ←]
theorem printLine (text : String) : Composed (Action.printLine text) := print _

@[grind ←]
theorem note (event : Event) : Composed (Action.note event) := modify fun _ _ => rfl

@[grind ←]
theorem draw : Composed Action.draw := by
  apply modifyGet
  rintro ⟨⟩ console
  dsimp only [World.withConsole]
  split <;> rfl

@[grind ←]
theorem drawBetween (low high : Int) : Composed (Action.drawBetween low high) := by
  grind [Action.drawBetween]

/-! ## Files -/

@[grind ←]
theorem checkAccess : Composed (Action.checkAccess path) := by
  apply ask
  · intro world console
    rfl
  · grind

@[grind ←]
theorem openForReading : Composed (Action.openForReading path) :=
  bind (checkAccess path) fun _ => ask (fun _ _ => rfl) fun _ => ofResult _

@[grind ←]
theorem openForWriting : Composed (Action.openForWriting path keep) := by
  apply bind (checkAccess path)
  intro allowed
  apply ask (fun _ _ => rfl)
  intro world
  apply bind (ofResult _)
  rintro ⟨content, files⟩
  exact bind (modify fun _ _ => rfl) fun _ => pure content

@[grind ←]
theorem readFile : Composed (Action.readFile path) :=
  bind (openForReading path) fun _ => ask (fun _ _ => rfl) fun _ => ofResult _

@[grind ←]
theorem writeFile (text : String) : Composed (Action.writeFile path keep text) :=
  bind (openForWriting path keep) fun _ => modify fun _ _ => rfl

@[grind ←]
theorem removeFile : Composed (Action.removeFile path) := by
  apply bind (checkAccess path)
  intro allowed
  apply ask (fun _ _ => rfl)
  intro world
  exact bind (ofResult _) fun files => modify fun _ _ => rfl

@[grind ←]
theorem openHandle (mode : HandleMode) : Composed (Action.openHandle path mode) := by
  cases mode with
  | reading => exact bind (openForReading path) fun _ => modifyGet fun _ _ => rfl
  | writing | appending =>
    exact bind (openForWriting path _) fun _ => modifyGet fun _ _ => rfl

@[grind ←]
theorem useHandle (use : FileHandle → List UInt8 → FileHandle × Except Fault α) :
    Composed (Action.useHandle ref use) := by
  apply ask (fun _ _ => rfl)
  intro world
  split
  · exact fault _
  · exact bind (modify fun _ _ => rfl) fun _ => ofResult _

@[grind ←]
theorem readHandle (count : Option Nat) : Composed (Action.readHandle ref count) := by
  cases count with
  | none => exact useHandle ref FileHandle.readAll
  | some count => exact useHandle ref fun handle bytes => handle.readSome bytes count

@[grind ←]
theorem readHandleLine : Composed (Action.readHandleLine ref) := useHandle ref _

@[grind ←]
theorem writeHandle (text : String) : Composed (Action.writeHandle ref text) :=
  useHandle ref _

@[grind ←]
theorem closeHandle : Composed (Action.closeHandle ref) := by
  apply modify
  rintro ⟨⟩ console
  dsimp only [World.withConsole, closedHandle]
  split
  · rfl
  · split <;> rfl

@[grind ←]
theorem remainingLines (fuel : Nat) : Composed (Action.remainingLines ref fuel) := by
  induction fuel with
  | zero => exact pure []
  | succ fuel ih => grind [Action.remainingLines]

@[grind ←]
theorem lineBudget : Composed (Action.lineBudget ref) := by
  apply ask (fun _ _ => rfl)
  grind

@[grind ←]
theorem elements : Composed (Action.elements value) := by
  cases value <;> grind [Action.elements]

/-! ## Devices -/

@[grind ←]
theorem askDatabase (event : DatabaseEvent) : Composed (Action.askDatabase event) := by
  apply bind (note _)
  intro noted
  apply ask (fun _ _ => rfl)
  grind

@[grind ←]
theorem newConnection (host user password database : String) (port : Int) :
    Composed (Action.newConnection host user password database port) := by
  apply bind (askDatabase _)
  intro asked
  apply modifyGet
  rintro ⟨⟩ console
  dsimp only [World.withConsole]
  split <;> rfl

@[grind ←]
theorem query (text : String) (params : Option (List Datum)) :
    Composed (Action.query text params) := by
  apply bind (askDatabase _)
  intro asked
  apply bind
  · apply modifyGet
    rintro ⟨⟩ console
    dsimp only [World.withConsole]
    split
    · rfl
    · split <;> rfl
  · grind

@[grind ←]
theorem askNetwork (event : NetworkEvent) : Composed (Action.askNetwork event) := by
  apply bind (note _)
  intro noted
  apply ask (fun _ _ => rfl)
  grind

@[grind ←]
theorem newSocket : Composed Action.newSocket :=
  bind (askNetwork _) fun _ => modifyGet fun _ _ => rfl

@[grind ←]
theorem receive (size : Int) : Composed (Action.receive size) := by
  unfold Action.receive
  split
  · exact fault _
  apply bind (askNetwork _)
  intro asked
  apply modifyGet
  rintro ⟨⟩ console
  dsimp only [World.withConsole]
  split <;> rfl

@[grind ←]
theorem welcome : Composed Action.welcome := by
  apply bind (askNetwork _)
  intro asked
  apply ask (fun _ _ => rfl)
  intro world
  split
  · exact fault _
  · exact bind (modify fun _ _ => rfl) fun _ => bind newSocket fun _ => pure _

@[grind ←]
theorem askSpeech (event : SpeechEvent) : Composed (Action.askSpeech event) := by
  apply bind (note _)
  intro noted
  apply ask (fun _ _ => rfl)
  grind

@[grind ←]
theorem sayAloud (text : String) : Composed (Action.sayAloud text) :=
  bind (askSpeech _) fun _ => askSpeech _

@[grind ←]
theorem startHerald : Composed Action.startHerald := by
  apply ask (fun _ _ => rfl)
  intro world
  split
  · exact pure true
  apply ask (fun _ _ => rfl)
  intro world
  split
  · exact pure false
  apply recover
  · exact bind (askSpeech _) fun _ => bind (modify fun _ _ => rfl) fun _ => pure true
  · intro trouble worded
    exact pure false

@[grind ←]
theorem speakResult (text : String) : Composed (Action.speakResult text) := by
  apply bind startHerald
  intro started
  split
  · exact recover (sayAloud text) fun _ _ => printLine _
  · exact printLine _

@[grind ←]
theorem startNarrator : Composed Action.startNarrator := by
  apply ask (fun _ _ => rfl)
  intro world
  split
  · exact pure ()
  apply ask (fun _ _ => rfl)
  intro world
  split
  · exact refuse _ _
  · exact bind (recover (askSpeech _) fun _ _ => refuse _ _) fun _ =>
      modify fun _ _ => rfl

@[grind ←]
theorem modifyNarrator (change : SpeechEngine → SpeechEngine) :
    Composed (Action.modifyNarrator change) :=
  modify fun _ _ => rfl

@[grind ←]
theorem getVolume : Composed Action.getVolume :=
  bind (askSpeech _) fun _ => ask (fun _ _ => rfl) fun _ => pure _

@[grind ←]
theorem setVolume (volume : Float) : Composed (Action.setVolume volume) :=
  bind (askSpeech _) fun _ => modifyNarrator _

@[grind ←]
theorem setRate (rate : Int) : Composed (Action.setRate rate) :=
  bind (askSpeech _) fun _ => modifyNarrator _

@[grind ←]
theorem getVoices : Composed Action.getVoices :=
  bind (askSpeech _) fun _ => ask (fun _ _ => rfl) fun _ => pure _

@[grind ←]
theorem setVoice (voice : String) : Composed (Action.setVoice voice) :=
  bind (askSpeech _) fun _ => modifyNarrator _

@[grind ←]
theorem sayAtVolume (volume : Float) (text : String) :
    Composed (Action.sayAtVolume volume text) := by
  apply bind startNarrator
  intro started
  apply bind getVolume
  intro usual
  exact bind (setVolume volume) fun _ => bind (sayAloud text) fun _ => setVolume usual

/-! ## Operators and loops -/

@[grind ←]
theorem repetitions : Composed (Operation.repetitions count) := by
  unfold Operation.repetitions
  split
  · exact fault _
  · exact pure _

@[grind ←]
theorem repeatText (text : String) : Composed (Operation.repeatText text count) := by
  apply bind (repetitions count)
  intro times
  split
  · exact pure _
  split
  · exact fault _
  split
  · exact fault _
  · exact pure _

@[grind ←]
theorem repeatItems (items : List Value) : Composed (Operation.repeatItems items count) := by
  apply bind (repetitions count)
  intro times
  split
  · exact newTome _
  split
  · exact fault _
  · exact newTome _

@[grind ←]
theorem order (comparison : Comparison) : Composed (Operation.order comparison left right) :=
  bind (compare left right comparison) fun _ => pure _

@[grind ←]
theorem equal : Composed (Operation.equal left right) := bind store fun _ => ofResult _

@[grind ←]
theorem checkKey (key : Value) : Composed (Operation.checkKey key) := by
  grind [Operation.checkKey]

theorem preyNext (prey : Eval.Prey) : Composed prey.next := by
  unfold Eval.Prey.next
  split <;> grind

theorem preyOf : Composed (Eval.Prey.of? value) := by
  cases value <;> grind [Eval.Prey.of?]

end Composed

end Action

/-! ## Operators at another place -/

/-- Does the cause blame the tree, rather than what the script does? -/
def Cause.blamesTree : Cause → Bool
  | noVisitor _ | unknownOperator _ | unknownUnaryOperator _ => true
  | _ => false

namespace Action

/--
The second action is the first at another place: a composition of the same composed actions that
blames the script for the same causes.
-/
inductive Moved (place place' : Place) : {α : Type} → Action α → Action α → Prop where
  | composed {α : Type} {action : Action α} (composed : Composed action) :
      Moved place place' action action
  | blame {α : Type} {cause : Cause} (spared : cause.blamesTree = false) :
      Moved place place' (Operation.blame cause place : Action α) (Operation.blame cause place')
  | bind {α β : Type} {action action' : Action α} {next next' : α → Action β}
      (begun : Moved place place' action action')
      (continued : ∀ res, Moved place place' (next res) (next' res)) :
      Moved place place' (action >>= next) (action' >>= next')

attribute [grind ←] Moved.composed Moved.blame Moved.bind

namespace Moved

variable (place place' : Place) (left right : Value)

@[grind ←]
theorem calculate (operation : Quantity → Quantity → Except Fault Quantity) :
    Moved place place' (Operation.calculate place operation left right)
      (Operation.calculate place' operation left right) := by
  grind [Operation.calculate, Cause.blamesTree]

@[grind ←]
theorem join :
    Moved place place' (Operation.join place left right) (Operation.join place' left right) := by
  grind [Operation.join.eq_def, Cause.blamesTree]

@[grind ←]
theorem add :
    Moved place place' (Operation.add place left right) (Operation.add place' left right) := by
  grind [Operation.add]

@[grind ←]
theorem replicate : Moved place place' (Operation.replicate place left right)
      (Operation.replicate place' left right) := by
  unfold Operation.replicate
  split <;> grind [Cause.blamesTree]

@[grind ←]
theorem multiply : Moved place place' (Operation.multiply place left right)
      (Operation.multiply place' left right) := by
  grind [Operation.multiply]

@[grind ←]
theorem divide : Moved place place' (Operation.divide place left right)
      (Operation.divide place' left right) := by
  unfold Operation.divide
  split
  · split
    · exact blame rfl
    · exact composed (.bind (.ofResult _) fun _ => .newQuantity _)
  · exact blame rfl

theorem binary {op : Operator} (known : op ∈ Operator.all) :
    Moved place place' (Operation.binary place op left right)
      (Operation.binary place' op left right) := by
  cases op with
  | unknown spelling => simp [Operator.all] at known
  | _ => grind [Operation.binary]

theorem negation (operand : Value) : Moved place place' (Operation.unary place .negation operand)
      (Operation.unary place' .negation operand) := by
  grind [Operation.unary, Cause.blamesTree]

theorem denial (operand : Value) : Moved place place' (Operation.unary place .denial operand)
      (Operation.unary place' .denial operand) := by
  grind [Operation.unary]

theorem readItem (coll index : Value) : Moved place place' (Operation.readItem place coll index)
      (Operation.readItem place' coll index) := by
  have missing (cause : String → Cause) (spared : ∀ text, (cause text).blamesTree = false) :
      Moved place place' (do Operation.blame (cause (← Action.text index)) place : Action Value)
        (do Operation.blame (cause (← Action.text index)) place') :=
    bind (composed (.text index)) fun text => blame (spared text)
  cases coll with
  | tome ref =>
    dsimp only [Operation.readItem]
    cases index.integer? with
    | none => exact blame rfl
    | some int =>
      apply bind (composed (.items ref))
      intro items
      split
      · exact composed (.pure _)
      · exact missing Cause.tomeIndexRange fun _ => rfl
  | grimoire ref =>
    apply bind (composed (.checkKey index))
    intro checked
    apply bind (composed (.entries ref))
    intro entries
    split
    · exact composed (.pure _)
    · exact missing Cause.keyNotFound fun _ => rfl
  | scroll words =>
    dsimp only [Operation.readItem]
    cases index.integer? with
    | none => exact blame rfl
    | some int =>
      dsimp only
      split
      · exact composed (.pure _)
      · exact missing Cause.scrollIndexRange fun _ => rfl
  | _ => exact blame rfl

theorem writeItem (coll index value : Value) :
    Moved place place' (Operation.writeItem place coll index value)
      (Operation.writeItem place' coll index value) := by
  cases coll <;> grind [Operation.writeItem, Cause.blamesTree]

theorem readMember (object : Value) (name : String) :
    Moved place place' (Operation.readMember place object name)
      (Operation.readMember place' object name) := by
  cases object <;> grind [Operation.readMember, Cause.blamesTree]

end Moved

end Action

end Spellbook
