import Spellbook.Proofs.Evaluation.Deafness

/-!
# The builtins do not hear what was printed

Every builtin of the library is composed (`Builtin.library_composed`), so that what was printed
makes no difference to it.  What the builtins have in common comes first.
-/

namespace Spellbook

open List

namespace Action.Composed

variable {α : Type} (args : List Value) (ref : Nat) (name : String) (value : Value)

/-! ## Arguments, records and devices -/

@[grind ←]
theorem integer : Composed (Action.integer value) := ofResult _

@[grind ←]
theorem floating : Composed (Action.floating value) := ofResult _

@[grind ←]
theorem textOr (standard : String) : Composed (Action.textOr standard args) := by
  cases args with
  | nil => exact pure standard
  | cons value args => exact text value

@[grind ←]
theorem integerOr (standard : Int) : Composed (Action.integerOr standard args) := by
  cases args with
  | nil => exact pure standard
  | cons value args => exact integer value

@[grind ←]
theorem orRefuse (errorClass : ErrorClass) (words : String) {action : Action α}
    (composed : Composed action) : Composed (Action.orRefuse errorClass words action) :=
  recover composed fun _ _ => refuse _ _

@[grind ←]
theorem lacks (mem : String) : Composed (Action.lacks value mem : Action α) := fault _

@[grind ←]
theorem field? : Composed (Action.field? ref name) := bind (entries ref) fun _ => pure _

@[grind ←]
theorem field : Composed (Action.field ref name) := by
  grind [Action.field]

@[grind ←]
theorem fieldOr (standard : Value) : Composed (Action.fieldOr ref name standard) :=
  bind (field? ref name) fun _ => pure _

@[grind ←]
theorem appendTo (coll item : Value) : Composed (Action.appendTo coll item) := by
  cases coll <;> grind [Action.appendTo]

@[grind ←]
theorem firstOf : Composed (Action.firstOf value) := by
  cases value <;> grind [Action.firstOf]

@[grind ←]
theorem close : Composed (Action.close value) := by
  cases value <;> grind [Action.close]

/-! ## Basic builtins -/

@[grind ←]
theorem orForbid (words : String) {action : Action α} (composed : Composed action) :
    Composed (Builtin.orForbid words action) := by
  grind [Builtin.orForbid]

@[grind ←]
theorem progression (start stop step : Int) : Composed (Builtin.progression start stop step) := by
  unfold Builtin.progression
  split
  · exact fault _
  · dsimp only
    split
    · exact fault _
    split
    · exact fault _
    · exact newTome _

@[grind ←]
theorem joinedTexts : Composed (Builtin.joinedTexts args) :=
  bind (mapM text args) fun _ => pure _

/-! ## Quests -/

@[grind ←]
theorem lessBy (sign : String) (amount : Value) : Composed (Builtin.lessBy sign value amount) := by
  grind [Builtin.lessBy]

@[grind ←]
theorem plusInteger (amount : Int) : Composed (Builtin.plusInteger value amount) := by
  cases value <;> grind [Builtin.plusInteger]

@[grind ←]
theorem increase (amount : Int) : Composed (Builtin.increase ref name amount) := by
  apply bind (field ref name)
  intro value
  cases value <;> grind

@[grind ←]
theorem timesNumber (count : Nat) : Composed (Builtin.timesNumber value count) := by
  cases value <;> grind [Builtin.timesNumber]

@[grind ←]
theorem heroOf (heroClass : String) (level : Int) :
    Composed (Builtin.heroOf name heroClass level) :=
  bind (newTome []) fun _ => bind (newRecord []) fun _ => newRecord _

@[grind ←]
theorem creatureOf (name health damage : Value) (loot : List Value) :
    Composed (Builtin.creatureOf name health damage loot) := by
  grind [Builtin.creatureOf]

@[grind ←]
theorem rollSum (sides : Int) (count : Nat) : Composed (Builtin.rollSum sides count) := by
  induction count with
  | zero => exact pure 0
  | succ count ih => exact bind (drawBetween 1 sides) fun _ => bind ih fun _ => pure _

@[grind ←]
theorem withHealth (target : Value) : Composed (Builtin.withHealth target) := by
  cases target <;> grind [Builtin.withHealth]

@[grind ←]
theorem raiseLevel : Composed (Builtin.raiseLevel ref) := by
  unfold Builtin.raiseLevel
  repeat' with_reducible refine bind ?_ fun _ => ?_
  all_goals grind

@[grind ←]
theorem gainLevels (fuel : Nat) : Composed (Builtin.gainLevels ref fuel) := by
  induction fuel with
  | zero => exact fault .exhausted
  | succ fuel ih =>
    apply bind (field ref "level")
    intro level
    apply bind (timesNumber level 100)
    intro price
    grind

@[grind ←]
theorem saveData (datum : Datum) (path : String) : Composed (Builtin.saveData datum path) := by
  grind [Builtin.saveData]

/-! ## Pages and databases -/

variable (conn words : Value) (given : List Value)

@[grind ←]
theorem extendCanvas (part : String) (canvas item : Value) :
    Composed (Builtin.extendCanvas part canvas item) := by
  cases canvas <;> grind [Builtin.extendCanvas]

@[grind ←]
theorem partOf (part : String) : Composed (Builtin.partOf ref part) := by
  grind [Builtin.partOf]

@[grind ←]
theorem weave (canvas : Value) : Composed (Builtin.weave canvas) := by
  unfold Builtin.weave
  split
  · repeat' with_reducible refine bind ?_ fun _ => ?_
    all_goals grind
  · exact forbid _

@[grind ←]
theorem awakenAt (host password database : Value) (port : List Value) :
    Composed (Builtin.awakenAt host user password database port) := by
  unfold Builtin.awakenAt
  iterate 5 with_reducible apply bind (by grind); intro _
  apply ask (fun _ _ => rfl)
  intro world
  split
  · exact refuse _ _
  · apply recover (newConnection _ _ _ _ _)
    intro trouble worded
    split
    · exact refuse _ _
    · exact throw worded

@[grind ←]
theorem parameters : Composed (Builtin.parameters given) := by
  cases given with
  | nil => exact pure none
  | cons value given => grind [Builtin.parameters]

@[grind ←]
theorem askConnection (dictionary : Bool) (words : String) (params : Option (List Datum)) :
    Composed (Builtin.ask conn dictionary words params) := by
  cases conn <;> grind [Builtin.ask]

@[grind ←]
theorem consult : Composed (Builtin.consult conn words given) := by
  grind [Builtin.consult]

@[grind ←]
theorem divine : Composed (Builtin.divine conn words given) := by
  grind [Builtin.divine]

@[grind ←]
theorem rollBack : Composed (Builtin.rollBack conn) := by
  cases conn <;> grind [Builtin.rollBack]

@[grind ←]
theorem decree : Composed (Builtin.decree conn words given) := by
  apply bind (text words)
  intro words
  apply bind (parameters given)
  intro params
  apply recover
  · apply bind (askConnection _ _ _ _)
    intro res
    exact bind (askDatabase _) fun _ => bind (askDatabase _) fun _ => pure _
  · intro trouble worded
    exact bind (rollBack conn) fun _ => refuse _ _

@[grind ←]
theorem ritual (failure mem : String) (event : DatabaseEvent) :
    Composed (Builtin.ritual failure mem event conn) := by
  cases conn <;> grind [Builtin.ritual]

/-! ## Portals, speech and files -/

@[grind ←]
theorem receiveFrom (portal : Value) (size : Int) : Composed (Builtin.receiveFrom portal size) := by
  cases portal <;> grind [Builtin.receiveFrom]

@[grind ←]
theorem chooseVoice (num : Int) : Composed (Builtin.chooseVoice num) := by
  grind [Builtin.chooseVoice]

@[grind ←]
theorem unrollAs (path mode : String) : Composed (Builtin.unrollAs path mode) := by
  grind [Builtin.unrollAs]

@[grind ←]
theorem writeScroll (verb : String) (keep : Bool) (path content : Value) :
    Composed (Builtin.writeScroll verb keep path content) := by
  grind [Builtin.writeScroll]

@[grind ←]
theorem readFrom (handle : Value) (count : Int) : Composed (Builtin.readFrom handle count) := by
  cases handle <;> grind [Builtin.readFrom]

@[grind ←]
theorem scrollExists : Composed (Builtin.scrollExists args) := by
  unfold Builtin.scrollExists
  split
  · exact bind (text _) fun _ => ask (fun _ _ => rfl) fun _ => pure _
  · exact forbid _

/-! ## Realms -/

variable (realm : Realm) (endpoint : String) (body : Datum) (beta : Bool) (response : Response)
  (user group : Value)

@[grind ←]
theorem reject (msg : String) : Composed (Realm.reject msg : Action α) :=
  refuse .azureRealmError msg

@[grind ←]
theorem authenticate : Composed realm.authenticate := by
  apply ask (fun _ _ => rfl)
  intro world
  split
  · exact reject _
  · iterate 2 apply seq (note _)
    apply bind (plant _)
    intro answer
    cases answer <;> grind

@[grind ←]
theorem headers : Composed realm.headers := by
  grind [Realm.headers]

@[grind ←]
theorem send (method url : String) : Composed (realm.send method url body) := by
  apply ask (fun _ _ => rfl)
  intro world
  split
  · exact reject _
  · apply bind (headers realm)
    intro headers
    apply seq (note _)
    apply ask (fun _ _ => rfl)
    intro world
    split
    · exact seq (modify fun _ _ => rfl) (pure _)
    · exact fault _

@[grind ←]
theorem dataOf : Composed (Realm.dataOf response) := by
  grind [Realm.dataOf]

@[grind ←]
theorem reasonIn : Composed (Realm.reasonIn response) := by
  apply bind (dataOf response)
  intro data
  cases data <;> grind

@[grind ←]
theorem complain : Composed (Realm.complain response : Action α) :=
  bind (recover (reasonIn response) fun _ _ => pure _) fun _ => bind (text _) fun _ => reject _

@[grind ←]
theorem answerOf : Composed (Realm.answerOf response) := by
  grind [Realm.answerOf]

@[grind ←]
theorem fetch : Composed (realm.fetch endpoint beta) := by
  grind [Realm.fetch]

@[grind ←]
theorem post : Composed (realm.post endpoint body beta) := by
  grind [Realm.post]

@[grind ←]
theorem patch : Composed (realm.patch endpoint body beta) := by
  grind [Realm.patch]

@[grind ←]
theorem delete : Composed (realm.delete endpoint beta) := by
  grind [Realm.delete]

@[grind ←]
theorem listed (answer : Value) : Composed (Realm.listed answer) := by
  cases answer <;> grind [Realm.listed]

@[grind ←]
theorem fetchList : Composed (realm.fetchList endpoint beta) :=
  bind (fetch realm endpoint beta) listed

@[grind ←]
theorem commaJoined : Composed (Realm.commaJoined value) := by
  grind [Realm.commaJoined]

@[grind ←]
theorem listUsers (select top : Value) : Composed (realm.listUsers select top) := by
  grind [Realm.listUsers]

@[grind ←]
theorem userEndpoint : Composed (Realm.userEndpoint user) := bind (text user) fun _ => pure _

@[grind ←]
theorem groupEndpoint : Composed (Realm.groupEndpoint group) := bind (text group) fun _ => pure _

@[grind ←]
theorem passwordProfile (password forceChange : Value) :
    Composed (Realm.passwordProfile password forceChange) :=
  bind (portray forceChange) fun _ => bind (portray password) fun _ => pure _

@[grind ←]
theorem createUser (displayName nickname principal password forceChange : Value) :
    Composed (realm.createUser displayName nickname principal password forceChange) := by
  unfold Realm.createUser
  iterate 4 apply bind (by grind); intro _
  exact post realm _ _ _

@[grind ←]
theorem updateUser (properties : Value) : Composed (realm.updateUser user properties) :=
  bind (userEndpoint user) fun _ => bind (portray properties) fun _ => patch realm _ _ _

@[grind ←]
theorem resetPassword (password forceChange : Value) :
    Composed (realm.resetPassword user password forceChange) :=
  bind (userEndpoint user) fun _ => bind (passwordProfile _ _) fun _ => patch realm _ _ _

@[grind ←]
theorem dataOrEmpty : Composed (Realm.dataOrEmpty value) := by
  grind [Realm.dataOrEmpty]

@[grind ←]
theorem createGroup (displayName nickname desc securityEnabled mailEnabled types : Value) :
    Composed
      (realm.createGroup displayName nickname desc securityEnabled mailEnabled types) := by
  unfold Realm.createGroup
  iterate 6 apply bind (by grind); intro _
  exact post realm _ _ _

@[grind ←]
theorem addGroupMember : Composed (realm.addGroupMember group user) := by
  apply bind (text user)
  intro user
  apply ask (fun _ _ => rfl)
  intro world
  split
  · exact reject _
  · grind

@[grind ←]
theorem assignLicence (licence disabledPlans : Value) :
    Composed (realm.assignLicence user licence disabledPlans) := by
  unfold Realm.assignLicence
  iterate 3 apply bind (by grind); intro _
  exact post realm _ _ _

@[grind ←]
theorem getOrganization : Composed realm.getOrganization := by
  apply bind (fetch realm _ _)
  intro answer
  cases answer <;> grind

@[grind ←]
theorem currentRealm : Composed Builtin.currentRealm := by
  apply ask (fun _ _ => rfl)
  grind

@[grind ←]
theorem listing (standard : Int) {list : Realm → Value → Action Value}
    (composed : ∀ realm top, Composed (list realm top)) :
    Composed (Builtin.listing standard list args) :=
  bind currentRealm fun realm => bind (integerOr args standard) fun _ => composed realm _

@[grind ←]
theorem plainly {ask : Realm → Action Value} (composed : ∀ realm, Composed (ask realm)) :
    Composed (Builtin.plainly ask args) :=
  bind currentRealm composed

@[grind ←]
theorem about (complaint : String) {ask : Realm → Value → Action Value}
    (composed : ∀ realm subject, Composed (ask realm subject)) :
    Composed (Builtin.about complaint ask args) := by
  unfold Builtin.about
  split
  · exact bind currentRealm fun realm => bind (text _) fun _ => composed realm _
  · exact reject _

@[grind ←]
theorem aboutTwo (complaint : String) {ask : Realm → Value → Value → Action Value}
    (composed : ∀ realm first second, Composed (ask realm first second)) :
    Composed (Builtin.aboutTwo complaint ask args) := by
  unfold Builtin.aboutTwo
  split
  · exact bind currentRealm fun realm => bind (text _) fun _ => bind (text _) fun _ =>
      composed realm _ _
  · exact reject _

@[grind ←]
theorem summonAzureRealm : Composed (Builtin.summonAzureRealm args) := by
  unfold Builtin.summonAzureRealm
  split
  · iterate 4 apply bind (by grind); intro _
    exact seq (modify fun _ _ => rfl) (newRecord _)
  · exact reject _

@[grind ←]
theorem banishAzureRealm : Composed (Builtin.banishAzureRealm args) :=
  seq (modify fun _ _ => rfl) (pure _)

end Action.Composed

/-!
## The builtins

Each builtin is taken apart into what it binds, what it rescues and its cases.  What is left are
single actions and the compositions above.
-/

namespace Builtin

open Spellbook.Action (Composed)

theorem console_composed : ∀ builtin ∈ console, ∀ args,
    Composed (builtin.act args) ∨ builtin.act = prophecyInput := by
  simp only [console, forall_mem_cons, not_mem_nil, false_implies, implies_true,
    and_true, scribeLine.eq_def, scribe.eq_def, or_true]
  and_intros <;> intro args <;> apply Or.inl
  all_goals repeat' first
    | with_reducible apply Composed.bind
    | intro _
  all_goals grind

/-- The builtins that take only values. -/
theorem plain_composed :
    ∀ builtin ∈ speech ++ portals ++ canvases ++ basics ++ scrolls ++ oracles ++ quests,
      ∀ args, Composed (builtin.act args) := by
  simp only [speech, speakSpell.eq_def, whisperSpell.eq_def, shoutSpell.eq_def, changeVoice.eq_def,
    setSpeechRate.eq_def, portals, summonPortal.eq_def, openHellmouth.eq_def, sendOwl.eq_def,
    receiveOwl.eq_def, closePortal.eq_def, awaitVisitor.eq_def, canvases, conjureCanvas.eq_def,
    enchantElement.eq_def, enchantStyle.eq_def, appendToCanvas.eq_def, addStyleToCanvas.eq_def,
    weavePage.eq_def, scribePage.eq_def, summonBrowser.eq_def, basics, measure.eq_def,
    transformToRune.eq_def, transformToScroll.eq_def, transformToPotion.eq_def, randomFate.eq_def,
    slumber.eq_def, range.eq_def, append.eq_def, remove.eq_def, keys.eq_def, values.eq_def,
    typeOf.eq_def, scrolls, unrollScroll.eq_def, sealScroll.eq_def, inscribeScroll.eq_def,
    chronicleScroll.eq_def, decipherScroll.eq_def, readRunes.eq_def, etchRunes.eq_def,
    divineLines.eq_def, banishScroll.eq_def, oracles, awakenOracle.eq_def, dismissOracle.eq_def,
    consultOracle.eq_def, divineOne.eq_def, decreeOracle.eq_def, lastProphecyId.eq_def,
    beginRitual.eq_def, completeRitual.eq_def, abandonRitual.eq_def, quests, forgeHero.eq_def,
    forgeCreature.eq_def, rollDestiny.eq_def, inflictWound.eq_def, restoreVigor.eq_def,
    bestowArtifact.eq_def, claimLoot.eq_def, checkFate.eq_def, gainExperience.eq_def,
    sagaSave.eq_def, sagaLoad.eq_def, encounterChance.eq_def, chooseFate.eq_def, forall_mem_append,
    forall_mem_cons, not_mem_nil, false_implies, implies_true, and_true]
  and_intros <;> intro args
  all_goals repeat' first
    | with_reducible apply Composed.bind
    | with_reducible apply Composed.recover
    | split
    | intro _
  all_goals grind

theorem realms_composed : ∀ builtin ∈ realms, ∀ args, Composed (builtin.act args) := by
  simp only [realms, forall_mem_cons, not_mem_nil, false_implies, implies_true, and_true,
    conjureUser.eq_def, transmuteUser.eq_def, resetUserWard.eq_def, conjureGroup.eq_def,
    bestowLicense.eq_def]
  and_intros <;> intro args
  all_goals repeat' first
    | with_reducible apply Composed.bind
    | split
    | intro _
  all_goals grind [Realm.getUser, Realm.deleteUser, Realm.setEnabled, Realm.listGroups,
    Realm.getGroup, Realm.deleteGroup, Realm.getGroupMembers, Realm.removeGroupMember,
    Realm.listLicences, Realm.getUserLicences, Realm.removeLicence, Realm.listRoles,
    Realm.getRoleMembers, Realm.listApplications, Realm.listServicePrincipals, Realm.listDomains,
    Realm.getSignInLogs, Realm.listPolicies]

/-- Every builtin is composed, except the one that reads a line. -/
theorem library_composed : ∀ builtin ∈ library, ∀ args,
    Composed (builtin.act args) ∨ builtin.act = prophecyInput := by
  intro builtin mem args
  have plain := plain_composed builtin
  simp only [library, mem_append] at mem plain
  grind [console_composed, realms_composed]

/-- The console makes no difference to a builtin. -/
theorem matched_of_named {name : String} {builtin : Builtin} (found : named? name = some builtin)
    (args : List Value) : Action.Matched (builtin.act args) (builtin.act args) := by
  rcases library_composed builtin (mem_of_find?_eq_some found) args with composed | reads
  · exact .of_composed composed
  · rw [reads]
    apply Action.Matched.bind (.of_composed (.textOr _ _))
    intro prompt
    exact (Action.Matched.readLine prompt).bind fun _ => .of_composed (.pure _)

end Builtin

end Spellbook
