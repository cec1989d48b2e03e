import Spellbook.Builtin.Realm
import Spellbook.Proofs.Store.Records
import Spellbook.Proofs.World.Passage

/-!
# Tokens of requests

Whatever a script calls, a request carries the token that the sign-in service gave at the summons in
force, which is the latest one that succeeded, unless a banishment came after it
(`requests_bear_token`).

Before it sends a request, a builtin for realms looks at values only (`Steady`); afterwards it sends
no more (`Restrained`).
-/

namespace Spellbook

open List Spellbook.Action

/-! ## Texts that are not empty -/

theorem Number.layOut_ne_empty (format : FloatFormat) {digits : String} (some : digits ≠ "")
    (point : Int) : layOut format digits point ≠ "" := by
  unfold layOut exponentText
  dsimp only
  split
  · simp
  · split
    · simp
    · by_cases short : (digits.length : Int) ≤ point <;> simp [short, some]

theorem Number.floatTextIn_ne_empty (format : FloatFormat) (num : Float) :
    floatTextIn format num ≠ "" := by
  unfold floatTextIn
  split
  · simp
  · split <;> simp
  · dsimp only
    split
    · simp
    · simp [layOut_ne_empty]

theorem Number.complexText_ne_empty (real imaginary : Float) : complexText real imaginary ≠ "" := by
  unfold complexText
  dsimp only
  split <;> simp

theorem Number.integerText_ne_empty (int : Int) : integerText int ≠ "" := by
  unfold integerText
  split <;> simp

namespace Store

variable {store : Store} {value : Value} {text : String}

theorem wrapped_ne_empty {α : Type} {inner : Except Fault α} {wrap : α → String}
    (filled : ∀ res, wrap res ≠ "") (written : (do return wrap (← inner)) = .ok text) :
    text ≠ "" := by
  cases inner with
  | error failure => cases written
  | ok res =>
    cases written
    exact filled res

theorem quotedText_ne_empty (written : store.quotedText value = .ok text) : text ≠ "" := by
  unfold quotedText innerText at written
  cases value with
  | void | portal | connection =>
    cases written
    simp
  | charm truth =>
    cases written
    cases truth <;> simp
  | rune int =>
    dsimp only at written
    rw [Number.textOfInteger] at written
    split at written <;> cases written
    exact Number.integerText_ne_empty int
  | potion num mark =>
    cases written
    exact Number.floatTextIn_ne_empty _ num
  | complex real imaginary =>
    cases written
    exact Number.complexText_ne_empty real imaginary
  | scroll words =>
    cases written
    simp [Text.quoted]
  | spell | builtin =>
    cases written
    simp [Value.functionText]
  | handle =>
    cases written
    simp
  | tome | grimoire => exact wrapped_ne_empty (fun _ => by simp) written

/-- Only the text of a value that is not true can be empty. -/
theorem plainText_ne_empty (truthy : store.isTruthy value = true)
    (written : store.plainText value = .ok text) : text ≠ "" := by
  cases value with
  | scroll words =>
    cases written
    simpa [isTruthy, String.isEmpty_iff] using truthy
  | _ => exact quotedText_ne_empty written

end Store

/-! ## Before and after a request -/

/-- The request that was sent, if the event is one. -/
def Event.request? : Event → Option Request
  | request sent => some sent
  | _ => none

/-- The requests that were sent, the latest first. -/
def World.requests (world : World) : List Request := world.journal.filterMap Event.request?

namespace Realm

/-- Realm and store are as they were, and no request was sent. -/
def Steady (world after : World) : Prop :=
  after.realm = world.realm ∧ after.requests = world.requests ∧ after.store = world.store

instance : Passage Steady where
  refl _ := ⟨rfl, rfl, rfl⟩
  trans first second :=
    ⟨second.1.trans first.1, second.2.1.trans first.2.1, second.2.2.trans first.2.2⟩

instance : HandleFree Steady where
  handles _ _ := ⟨rfl, rfl, rfl⟩

/-- The realm is as it was, and no request was sent. -/
def Restrained (world after : World) : Prop :=
  after.realm = world.realm ∧ after.requests = world.requests

instance : Passage Restrained where
  refl _ := ⟨rfl, rfl⟩
  trans first second := ⟨second.1.trans first.1, second.2.trans first.2⟩

instance : StoreFree Restrained where
  store _ _ := ⟨rfl, rfl⟩

/-- The headers carry the token, and the text of the token is not empty. -/
def Bear (store : Store) (token : Value) (headers : List (String × String)) : Prop :=
  ∃ text, store.plainText token = .ok text ∧ text ≠ "" ∧
    ("Authorization", "Bearer " ++ text) ∈ headers

/-- The realm is as it was, and the requests that were sent carry the token. -/
def Issues (token : Value) (world after : World) : Prop :=
  after.realm = world.realm ∧ ∃ issued, after.requests = issued ++ world.requests ∧
    ∀ request ∈ issued, Bear world.store token request.headers

namespace Issues

variable {token : Value} {world middle after : World}

theorem since (steady : Steady world middle) (issues : Issues token middle after) :
    Issues token world after := by
  obtain ⟨realm, issued, requests, bear⟩ := issues
  exact ⟨realm.trans steady.1, issued, requests.trans (by rw [steady.2.1]), steady.2.2 ▸ bear⟩

theorem upTo (issues : Issues token world middle) (restrained : Restrained middle after) :
    Issues token world after := by
  obtain ⟨realm, issued, requests, bear⟩ := issues
  exact ⟨restrained.1.trans realm, issued, restrained.2.trans requests, bear⟩

theorem none (token : Value) (world : World) : Issues token world world :=
  ⟨rfl, [], rfl, fun _ mem => absurd mem not_mem_nil⟩

variable {α : Type} {action : Action α}

theorem of_restrained (restrained : Abides Restrained action) : Abides (Issues token) action :=
  ⟨fun world => (none token world).upTo (restrained.related world)⟩

theorem of_request {request : Request} {next : Unit → Action α}
    (bear : Bear world.store token request.headers) (restrained : Abides Restrained (next ())) :
    Issues token world (left ((note (.request request) >>= next) world)) := by
  refine upTo ?_ (restrained.related { world with journal := .request request :: world.journal })
  refine ⟨rfl, [request], rfl, ?_⟩
  intro other mem
  cases mem_singleton.mp mem
  exact bear

end Issues

end Realm

namespace Action.Abides

open Realm

variable {α β : Type} {action : Action α} {token : Value}

/-- A request can follow what is steady. -/
theorem after {next : α → Action β} (steady : Abides Steady action)
    (continued : ∀ res, Abides (Issues token) (next res)) :
    Abides (Issues token) (action >>= next) :=
  steady.follow continued (fun first => .since first (.none token _)) .since

/-- What is restrained can follow a request. -/
theorem before {next : α → Action β} (issues : Abides (Issues token) action)
    (continued : ∀ res, Abides Restrained (next res)) :
    Abides (Issues token) (action >>= next) :=
  issues.follow continued id .upTo

end Action.Abides

namespace Realm

/-! ## Sending -/

theorem headers_eq_ok {realm : Realm} {world after : World} {headers : List (String × String)}
    (ended : realm.headers world = .ok headers after) :
    after = world ∧ Bear world.store realm.token headers := by
  obtain ⟨truth, between, asked, ended⟩ := bind_eq_ok ended
  cases asked
  cases truthy : world.store.isTruthy realm.token with
  | false =>
    rw [truthy] at ended
    cases ended
  | true =>
    rw [truthy] at ended
    obtain ⟨text, between, written, ended⟩ := bind_eq_ok ended
    cases ended
    obtain ⟨written, rfl⟩ := text_eq_ok written
    exact ⟨rfl, text, written, Store.plainText_ne_empty truthy written, mem_cons_self⟩

theorem headers_steady (realm : Realm) : Abides Steady realm.headers := by
  apply Abides.bind (.truth _)
  intro truth
  cases truth with
  | true => exact .bind (.text _) fun _ => .pure _
  | false => exact .refuse _ _

theorem send_issues (realm : Realm) (method url : String) (body : Datum) :
    Abides (Issues realm.token) (realm.send method url body) := by
  apply Abides.after .get
  intro looked
  split
  case isTrue => exact Issues.of_restrained (.refuse _ _)
  case isFalse =>
    constructor
    intro world
    have steady := (headers_steady realm).related world
    cases made : realm.headers world with
    | error trouble middle =>
      rw [made] at steady
      rw [bind_of_error made]
      exact .since steady (.none _ middle)
    | ok headers middle =>
      obtain ⟨rfl, bear⟩ := headers_eq_ok made
      rw [bind_of_ok made]
      refine Issues.of_request bear (.bind .get ?_)
      intro looked
      split
      · exact .bind ⟨fun _ => ⟨rfl, rfl⟩⟩ fun _ => .pure _
      · exact .fault _

/-! ## What comes after a response -/

theorem dataOf_restrained (response : Response) : Abides Restrained (dataOf response) := by
  unfold dataOf
  split
  · exact .plant _
  · exact .fault _

theorem reasonIn_restrained (response : Response) : Abides Restrained (reasonIn response) := by
  apply Abides.bind (dataOf_restrained response)
  intro data
  cases data with
  | grimoire ref =>
    apply Abides.bind (.field? _ _)
    intro field
    split
    · exact .bind (.text _) fun _ => .pure _
    · exact .bind (.text _) fun _ => .fieldOr _ _ _
    · exact .lacks _ _
  | _ => exact .lacks _ _

theorem complain_restrained {α : Type} (response : Response) :
    Abides Restrained (complain response : Action α) :=
  .bind (.recover (reasonIn_restrained response) fun _ => .pure _) fun _ =>
    .bind (.text _) fun _ => .refuse _ _

theorem answerOf_restrained (response : Response) : Abides Restrained (answerOf response) := by
  unfold answerOf
  split
  · exact .newRecord _
  · exact dataOf_restrained response

theorem listed_restrained (answer : Value) : Abides Restrained (listed answer) := by
  unfold listed
  split
  · apply Abides.bind (.field? _ _)
    intro field
    cases field with
    | some value => exact .pure value
    | none => exact .newTome _
  · exact .lacks _ _

/-! ## Operations -/

section Operations

variable (realm : Realm) (endpoint : String) (body : Datum) (beta : Bool)

theorem fetch_issues : Abides (Issues realm.token) (realm.fetch endpoint beta) := by
  apply Abides.before (send_issues realm _ _ _)
  intro response
  split
  · exact dataOf_restrained response
  · split
    · exact .refuse _ _
    · exact complain_restrained response

theorem post_issues : Abides (Issues realm.token) (realm.post endpoint body beta) := by
  apply Abides.before (send_issues realm _ _ _)
  intro response
  split
  · exact answerOf_restrained response
  · exact complain_restrained response

theorem patch_issues : Abides (Issues realm.token) (realm.patch endpoint body beta) := by
  apply Abides.before (send_issues realm _ _ _)
  intro response
  split
  · exact answerOf_restrained response
  · exact complain_restrained response

theorem delete_issues : Abides (Issues realm.token) (realm.delete endpoint beta) := by
  apply Abides.before (send_issues realm _ _ _)
  intro response
  split
  · exact .pure _
  · exact complain_restrained response

theorem fetchList_issues : Abides (Issues realm.token) (realm.fetchList endpoint beta) :=
  .before (fetch_issues realm endpoint beta) listed_restrained

variable (value value' : Value)

theorem commaJoined_steady : Abides Steady (commaJoined value) := by
  apply Abides.bind
  · refine .recover (.elements value) fun trouble => ?_
    split
    · exact .fault _
    · exact .throw _
  · intro items
    refine .bind (.mapM (fun item => ?_) _) fun _ => .pure _
    dsimp only
    split
    · exact .pure _
    · exact .fault _

theorem dataOrEmpty_steady : Abides Steady (dataOrEmpty value) := by
  apply Abides.bind (.truth value)
  intro truth
  split
  · exact .portray value
  · exact .pure _

theorem userEndpoint_steady : Abides Steady (userEndpoint value) :=
  .bind (.text value) fun _ => .pure _

theorem groupEndpoint_steady : Abides Steady (groupEndpoint value) :=
  .bind (.text value) fun _ => .pure _

theorem passwordProfile_steady : Abides Steady (passwordProfile value value') :=
  .bind (.portray _) fun _ => .bind (.portray _) fun _ => .pure _

theorem listUsers_issues : Abides (Issues realm.token) (realm.listUsers value value') := by
  apply Abides.after (.text _)
  intro limit
  apply Abides.after (.truth _)
  intro truth
  dsimp only
  split
  · exact .after (commaJoined_steady _) fun _ => fetchList_issues realm _ _
  · exact fetchList_issues realm _ _

theorem createUser_issues (displayName nickname principal password forceChange : Value) :
    Abides (Issues realm.token)
      (realm.createUser displayName nickname principal password forceChange) :=
  .after (.portray _) fun _ => .after (.portray _) fun _ => .after (.portray _) fun _ =>
    .after (passwordProfile_steady _ _) fun _ => post_issues realm _ _ _

theorem resetPassword_issues (user password forceChange : Value) :
    Abides (Issues realm.token) (realm.resetPassword user password forceChange) :=
  .after (userEndpoint_steady _) fun _ => .after (passwordProfile_steady _ _) fun _ =>
    patch_issues realm _ _ _

theorem updateUser_issues : Abides (Issues realm.token) (realm.updateUser value value') :=
  .after (userEndpoint_steady _) fun _ => .after (.portray _) fun _ => patch_issues realm _ _ _

theorem createGroup_issues
    (displayName nickname desc securityEnabled mailEnabled types : Value) :
    Abides (Issues realm.token)
      (realm.createGroup displayName nickname desc securityEnabled mailEnabled types) :=
  .after (.portray _) fun _ => .after (.portray _) fun _ => .after (.portray _) fun _ =>
    .after (.portray _) fun _ => .after (.portray _) fun _ => .after (dataOrEmpty_steady _) fun _ =>
      post_issues realm _ _ _

theorem addGroupMember_issues :
    Abides (Issues realm.token) (realm.addGroupMember value value') := by
  apply Abides.after (.text _)
  intro user
  apply Abides.after .get
  intro looked
  split
  · exact Issues.of_restrained (.refuse _ _)
  · apply Abides.after (groupEndpoint_steady _)
    intro url
    apply Abides.before (send_issues realm _ _ _)
    intro response
    split
    · exact .newRecord _
    · exact complain_restrained response

theorem assignLicence_issues (user licence disabledPlans : Value) :
    Abides (Issues realm.token) (realm.assignLicence user licence disabledPlans) :=
  .after (.portray _) fun _ => .after (dataOrEmpty_steady _) fun _ =>
    .after (userEndpoint_steady _) fun _ => post_issues realm _ _ _

theorem getOrganization_issues : Abides (Issues realm.token) realm.getOrganization := by
  apply Abides.before (fetch_issues realm _ _)
  intro answer
  cases answer with
  | grimoire ref =>
    apply Abides.bind (.field? _ _)
    intro field
    cases field with
    | some value => exact .firstOf value
    | none => exact .newRecord _
  | _ => exact .lacks _ _

end Operations

/-! ## Builtins -/

theorem currentRealm_eq {world : World} :
    Builtin.currentRealm world = world.realm.elim
      (.error (.told .azureRealmError
        "Not connected to Azure. Use summon_azure_realm() first.") world) (.ok · world) := by
  have looked : (get : Action World) world = .ok world world := rfl
  rw [Builtin.currentRealm, bind_of_ok looked]
  cases world.realm <;> rfl

/--
A builtin that is governed by the current realm: it ends in an error about the realm if there is
none, and otherwise its requests carry the token of the realm.
-/
structure Governed (action : Action Value) : Prop where
  rejects : ∀ {world}, world.realm = none →
    ∃ msg, action world = .error (.told .azureRealmError msg) world
  issues : ∀ {world realm}, world.realm = some realm →
    Issues realm.token world (left (action world))

namespace Governed

theorem reject (msg : String) : Governed (Realm.reject msg) where
  rejects _ := ⟨msg, rfl⟩
  issues _ := .none _ _

theorem current {body : Realm → Action Value}
    (issues : ∀ realm, Abides (Issues realm.token) (body realm)) :
    Governed (Builtin.currentRealm >>= body) where
  rejects absent := ⟨_, bind_of_error (currentRealm_eq.trans (by rw [absent]; rfl))⟩
  issues {world realm} present := by
    rw [bind_of_ok (currentRealm_eq.trans (by rw [present]; rfl))]
    exact (issues realm).related world

variable {args : List Value}

theorem listing {standard : Int} {list : Realm → Value → Action Value}
    (issues : ∀ realm top, Abides (Issues realm.token) (list realm top)) :
    Governed (Builtin.listing standard list args) :=
  current fun realm => .after (.integerOr _ _) fun _ => issues realm _

theorem plainly {ask : Realm → Action Value}
    (issues : ∀ realm, Abides (Issues realm.token) (ask realm)) :
    Governed (Builtin.plainly ask args) :=
  current issues

theorem about {complaint : String} {ask : Realm → Value → Action Value}
    (issues : ∀ realm subject, Abides (Issues realm.token) (ask realm subject)) :
    Governed (Builtin.about complaint ask args) := by
  unfold Builtin.about
  split
  · exact current fun realm => .after (.text _) fun _ => issues realm _
  · exact reject complaint

theorem aboutTwo {complaint : String} {ask : Realm → Value → Value → Action Value}
    (issues : ∀ realm first second, Abides (Issues realm.token) (ask realm first second)) :
    Governed (Builtin.aboutTwo complaint ask args) := by
  unfold Builtin.aboutTwo
  split
  · exact current fun realm => .after (.text _) fun _ => .after (.text _) fun _ => issues realm _ _
  · exact reject complaint

theorem conjureUser : Governed (Builtin.conjureUser args) := by
  unfold Builtin.conjureUser
  split
  · exact current fun realm => .after (.text _) fun _ => .after (.text _) fun _ =>
      .after (.text _) fun _ => .after (.text _) fun _ => createUser_issues realm _ _ _ _ _
  · exact reject _

theorem transmuteUser : Governed (Builtin.transmuteUser args) := by
  unfold Builtin.transmuteUser
  split
  · apply current
    intro realm
    split
    · exact .after (.text _) fun _ => updateUser_issues realm _ _
    · exact Issues.of_restrained (.refuse _ _)
  · exact reject _

theorem resetUserWard : Governed (Builtin.resetUserWard args) := by
  unfold Builtin.resetUserWard
  split
  · exact current fun realm => .after (.text _) fun _ => .after (.text _) fun _ =>
      resetPassword_issues realm _ _ _
  · exact reject _

theorem conjureGroup : Governed (Builtin.conjureGroup args) := by
  unfold Builtin.conjureGroup
  split
  · exact current fun realm => .after (.textOr _ _) fun _ => .after (.text _) fun _ =>
      .after (.text _) fun _ => createGroup_issues realm _ _ _ _ _ _
  · exact reject _

theorem bestowLicense : Governed (Builtin.bestowLicense args) := by
  unfold Builtin.bestowLicense
  split
  · exact current fun realm => .after (.text _) fun _ => .after (.text _) fun _ =>
      assignLicence_issues realm _ _ _
  · exact reject _

end Governed

/-- Every builtin for realms apart from the first two is governed by the current realm. -/
theorem governed_of_mem {builtin : Builtin} (mem : builtin ∈ Builtin.realms.drop 2)
    (args : List Value) : Governed (builtin.act args) := by
  have users := userEndpoint_steady
  have groups := groupEndpoint_steady
  revert builtin
  simp only [Builtin.realms, drop_succ_cons, drop_zero, forall_mem_cons]
  refine ⟨.listing fun realm top => listUsers_issues realm _ top,
    .about fun realm user => .after (users user) fun _ => fetch_issues realm _ _,
    .conjureUser, .transmuteUser,
    .about fun realm user => .after (users user) fun _ => delete_issues realm _ _,
    .about fun realm user => .after (users user) fun _ => patch_issues realm _ _ _,
    .about fun realm user => .after (users user) fun _ => patch_issues realm _ _ _,
    .resetUserWard,
    .listing fun realm top => .after (.text top) fun _ => fetchList_issues realm _ _,
    .about fun realm group => .after (groups group) fun _ => fetch_issues realm _ _,
    .conjureGroup,
    .about fun realm group => .after (groups group) fun _ => delete_issues realm _ _,
    .about fun realm group => .after (groups group) fun _ => fetchList_issues realm _ _,
    .aboutTwo addGroupMember_issues,
    .aboutTwo fun realm group user => .after (groups group) fun _ => .after (.text user) fun _ =>
      delete_issues realm _ _,
    .plainly fun realm => fetchList_issues realm _ _,
    .about fun realm user => .after (users user) fun _ => fetchList_issues realm _ _,
    .bestowLicense,
    .aboutTwo fun realm user licence => .after (.portray licence) fun _ =>
      .after (users user) fun _ => post_issues realm _ _ _,
    .plainly fun realm => fetchList_issues realm _ _,
    .about fun realm role => .after (.text role) fun _ => fetchList_issues realm _ _,
    .plainly fun realm => fetchList_issues realm _ _,
    .plainly getOrganization_issues,
    .listing fun realm top => .after (.text top) fun _ => fetchList_issues realm _ _,
    .listing fun realm top => .after (.text top) fun _ => fetchList_issues realm _ _,
    .listing fun realm top => .after (.text top) fun _ => fetchList_issues realm _ _,
    .plainly fun realm => fetchList_issues realm _ _, ?_⟩
  intro builtin none
  cases none

/-! ## Summonses -/

/-- The token in what was planted. -/
def tokenIn : Value × Store → Option Value
  | (.grimoire ref, store) => (store.grimoire ref).get? (.scroll "access_token")
  | _ => none

/-- The token that the sign-in service gives in the world, if it gives one. -/
def offeredToken? (world : World) : Option Value :=
  world.signIn.bind fun answer => tokenIn (world.store.plant answer)

theorem note_restrained {event : Event} (other : event.request? = none) :
    Abides Restrained (note event) :=
  ⟨fun _ => ⟨rfl, filterMap_cons_none other⟩⟩

theorem authenticate_restrained (realm : Realm) : Abides Restrained realm.authenticate := by
  apply Abides.bind .get
  intro looked
  split
  · exact .refuse _ _
  · apply Abides.bind (note_restrained rfl)
    intro
    apply Abides.bind (note_restrained rfl)
    intro
    apply Abides.bind (.plant _)
    intro planted
    split
    · apply Abides.bind (.field? _ _)
      intro token
      cases token with
      | some token => exact .pure _
      | none =>
        exact .bind (.fieldOr _ _ _) fun _ => .bind (.fieldOr _ _ _) fun _ =>
          .bind (.text _) fun _ => .refuse _ _
    · exact .fault _
    · exact .lacks _ _

theorem authenticate_eq_ok {realm signedIn : Realm} {world after : World}
    (ended : realm.authenticate world = .ok signedIn after) :
    offeredToken? world = some signedIn.token := by
  obtain ⟨looked, between, asked, ended⟩ := bind_eq_ok ended
  cases asked
  cases service : world.signIn with
  | none =>
    rw [service] at ended
    cases ended
  | some answer =>
    rw [service] at ended
    obtain ⟨_, _, noted, ended⟩ := bind_eq_ok ended
    cases noted
    obtain ⟨_, _, noted, ended⟩ := bind_eq_ok ended
    cases noted
    obtain ⟨value, middle, planted, ended⟩ := bind_eq_ok ended
    have outcome : world.store.plant answer = (value, middle.store) := by
      cases planted
      rfl
    rw [offeredToken?, service, Option.bind_some, outcome]
    cases value with
    | grimoire ref =>
      obtain ⟨token, _, found, ended⟩ := bind_eq_ok ended
      cases found
      change (middle.store.grimoire ref).get? _ = _
      cases found : (middle.store.grimoire ref).get? (.scroll "access_token") with
      | some token =>
        rw [found] at ended
        cases ended
        rfl
      | none =>
        rw [found] at ended
        obtain ⟨_, _, -, ended⟩ := bind_eq_ok ended
        obtain ⟨_, _, -, ended⟩ := bind_eq_ok ended
        obtain ⟨_, _, -, ended⟩ := bind_eq_ok ended
        cases ended
    | _ => cases ended

/-- How a summons ends: the realm is as it was, or it has the token that the service gives. -/
inductive Summoned (world : World) : EStateM.Result Trouble World Value → Prop where
  | failed {trouble : Trouble} {after : World} (restrained : Restrained world after) :
      Summoned world (.error trouble after)
  | connected {value : Value} {after : World} {realm : Realm}
      (silent : after.requests = world.requests) (current : after.realm = some realm)
      (offered : offeredToken? world = some realm.token) :
      Summoned world (.ok value after)

theorem Summoned.requests {world : World} {ended : EStateM.Result Trouble World Value}
    (summoned : Summoned world ended) : (left ended).requests = world.requests := by
  cases summoned with
  | failed restrained => exact restrained.2
  | connected silent => exact silent

theorem Summoned.text {world : World} {value : Value} {next : String → Action Value}
    (continued : ∀ words, Summoned world (next words world)) :
    Summoned world ((Action.text value >>= next) world) := by
  cases written : world.store.plainText value with
  | ok words =>
    rw [bind_of_ok (text_of_ok written)]
    exact continued words
  | error failure =>
    rw [bind_of_error (text_of_error written)]
    exact .failed (Passage.refl world)

theorem summoned (args : List Value) (world : World) :
    Summoned world (Builtin.summonAzureRealm args world) := by
  unfold Builtin.summonAzureRealm
  split
  · apply Summoned.text
    intro tenant
    apply Summoned.text
    intro client
    apply Summoned.text
    intro secret
    have restrained := (authenticate_restrained { tenant, client, secret }).related world
    cases ended : authenticate { tenant, client, secret } world with
    | error trouble after =>
      rw [ended] at restrained
      rw [bind_of_error ended]
      exact .failed restrained
    | ok realm after =>
      rw [ended] at restrained
      rw [bind_of_ok ended]
      exact .connected restrained.2 rfl (authenticate_eq_ok ended)
  · exact .failed (Passage.refl world)

/-! ## Turns -/

/-- A call of a builtin for realms. -/
structure Turn where
  builtin : Builtin
  known : builtin ∈ Builtin.realms
  arguments : List Value
  world : World

namespace Turn

/-- How the call ends. -/
def ended (turn : Turn) : EStateM.Result Trouble World Value :=
  turn.builtin.act turn.arguments turn.world

def left (turn : Turn) : World := Action.left turn.ended

def isSummons (turn : Turn) : Bool := turn.builtin.name == "summon_azure_realm"

def isBanishment (turn : Turn) : Bool := turn.builtin.name == "banish_azure_realm"

/-- Is the call a summons that succeeds? -/
def connects (turn : Turn) : Bool := turn.isSummons && (result? turn.ended).isSome

/-- What a builtin for realms is. -/
inductive Kind (turn : Turn) : Prop where
  | summons (isSummons : turn.isSummons = true) (isBanishment : turn.isBanishment = false)
      (ended : Summoned turn.world turn.ended)
  | banishment (isSummons : turn.isSummons = false) (isBanishment : turn.isBanishment = true)
      (left : turn.left = { turn.world with realm := none })
  | other (isSummons : turn.isSummons = false) (isBanishment : turn.isBanishment = false)
      (governed : Governed (turn.builtin.act turn.arguments))

theorem kind (turn : Turn) : turn.Kind := by
  obtain ⟨builtin, known, args, world⟩ := turn
  rcases mem_cons.mp known with rfl | known
  · exact .summons rfl rfl (summoned args world)
  · rcases mem_cons.mp known with rfl | other
    · exact .banishment rfl rfl rfl
    · have names : ((Builtin.realms.drop 2).all fun builtin =>
          builtin.name != "summon_azure_realm" && builtin.name != "banish_azure_realm") = true := by
        decide
      have named := all_eq_true.mp names builtin other
      rw [Bool.and_eq_true, bne_iff_ne, bne_iff_ne] at named
      exact .other (beq_false_of_ne named.1) (beq_false_of_ne named.2) (governed_of_mem other args)

/-- What a call does to the current realm. -/
inductive Effect (turn : Turn) : Prop where
  | left (isBanishment : turn.isBanishment = true) (idle : turn.connects = false)
      (realm : turn.left.realm = none)
  | connected (connects : turn.connects = true) {realm : Realm}
      (current : turn.left.realm = some realm) (token : offeredToken? turn.world = some realm.token)
  | kept (stays : turn.isBanishment = false) (idle : turn.connects = false)
      (same : turn.left.realm = turn.world.realm)

theorem effect (turn : Turn) : turn.Effect := by
  cases turn.kind with
  | summons isSummons isBanishment summoned =>
    cases ended : turn.ended with
    | ok value after =>
      rw [ended] at summoned
      cases summoned with
      | connected silent current offered =>
        refine .connected ?_ ?_ offered
        · rw [connects, isSummons, ended]
          rfl
        · rw [left, ended]
          exact current
    | error trouble after =>
      rw [ended] at summoned
      cases summoned with
      | failed restrained =>
        refine .kept isBanishment ?_ ?_
        · rw [connects, isSummons, ended]
          rfl
        · rw [left, ended]
          exact restrained.1
  | banishment isSummons isBanishment left =>
    exact .left isBanishment (by rw [connects, isSummons]; rfl) (by rw [left])
  | other isSummons isBanishment governed =>
    refine .kept isBanishment (by rw [connects, isSummons]; rfl) ?_
    cases current : turn.world.realm with
    | none =>
      obtain ⟨msg, ended⟩ := governed.rejects current
      rw [left, Turn.ended, ended]
      exact current
    | some realm => exact (governed.issues current).1.trans current

end Turn

/--
The summons in force after calls, the latest of which stands first: the latest summons that
succeeded, if no banishment came after it.
-/
inductive InForce (summons : Turn) : List Turn → Prop where
  | connected {former : List Turn} (connects : summons.connects = true) :
      InForce summons (summons :: former)
  | kept {turn : Turn} {former : List Turn} (idle : turn.connects = false)
      (stays : turn.isBanishment = false) (inForce : InForce summons former) :
      InForce summons (turn :: former)

/--
Calls one after the other, the latest first, and a world that is reached.  There is no realm at the
start.  Between the calls a script does what it likes, but the realm stays.
-/
inductive Course : List Turn → World → Prop where
  | start {world : World} (fresh : world.realm = none) : Course [] world
  | turn {turn : Turn} {former : List Turn} {world : World} (course : Course former turn.world)
      (same : world.realm = turn.left.realm) : Course (turn :: former) world

/-- The current realm is the one of the summons in force. -/
theorem Course.realm {turns : List Turn} {world : World} (course : Course turns world) :
    (world.realm = none ∧ ∀ summons, ¬InForce summons turns) ∨
      ∃ realm summons, world.realm = some realm ∧ InForce summons turns ∧
        offeredToken? summons.world = some realm.token := by
  induction course with
  | start fresh => exact .inl ⟨fresh, by rintro summons ⟨⟩⟩
  | @turn turn former world course same ih =>
    rw [same]
    cases turn.effect with
    | left isBanishment idle realm =>
      refine .inl ⟨realm, ?_⟩
      intro summons inForce
      cases inForce with
      | connected connects => exact Bool.noConfusion (idle.symm.trans connects)
      | kept _ stays => exact Bool.noConfusion (stays.symm.trans isBanishment)
    | connected connects current token =>
      exact .inr ⟨_, turn, current, .connected connects, token⟩
    | kept stays idle same =>
      rw [same]
      rcases ih with ⟨absent, none⟩ | ⟨realm, summons, current, inForce, token⟩
      · refine .inl ⟨absent, ?_⟩
        intro summons inForce
        cases inForce with
        | connected connects => exact Bool.noConfusion (idle.symm.trans connects)
        | kept _ _ inForce => exact none summons inForce
      · exact .inr ⟨realm, summons, current, .kept idle stays inForce, token⟩

/--
In every course of calls, the requests of a call carry the token that was given at the summons in
force.  If no summons is in force, no request is sent, and every builtin but summons and banishment
ends in an error about the realm.  A summons that fails leaves the realm as it is.
-/
theorem requests_bear_token {former : List Turn} {turn : Turn}
    (course : Course former turn.world) :
    (∃ issued, turn.left.requests = issued ++ turn.world.requests ∧
      ∀ request ∈ issued, ∃ summons, InForce summons former ∧
        ∃ token ∈ offeredToken? summons.world, Bear turn.world.store token request.headers) ∧
    ((∀ summons, ¬InForce summons former) → turn.isSummons = false → turn.isBanishment = false →
      ∃ msg, turn.ended = .error (.told .azureRealmError msg) turn.world) ∧
    ∀ trouble after, turn.isSummons = true → turn.ended = .error trouble after →
      after.realm = turn.world.realm := by
  refine ⟨?_, ?_, ?_⟩
  · cases turn.kind with
    | summons isSummons isBanishment summoned =>
      exact ⟨[], summoned.requests, fun request member => absurd member not_mem_nil⟩
    | banishment isSummons isBanishment left =>
      exact ⟨[], by rw [left]; rfl, fun request member => absurd member not_mem_nil⟩
    | other isSummons isBanishment governed =>
      rcases course.realm with ⟨absent, -⟩ | ⟨realm, summons, current, inForce, token⟩
      · obtain ⟨msg, ended⟩ := governed.rejects absent
        refine ⟨[], ?_, fun request member => absurd member not_mem_nil⟩
        rw [Turn.left, Turn.ended, ended]
        rfl
      · obtain ⟨-, issued, requests, bear⟩ := governed.issues current
        exact ⟨issued, requests, fun request member =>
          ⟨summons, inForce, realm.token, token, bear request member⟩⟩
  · intro none isSummons isBanishment
    cases turn.kind with
    | summons isSummons' => cases isSummons.symm.trans isSummons'
    | banishment _ isBanishment' => cases isBanishment.symm.trans isBanishment'
    | other _ _ governed =>
      rcases course.realm with ⟨absent, -⟩ | ⟨realm, summons, current, inForce, token⟩
      · exact governed.rejects absent
      · exact absurd inForce (none summons)
  · intro trouble after isSummons ended
    cases turn.kind with
    | summons _ _ summoned =>
      rw [ended] at summoned
      cases summoned with
      | failed restrained => exact restrained.1
    | banishment isSummons' => cases isSummons.symm.trans isSummons'
    | other isSummons' => cases isSummons.symm.trans isSummons'

/-- A summons in a world whose services answer. -/
def arrival : Turn where
  builtin := ⟨"summon_azure_realm", some 3, Builtin.summonAzureRealm⟩
  known := by simp [Builtin.realms]
  arguments := [.scroll "tenant", .scroll "client", .scroll "secret"]
  world :=
    { signIn := some (.dict [(.scroll "access_token", .scroll "key")])
      responses := some [{ status := 200, data := some (.dict []) }] }

/-- A question that follows the summons. -/
def inquiry : Turn where
  builtin := ⟨"divine_domains", some 0, Builtin.plainly Realm.listDomains⟩
  known := by simp [Builtin.realms]
  arguments := []
  world := arrival.left

theorem requests_bear_token_inquiry :
    ∃ summons, InForce summons [arrival] ∧ ∃ token ∈ offeredToken? summons.world,
      Bear inquiry.world.store token
        [("Authorization", "Bearer key"), ("Content-Type", "application/json")] := by
  have course : Course [arrival] inquiry.world := .turn (.start rfl) rfl
  obtain ⟨issued, requests, bear⟩ := (requests_bear_token course).1
  have sent : inquiry.left.requests.map Request.headers =
      [[("Authorization", "Bearer key"), ("Content-Type", "application/json")]] := by
    decide +kernel
  have fresh : inquiry.world.requests.map Request.headers = [] := by decide +kernel
  rw [requests, map_append, fresh, append_nil] at sent
  obtain ⟨request, only, headers⟩ := map_eq_singleton_iff.mp sent
  exact headers ▸ bear request (by rw [only]; exact mem_singleton_self _)

end Realm

end Spellbook
