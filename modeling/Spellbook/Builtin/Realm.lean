import Spellbook.Realm

/-!
# Builtins for realms

Scripts administer one realm at a time, the one to which they connected last.
-/

namespace Spellbook.Builtin

open Spellbook.Action

/-- The realm that was summoned last. -/
def currentRealm : Action Realm := do
  match (← get).realm with
  | some realm => return realm
  | none => Realm.reject "Not connected to Azure. Use summon_azure_realm() first."

/-- Connect to a realm.  A failure leaves the current realm in place. -/
def summonAzureRealm : List Value → Action Value
  | [tenant, client, secret] => do
    let tenant ← text tenant
    let client ← text client
    let secret ← text secret
    let realm ← Realm.authenticate { tenant, client, secret }
    modify fun world => { world with realm := some realm }
    newRecord [("connected", .charm true), ("tenant_id", .scroll tenant)]
  | _ =>
    Realm.reject "summon_azure_realm requires 3 arguments (tenant_id, client_id, client_secret)"

/-- Forget the realm. -/
def banishAzureRealm (_ : List Value) : Action Value := do
  modify fun world => { world with realm := none }
  return .charm true

/-- A builtin that takes an optional number of things to list. -/
def listing (standard : Int) (list : Realm → Value → Action Value) (args : List Value) :
    Action Value := do
  let realm ← currentRealm
  list realm (.rune (← integerOr standard args))

/-- A builtin that takes no account of its arguments. -/
def plainly (ask : Realm → Action Value) (_ : List Value) : Action Value := do
  ask (← currentRealm)

/-- A builtin that takes the text of one argument. -/
def about (complaint : String) (ask : Realm → Value → Action Value) : List Value → Action Value
  | [subject] => do
    let realm ← currentRealm
    ask realm (.scroll (← text subject))
  | _ => Realm.reject complaint

/-- As `about`, with two texts. -/
def aboutTwo (complaint : String) (ask : Realm → Value → Value → Action Value) :
    List Value → Action Value
  | [first, second] => do
    let realm ← currentRealm
    let first ← text first
    ask realm (.scroll first) (.scroll (← text second))
  | _ => Realm.reject complaint

/-- Create a user. -/
def conjureUser : List Value → Action Value
  | displayName :: nickname :: principal :: password :: others => do
    let realm ← currentRealm
    let displayName ← text displayName
    let nickname ← text nickname
    let principal ← text principal
    let password ← text password
    realm.createUser (.scroll displayName) (.scroll nickname) (.scroll principal)
      (.scroll password) (others.headD (.charm true))
  | _ =>
    Realm.reject "conjure_user requires 4 arguments (display_name, mail_nickname, upn, password)"

/-- Change properties of a user. -/
def transmuteUser : List Value → Action Value
  | [user, properties] => do
    let realm ← currentRealm
    match properties with
    | .grimoire _ => realm.updateUser (.scroll (← text user)) properties
    | _ => Realm.reject "Second argument must be a grimoire (dict) of properties"
  | _ => Realm.reject "transmute_user requires 2 arguments (user_id, properties dict)"

/-- Set a user's password. -/
def resetUserWard : List Value → Action Value
  | user :: password :: others => do
    let realm ← currentRealm
    let user ← text user
    let password ← text password
    realm.resetPassword (.scroll user) (.scroll password) (others.headD (.charm true))
  | _ => Realm.reject "reset_user_ward requires 2 arguments (user_id, new_password)"

/-- Create a group. -/
def conjureGroup : List Value → Action Value
  | displayName :: nickname :: others => do
    let realm ← currentRealm
    let desc ← textOr "" others
    let displayName ← text displayName
    let nickname ← text nickname
    realm.createGroup (.scroll displayName) (.scroll nickname) (.scroll desc)
      (.charm true) (.charm false) .void
  | _ =>
    Realm.reject "conjure_group requires at least 2 arguments (display_name, mail_nickname)"

/-- Give a user a licence. -/
def bestowLicense : List Value → Action Value
  | user :: licence :: others => do
    let realm ← currentRealm
    let user ← text user
    let licence ← text licence
    realm.assignLicence (.scroll user) (.scroll licence) (others.headD .void)
  | _ => Realm.reject "bestow_license requires 2 arguments (user_id, sku_id)"

/-- The builtins for realms. -/
def realms : List Builtin :=
  [⟨"summon_azure_realm", some 3, summonAzureRealm⟩,
    ⟨"banish_azure_realm", some 0, banishAzureRealm⟩,
    ⟨"divine_users", none, listing 100 fun realm top => realm.listUsers .void top⟩,
    ⟨"divine_user", some 1,
      about "divine_user requires 1 argument (user_id or UPN)" Realm.getUser⟩,
    ⟨"conjure_user", none, conjureUser⟩,
    ⟨"transmute_user", some 2, transmuteUser⟩,
    ⟨"vanquish_user", some 1,
      about "vanquish_user requires 1 argument (user_id)" Realm.deleteUser⟩,
    ⟨"silence_user", some 1,
      about "silence_user requires 1 argument (user_id)" fun realm => realm.setEnabled false⟩,
    ⟨"awaken_user", some 1,
      about "awaken_user requires 1 argument (user_id)" fun realm => realm.setEnabled true⟩,
    ⟨"reset_user_ward", none, resetUserWard⟩,
    ⟨"divine_groups", none, listing 100 Realm.listGroups⟩,
    ⟨"divine_group", some 1, about "divine_group requires 1 argument (group_id)" Realm.getGroup⟩,
    ⟨"conjure_group", none, conjureGroup⟩,
    ⟨"vanquish_group", some 1,
      about "vanquish_group requires 1 argument (group_id)" Realm.deleteGroup⟩,
    ⟨"divine_group_members", some 1,
      about "divine_group_members requires 1 argument (group_id)" Realm.getGroupMembers⟩,
    ⟨"bind_to_group", some 2,
      aboutTwo "bind_to_group requires 2 arguments (group_id, user_id)" Realm.addGroupMember⟩,
    ⟨"unbind_from_group", some 2,
      aboutTwo "unbind_from_group requires 2 arguments (group_id, user_id)"
        Realm.removeGroupMember⟩,
    ⟨"divine_licenses", some 0, plainly Realm.listLicences⟩,
    ⟨"divine_user_licenses", some 1,
      about "divine_user_licenses requires 1 argument (user_id)" Realm.getUserLicences⟩,
    ⟨"bestow_license", none, bestowLicense⟩,
    ⟨"revoke_license", some 2,
      aboutTwo "revoke_license requires 2 arguments (user_id, sku_id)" Realm.removeLicence⟩,
    ⟨"divine_roles", some 0, plainly Realm.listRoles⟩,
    ⟨"divine_role_members", some 1,
      about "divine_role_members requires 1 argument (role_id)" Realm.getRoleMembers⟩,
    ⟨"divine_domains", some 0, plainly Realm.listDomains⟩,
    ⟨"divine_organization", some 0, plainly Realm.getOrganization⟩,
    ⟨"divine_apps", none, listing 100 Realm.listApplications⟩,
    ⟨"divine_service_principals", none, listing 100 Realm.listServicePrincipals⟩,
    ⟨"divine_signin_logs", none, listing 50 Realm.getSignInLogs⟩,
    ⟨"divine_conditional_policies", some 0, plainly Realm.listPolicies⟩]

end Spellbook.Builtin
