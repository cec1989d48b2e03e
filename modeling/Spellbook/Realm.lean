import Spellbook.Builtin

/-!
# Realms

A realm is a directory of users and groups that is administered over the web.  After a sign-in
every request carries the token that the sign-in service gave.
-/

namespace Spellbook.Realm

open Spellbook.Action

def reject {α : Type} (msg : String) : Action α := refuse .azureRealmError msg

def address (beta : Bool) : String :=
  "https://graph.microsoft.com/" ++ if beta then "beta" else "v1.0"

/-- The realm with the token that the sign-in service gives. -/
def authenticate (realm : Realm) : Action Realm := do
  match (← get).signIn with
  | none => reject "MSAL not installed. Run: pip install msal"
  | some answer =>
    note (.signIn realm.client ("https://login.microsoftonline.com/" ++ realm.tenant) realm.secret)
    note (.token ["https://graph.microsoft.com/.default"])
    match ← plant answer with
    | .grimoire ref =>
      match ← field? ref "access_token" with
      | some token => return { realm with token }
      | none =>
        let reason ← fieldOr ref "error" (.scroll "Unknown error")
        let described ← fieldOr ref "error_description" reason
        reject ("Authentication failed: " ++ (← text described))
    | .void => fault (.notContainer "NoneType")
    | other => lacks other "get"

def headers (realm : Realm) : Action (List (String × String)) := do
  if ← truth realm.token then
    return [("Authorization", "Bearer " ++ (← text realm.token)),
      ("Content-Type", "application/json")]
  else reject "Not authenticated. Call authenticate() first."

def headerRecord (realm : Realm) : Action Value := do
  newRecord ((← realm.headers).map fun (name, value) => (name, .scroll value))

def send (realm : Realm) (method url : String) (body : Datum) : Action Response := do
  if (← get).responses.isNone then reject "requests not installed. Run: pip install requests"
  else
    let headers ← realm.headers
    note (.request { method, url, headers, body })
    match (← get).responses with
    | some (response :: responses) =>
      modify fun world => { world with responses := some responses }
      return response
    | _ => fault .noMoreResponses

def dataOf (response : Response) : Action Value :=
  match response.data with
  | some datum => plant datum
  | none => fault .noData

/-- The message in the data of a response that tells an error. -/
def reasonIn (response : Response) : Action Value := do
  let data ← dataOf response
  match data with
  | .grimoire ref =>
    match ← field? ref "error" with
    | none => return .scroll (← text data)
    | some (.grimoire inner) =>
      let whole ← text data
      fieldOr inner "message" (.scroll whole)
    | some other => lacks other "get"
  | other => lacks other "get"

/-- End in the error that a response tells. -/
def complain {α : Type} (response : Response) : Action α := do
  let reason ← recover (reasonIn response) fun _ =>
    return .scroll (if response.text.isEmpty then "HTTP " ++ Number.integerText response.status
      else response.text)
  reject ("Graph API error: " ++ (← text reason))

/-- The data of a response, or nothing in an empty record if the response has no text. -/
def answerOf (response : Response) : Action Value :=
  if response.text.isEmpty then newRecord [] else dataOf response

def fetch (realm : Realm) (endpoint : String) (beta : Bool) : Action Value := do
  let response ← realm.send "GET" (address beta ++ endpoint) .void
  if response.status == 200 then dataOf response
  else if response.status == 404 then reject ("Resource not found: " ++ endpoint)
  else complain response

def post (realm : Realm) (endpoint : String) (body : Datum) (beta : Bool) : Action Value := do
  let response ← realm.send "POST" (address beta ++ endpoint) body
  if response.status == 200 || response.status == 201 then answerOf response
  else complain response

def patch (realm : Realm) (endpoint : String) (body : Datum) (beta : Bool) : Action Value := do
  let response ← realm.send "PATCH" (address beta ++ endpoint) body
  if response.status == 200 || response.status == 204 then answerOf response
  else complain response

def delete (realm : Realm) (endpoint : String) (beta : Bool) : Action Value := do
  let response ← realm.send "DELETE" (address beta ++ endpoint) .void
  if response.status == 204 then return .charm true else complain response

def listed (answer : Value) : Action Value := do
  match answer with
  | .grimoire ref =>
    match ← field? ref "value" with
    | some value => return value
    | none => newTome []
  | other => lacks other "get"

def fetchList (realm : Realm) (endpoint : String) (beta : Bool) : Action Value := do
  listed (← realm.fetch endpoint beta)

/-! ## Users -/

/-- The texts of a value, all of them texts, with commas between them. -/
def commaJoined (value : Value) : Action String := do
  let items ← recover (elements value) fun trouble =>
    match trouble with
    | .fault (.notIterable _) => fault .nothingToJoin
    | _ => throw trouble
  let texts ← items.zipIdx.mapM fun (item, index) =>
    match item with
    | .scroll text => pure text
    | other => fault (.notJoinable index other.typeName)
  return String.intercalate "," texts

def listUsers (realm : Realm) (select top : Value) : Action Value := do
  let limit := "$top=" ++ (← text top)
  let selection ← if ← truth select then pure ("&$select=" ++ (← commaJoined select)) else pure ""
  realm.fetchList ("/users?" ++ limit ++ selection) false

def userEndpoint (user : Value) : Action String := do return "/users/" ++ (← text user)

def getUser (realm : Realm) (user : Value) : Action Value := do
  realm.fetch (← userEndpoint user) false

def passwordProfile (password forceChange : Value) : Action Datum := do
  return .record [("forceChangePasswordNextSignIn", ← portray forceChange),
    ("password", ← portray password)]

def createUser (realm : Realm) (displayName nickname principal password forceChange : Value) :
    Action Value := do
  let body : Datum := .record
    [("accountEnabled", .charm true), ("displayName", ← portray displayName),
      ("mailNickname", ← portray nickname), ("userPrincipalName", ← portray principal),
      ("passwordProfile", ← passwordProfile password forceChange)]
  realm.post "/users" body false

def updateUser (realm : Realm) (user properties : Value) : Action Value := do
  realm.patch (← userEndpoint user) (← portray properties) false

def deleteUser (realm : Realm) (user : Value) : Action Value := do
  realm.delete (← userEndpoint user) false

def setEnabled (realm : Realm) (enabled : Bool) (user : Value) : Action Value := do
  realm.patch (← userEndpoint user) (.record [("accountEnabled", .charm enabled)]) false

def resetPassword (realm : Realm) (user password forceChange : Value) : Action Value := do
  let endpoint ← userEndpoint user
  let body : Datum := .record [("passwordProfile", ← passwordProfile password forceChange)]
  realm.patch endpoint body false

/-! ## Groups -/

def listGroups (realm : Realm) (top : Value) : Action Value := do
  realm.fetchList ("/groups?$top=" ++ (← text top)) false

def groupEndpoint (group : Value) : Action String := do return "/groups/" ++ (← text group)

def getGroup (realm : Realm) (group : Value) : Action Value := do
  realm.fetch (← groupEndpoint group) false

def dataOrEmpty (value : Value) : Action Datum := do
  if ← truth value then portray value else return .list []

def createGroup (realm : Realm)
    (displayName nickname desc securityEnabled mailEnabled types : Value) :
    Action Value := do
  let body : Datum := .record
    [("displayName", ← portray displayName), ("mailNickname", ← portray nickname),
      ("description", ← portray desc), ("securityEnabled", ← portray securityEnabled),
      ("mailEnabled", ← portray mailEnabled), ("groupTypes", ← dataOrEmpty types)]
  realm.post "/groups" body false

def deleteGroup (realm : Realm) (group : Value) : Action Value := do
  realm.delete (← groupEndpoint group) false

def getGroupMembers (realm : Realm) (group : Value) : Action Value := do
  realm.fetchList ((← groupEndpoint group) ++ "/members") false

def addGroupMember (realm : Realm) (group user : Value) : Action Value := do
  let member := address false ++ "/directoryObjects/" ++ (← text user)
  let body : Datum := .record [("@odata.id", .scroll member)]
  if (← get).responses.isNone then reject "requests not installed. Run: pip install requests"
  else
    let url := address false ++ (← groupEndpoint group) ++ "/members/$ref"
    let response ← realm.send "POST" url body
    if response.status == 204 then newRecord [("success", .charm true)] else complain response

def removeGroupMember (realm : Realm) (group user : Value) : Action Value := do
  let endpoint ← groupEndpoint group
  realm.delete (endpoint ++ "/members/" ++ (← text user) ++ "/$ref") false

/-! ## Licences -/

def listLicences (realm : Realm) : Action Value := realm.fetchList "/subscribedSkus" false

def getUserLicences (realm : Realm) (user : Value) : Action Value := do
  realm.fetchList ((← userEndpoint user) ++ "/licenseDetails") false

def assignLicence (realm : Realm) (user licence disabledPlans : Value) : Action Value := do
  let entry : Datum := .record
    [("skuId", ← portray licence), ("disabledPlans", ← dataOrEmpty disabledPlans)]
  let body : Datum := .record [("addLicenses", .list [entry]), ("removeLicenses", .list [])]
  realm.post ((← userEndpoint user) ++ "/assignLicense") body false

def removeLicence (realm : Realm) (user licence : Value) : Action Value := do
  let body : Datum := .record
    [("addLicenses", .list []), ("removeLicenses", .list [← portray licence])]
  realm.post ((← userEndpoint user) ++ "/assignLicense") body false

/-! ## The organisation -/

def listRoles (realm : Realm) : Action Value := realm.fetchList "/directoryRoles" false

def getRoleMembers (realm : Realm) (role : Value) : Action Value := do
  realm.fetchList ("/directoryRoles/" ++ (← text role) ++ "/members") false

def listApplications (realm : Realm) (top : Value) : Action Value := do
  realm.fetchList ("/applications?$top=" ++ (← text top)) false

def getApplication (realm : Realm) (application : Value) : Action Value := do
  realm.fetch ("/applications/" ++ (← text application)) false

def listServicePrincipals (realm : Realm) (top : Value) : Action Value := do
  realm.fetchList ("/servicePrincipals?$top=" ++ (← text top)) false

def listDomains (realm : Realm) : Action Value := realm.fetchList "/domains" false

def getOrganization (realm : Realm) : Action Value := do
  match ← realm.fetch "/organization" false with
  | .grimoire ref =>
    match ← field? ref "value" with
    | some value => firstOf value
    | none => newRecord []
  | other => lacks other "get"

def getSignInLogs (realm : Realm) (top : Value) : Action Value := do
  realm.fetchList ("/auditLogs/signIns?$top=" ++ (← text top)) true

def listPolicies (realm : Realm) : Action Value :=
  realm.fetchList "/identity/conditionalAccess/policies" true

/-! ## Operations by name -/

/-- An operation on a realm that is called by name. -/
structure Operation where
  name : String
  /-- The names of the arguments that must be given. -/
  required : List String
  /-- The values of the arguments that need not be given. -/
  optional : List Value
  /-- What the operation does with its arguments, by their position. -/
  act : Realm → (Nat → Value) → Action Value

/-- The operations on a realm apart from the sign-in. -/
def operations : List Operation :=
  [⟨"_headers", [], [], fun realm _ => realm.headerRecord⟩,
    ⟨"_get", ["endpoint"], [.charm false], fun realm given => do
      realm.fetch (← text (given 0)) (← truth (given 1))⟩,
    ⟨"_post", ["endpoint", "data"], [.charm false], fun realm given => do
      realm.post (← text (given 0)) (← portray (given 1)) (← truth (given 2))⟩,
    ⟨"_patch", ["endpoint", "data"], [.charm false], fun realm given => do
      realm.patch (← text (given 0)) (← portray (given 1)) (← truth (given 2))⟩,
    ⟨"_delete", ["endpoint"], [.charm false], fun realm given => do
      realm.delete (← text (given 0)) (← truth (given 1))⟩,
    ⟨"list_users", [], [.void, .rune 100], fun realm given => realm.listUsers (given 0) (given 1)⟩,
    ⟨"get_user", ["user_id"], [], fun realm given => realm.getUser (given 0)⟩,
    ⟨"create_user", ["display_name", "mail_nickname", "upn", "password"], [.charm true],
      fun realm given =>
        realm.createUser (given 0) (given 1) (given 2) (given 3) (given 4)⟩,
    ⟨"update_user", ["user_id", "properties"], [], fun realm given =>
      realm.updateUser (given 0) (given 1)⟩,
    ⟨"delete_user", ["user_id"], [], fun realm given => realm.deleteUser (given 0)⟩,
    ⟨"disable_user", ["user_id"], [], fun realm given => realm.setEnabled false (given 0)⟩,
    ⟨"enable_user", ["user_id"], [], fun realm given => realm.setEnabled true (given 0)⟩,
    ⟨"reset_user_password", ["user_id", "new_password"], [.charm true], fun realm given =>
      realm.resetPassword (given 0) (given 1) (given 2)⟩,
    ⟨"list_groups", [], [.rune 100], fun realm given => realm.listGroups (given 0)⟩,
    ⟨"get_group", ["group_id"], [], fun realm given => realm.getGroup (given 0)⟩,
    ⟨"create_group", ["display_name", "mail_nickname"],
      [.scroll "", .charm true, .charm false, .void], fun realm given =>
        realm.createGroup (given 0) (given 1) (given 2) (given 3) (given 4) (given 5)⟩,
    ⟨"delete_group", ["group_id"], [], fun realm given => realm.deleteGroup (given 0)⟩,
    ⟨"get_group_members", ["group_id"], [], fun realm given => realm.getGroupMembers (given 0)⟩,
    ⟨"add_group_member", ["group_id", "user_id"], [], fun realm given =>
      realm.addGroupMember (given 0) (given 1)⟩,
    ⟨"remove_group_member", ["group_id", "user_id"], [], fun realm given =>
      realm.removeGroupMember (given 0) (given 1)⟩,
    ⟨"list_subscribed_skus", [], [], fun realm _ => realm.listLicences⟩,
    ⟨"get_user_licenses", ["user_id"], [], fun realm given => realm.getUserLicences (given 0)⟩,
    ⟨"assign_license", ["user_id", "sku_id"], [.void], fun realm given =>
      realm.assignLicence (given 0) (given 1) (given 2)⟩,
    ⟨"remove_license", ["user_id", "sku_id"], [], fun realm given =>
      realm.removeLicence (given 0) (given 1)⟩,
    ⟨"list_directory_roles", [], [], fun realm _ => realm.listRoles⟩,
    ⟨"get_role_members", ["role_id"], [], fun realm given => realm.getRoleMembers (given 0)⟩,
    ⟨"list_applications", [], [.rune 100], fun realm given => realm.listApplications (given 0)⟩,
    ⟨"get_application", ["app_id"], [], fun realm given => realm.getApplication (given 0)⟩,
    ⟨"list_service_principals", [], [.rune 100], fun realm given =>
      realm.listServicePrincipals (given 0)⟩,
    ⟨"list_domains", [], [], fun realm _ => realm.listDomains⟩,
    ⟨"get_organization", [], [], fun realm _ => realm.getOrganization⟩,
    ⟨"get_signin_logs", [], [.rune 50], fun realm given => realm.getSignInLogs (given 0)⟩,
    ⟨"list_conditional_access_policies", [], [], fun realm _ => realm.listPolicies⟩]

/-- Names between quotes, the last one after `and`. -/
def enumerated : List String → String
  | [] => ""
  | [name] => "'" ++ name ++ "'"
  | [first, last] => "'" ++ first ++ "' and '" ++ last ++ "'"
  | [first, second, last] => "'" ++ first ++ "', '" ++ second ++ "', and '" ++ last ++ "'"
  | name :: others => "'" ++ name ++ "', " ++ enumerated others

/-- The fault of a call with too few or too many arguments, counting the realm as one of them. -/
def countFault? (name : String) (required : List String) (optional given : Nat) : Option Fault :=
  let function := "AzureRealm." ++ name
  let most := required.length + optional
  if most < given then
    let least := required.length + 1
    let range :=
      if optional = 0 then Nat.repr least else "from " ++ Nat.repr least ++ " to " ++
        Nat.repr (most + 1)
    let plural := if optional = 0 && least = 1 then "" else "s"
    some (.tooManyArguments function
      s!"{range} positional argument{plural} but {given + 1} were given")
  else if given < required.length then
    let missing := required.drop given
    let plural := if missing.length = 1 then "" else "s"
    some (.missingArguments function
      s!"{missing.length} required positional argument{plural}: {enumerated missing}")
  else none

/-- Carry out the operation with a name.  The realm changes with a sign-in only. -/
def perform (realm : Realm) (name : String) (given : List Value) : Action (Value × Realm) := do
  if name == "authenticate" then
    match countFault? name [] 0 given.length with
    | some failure => fault failure
    | none => return (.charm true, ← realm.authenticate)
  else
    match operations.find? (·.name == name) with
    | none => fault (.noAttribute "AzureRealm" name)
    | some operation =>
      match countFault? name operation.required operation.optional.length given.length with
      | some failure => fault failure
      | none =>
        let all := given ++ operation.optional.drop (given.length - operation.required.length)
        return (← operation.act realm fun pos => all.getD pos .void, realm)

end Spellbook.Realm
