import Spellbook.Workload.Call

/-!
# The workload on realms

The administration of a realm through a server that answers every request, and the errors of calls
that are refused.
-/

namespace Spellbook.Workload

open Spellbook.Action

def serverData : Datum :=
  .record [("value", .list [.record [("id", .scroll "user-0001")]]), ("top", .rune 1)]

/-- The answer to a request that asks, adds or changes. -/
def serverAnswer : Response := { status := 200, text := "x", data := some serverData }

/-- The answer to a request that removes. -/
def serverConsent : Response := { status := 204 }

def texts (texts : List String) : List Datum := texts.map .scroll

def answeredCalls : List Call :=
  [⟨"divine_users", []⟩, ⟨"divine_users", [.rune 5]⟩, ⟨"divine_user", texts ["u"]⟩,
    ⟨"conjure_user", texts ["A B", "ab", "ab@c", "word"]⟩,
    ⟨"conjure_user", texts ["A B", "ab", "ab@c", "word"] ++ [.charm false]⟩,
    ⟨"transmute_user", [.scroll "u", .record [("jobTitle", .scroll "seer")]]⟩,
    ⟨"silence_user", texts ["u"]⟩, ⟨"awaken_user", texts ["u"]⟩,
    ⟨"reset_user_ward", texts ["u", "word"]⟩,
    ⟨"reset_user_ward", texts ["u", "word"] ++ [.charm false]⟩,
    ⟨"divine_groups", []⟩, ⟨"divine_groups", [.rune 5]⟩, ⟨"divine_group", texts ["g"]⟩,
    ⟨"conjure_group", texts ["G", "g"]⟩, ⟨"conjure_group", texts ["G", "g", "a group"]⟩,
    ⟨"conjure_group", texts ["G", "g", "a group"] ++ [.charm false]⟩,
    ⟨"divine_group_members", texts ["g"]⟩, ⟨"divine_licenses", []⟩,
    ⟨"divine_user_licenses", texts ["u"]⟩, ⟨"bestow_license", texts ["u", "s"]⟩,
    ⟨"bestow_license", texts ["u", "s"] ++ [.list []]⟩, ⟨"revoke_license", texts ["u", "s"]⟩,
    ⟨"divine_roles", []⟩, ⟨"divine_role_members", texts ["r"]⟩, ⟨"divine_domains", []⟩,
    ⟨"divine_organization", []⟩, ⟨"divine_apps", []⟩, ⟨"divine_apps", [.rune 5]⟩,
    ⟨"divine_service_principals", []⟩, ⟨"divine_service_principals", [.rune 5]⟩,
    ⟨"divine_signin_logs", []⟩, ⟨"divine_signin_logs", [.rune 5]⟩,
    ⟨"divine_conditional_policies", []⟩]

/-- Calls to which the server consents without data. -/
def grantedCalls : List Call :=
  [⟨"vanquish_user", texts ["u"]⟩, ⟨"vanquish_group", texts ["g"]⟩,
    ⟨"bind_to_group", texts ["g", "u"]⟩, ⟨"unbind_from_group", texts ["g", "u"]⟩]

/-- Operations without a builtin. -/
def directRequests (realm : Realm) : List (Action Value) :=
  [realm.getApplication (.scroll "a"), do
    realm.listUsers (← plant (.list (texts ["id", "displayName"]))) (.rune 5)]

/-- Let the server give its next answers. -/
def serve (responses : List Response) : Action Unit :=
  modify fun world => { world with responses := some responses }

/-- The length of the text of what an action gives, with the server's answer to its request. -/
def answeredLength (response : Response) (action : Action Value) : Action Nat := do
  serve [response]
  return (← text (← action)).length

/-- One round of calls that go well: the length of all that they give. -/
def realmRound (realm : Realm) : Action Nat := do
  let answered ← answeredCalls.mapM fun call => answeredLength serverAnswer call.run
  let granted ← grantedCalls.mapM fun call => answeredLength serverConsent call.run
  let direct ← (directRequests realm).mapM (answeredLength serverAnswer)
  return total answered + total granted + total direct

def complaint (status : Int) : Response :=
  { status, text := "bad", data := some (.record [("error", .record [("message", .scroll "no")])]) }

def refusedCalls : List (Response × Call) :=
  [({ status := 404 }, ⟨"divine_user", texts ["u"]⟩), (complaint 500, ⟨"divine_user", texts ["u"]⟩),
    ({ status := 500, text := "down" }, ⟨"divine_users", []⟩),
    (complaint 400, ⟨"conjure_group", texts ["G", "g"]⟩),
    (complaint 400, ⟨"silence_user", texts ["u"]⟩),
    (complaint 403, ⟨"vanquish_user", texts ["u"]⟩),
    (complaint 400, ⟨"bind_to_group", texts ["g", "u"]⟩)]

def unaskedCalls : List Call :=
  [⟨"summon_azure_realm", []⟩, ⟨"divine_user", []⟩, ⟨"conjure_user", []⟩, ⟨"transmute_user", []⟩,
    ⟨"transmute_user", [.scroll "u", .rune 1]⟩, ⟨"conjure_group", []⟩, ⟨"bind_to_group", []⟩,
    ⟨"bestow_license", []⟩]

/-- The errors of calls that are refused. -/
def realmRefusals : Action (List Datum) := do
  let refused ← refusedCalls.mapM fun (response, call) => do
    serve [response]
    troubleIn messageOf call.run
  return refused.flatten ++ (← troublesIn messageOf unaskedCalls)

def requestCount : Action Nat := do
  return (← get).journal.countP fun
    | .request _ => true
    | _ => false

/-- One run: how many errors, the length of what was given, and the requests so far. -/
def administer (size : Int) (realm : Realm) : Action Datum := do
  let refusals ← realmRefusals
  let lengths ← (List.range size.toNat).mapM fun _ => realmRound realm
  return .list [.rune refusals.length, .rune (total lengths), .rune (← requestCount)]

/-- Administer a realm so many times; the server counts its requests from the first to the last. -/
def administering (size : Int) (times : Nat) : Action (List Datum) :=
  apart { signIn := some (.record [("access_token", .scroll "token")]) } do
    let _ ← invoke "summon_azure_realm" (["tenant", "client", "secret"].map .scroll)
    let realm ← Builtin.currentRealm
    repeated times (administer size realm)

end Spellbook.Workload
