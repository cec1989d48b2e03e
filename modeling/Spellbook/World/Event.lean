import Spellbook.Datum

/-!
# The journal

Devices keep a journal of what they were asked to do.
-/

namespace Spellbook

inductive SpeechEvent where
  | start
  | say (text : String)
  | wait
  | get (property : String)
  | set (property : String) (datum : Datum)

namespace SpeechEvent

def name : SpeechEvent → String
  | start => "init"
  | say _ => "say"
  | wait => "wait"
  | get _ => "get"
  | set .. => "set"

def data (event : SpeechEvent) : List Datum :=
  .scroll event.name :: match event with
    | start | wait => []
    | say text => [.scroll text]
    | get property => [.scroll property]
    | set property datum => [.scroll property, datum]

end SpeechEvent

inductive NetworkEvent where
  | socket
  | connect (host : String) (port : Int)
  | reuse
  | bind (host : String) (port : Int)
  | listen (backlog : Int)
  | send (text : String)
  | receive (size : Int)
  | accept
  | close

namespace NetworkEvent

def name : NetworkEvent → String
  | socket => "socket"
  | connect .. => "connect"
  | reuse => "reuse"
  | bind .. => "bind"
  | listen _ => "listen"
  | send _ => "send"
  | receive _ => "recv"
  | accept => "accept"
  | close => "close"

def data (event : NetworkEvent) : List Datum :=
  .scroll event.name :: match event with
    | socket | reuse | accept | close => []
    | connect host port | bind host port => [.scroll host, .rune port]
    | listen backlog => [.rune backlog]
    | send text => [.scroll text]
    | receive size => [.rune size]

end NetworkEvent

inductive DatabaseEvent where
  | connect (host user password database : String) (port : Int)
  | cursor (dictionary : Bool)
  | execute (query : String) (params : Option (List Datum))
  | closeCursor
  | commit
  | rollback
  | startTransaction
  | close

namespace DatabaseEvent

def name : DatabaseEvent → String
  | connect .. => "connect"
  | cursor _ => "cursor"
  | execute .. => "execute"
  | closeCursor => "close_cursor"
  | commit => "commit"
  | rollback => "rollback"
  | startTransaction => "start_transaction"
  | close => "close"

def data (event : DatabaseEvent) : List Datum :=
  .scroll event.name :: match event with
    | closeCursor | commit | rollback | startTransaction | close => []
    | connect host user password database port =>
      [.scroll host, .scroll user, .scroll password, .scroll database, .rune port]
    | cursor dictionary => [.charm dictionary]
    | execute query params => [.scroll query, params.elim .void .list]

end DatabaseEvent

/-- A command for the shell, or a program with its arguments. -/
inductive Command where
  | line (text : String)
  | program (words : List String)

/-- A request to a server. -/
structure Request where
  method : String
  url : String
  headers : List (String × String)
  body : Datum

/-- What a device was asked. -/
inductive Event where
  | sleep (seconds : Float)
  | browse (url : String)
  | speech (event : SpeechEvent)
  | network (event : NetworkEvent)
  | database (event : DatabaseEvent)
  | signIn (client authority secret : String)
  | token (scopes : List String)
  | request (request : Request)
  | command (command : Command)

namespace Event

/-- An entry of the journal as data. -/
def data : Event → List Datum
  | sleep seconds => [.scroll "sleep", .potion seconds]
  | browse url => [.scroll "browser", .scroll url]
  | speech event => .scroll "tts" :: event.data
  | network event => .scroll "net" :: event.data
  | database event => .scroll "mysql" :: event.data
  | signIn client authority secret =>
    [.scroll "msal", .scroll client, .scroll authority, .scroll secret]
  | token scopes => [.scroll "token", .list (scopes.map .scroll)]
  | request sent =>
    [.scroll "http", .scroll sent.method, .scroll sent.url,
      .record (sent.headers.map fun (name, text) => (name, .scroll text)), sent.body]
  | command (.line text) => [.scroll "run", .scroll text]
  | command (.program words) => [.scroll "run", .list (words.map .scroll)]

end Event

end Spellbook
