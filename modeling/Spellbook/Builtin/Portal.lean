import Spellbook.Builtin

/-!
# Builtins for the network

Portals connect to a server, a hellmouth waits for visitors, and owls carry messages.
-/

namespace Spellbook.Builtin

open Spellbook.Action

/-- Open a socket to a host and port. -/
def summonPortal : List Value → Action Value
  | [host, port] => do
    let host ← text host
    let port ← integer port
    recover
      (do
        let socket ← newSocket
        askNetwork (.connect host port)
        return socket)
      fun trouble => do
        let num ← integerText port
        refuse .portalFailure (s!"Failed to summon portal to {host}:{num}: " ++ trouble.text)
  | _ => forbid "summon_portal requires 2 arguments (host, port)"

/-- Wait for visitors at a port. -/
def openHellmouth : List Value → Action Value
  | [port] => do
    let port ← integer port
    recover
      (do
        let socket ← newSocket
        askNetwork .reuse
        askNetwork (.bind "" port)
        askNetwork (.listen 5)
        return socket)
      fun trouble => do
        let num ← integerText port
        refuse .portalFailure (s!"Failed to open hellmouth on port {num}: " ++ trouble.text)
  | _ => forbid "open_hellmouth requires 1 argument (port)"

/-- Send a message; gives the number of bytes. -/
def sendOwl : List Value → Action Value
  | [portal, msg] => do
    let msg ← text msg
    orRefuse .portalFailure "Owl failed to deliver message: " do
      match portal with
      | .portal _ =>
        askNetwork (.send msg)
        return .rune msg.utf8ByteSize
      | other => lacks other "send"
  | _ => forbid "send_owl requires 2 arguments (portal, message)"

/-- Receive at most so many bytes, as text. -/
def receiveFrom (portal : Value) (size : Int) : Action Value :=
  orRefuse .portalFailure "Failed to receive owl: " do
    match portal with
    | .portal _ =>
      match Text.Utf8.decode (← receive size) with
      | .ok chars => return .scroll (String.ofList chars)
      | .error flaw => fault (.undecodable flaw)
    | other => lacks other "recv"

/-- Receive bytes, 1024 by default. -/
def receiveOwl : List Value → Action Value
  | [portal] => receiveFrom portal 1024
  | [portal, size] => do receiveFrom portal (← integer size)
  | _ => forbid "receive_owl requires 1-2 arguments (portal, [buffer_size])"

/-- Close a socket. -/
def closePortal : List Value → Action Value
  | [portal] => do
    orRefuse .portalFailure "Failed to close portal: " (close portal)
    return .void
  | _ => forbid "close_portal requires 1 argument (portal)"

/-- Wait for a visitor; gives a tome of their portal, host and port. -/
def awaitVisitor : List Value → Action Value
  | [hellmouth] =>
    orRefuse .portalFailure "Failed to await visitor: " do
      match hellmouth with
      | .portal _ =>
        let (socket, visitor) ← welcome
        newTome [socket, .scroll visitor.host, .rune visitor.port]
      | other => lacks other "accept"
  | _ => forbid "await_visitor requires 1 argument (hellmouth)"

/-- The builtins for sockets. -/
def portals : List Builtin :=
  [⟨"summon_portal", some 2, summonPortal⟩,
    ⟨"open_hellmouth", some 1, openHellmouth⟩,
    ⟨"send_owl", some 2, sendOwl⟩,
    ⟨"receive_owl", none, receiveOwl⟩,
    ⟨"close_portal", some 1, closePortal⟩,
    ⟨"await_visitor", some 1, awaitVisitor⟩]

end Spellbook.Builtin
