import Spellbook.World

/-!
# The network

Sockets connect, listen, send and receive.  What arrives is queued for all sockets together.
-/

namespace Spellbook.Action

def askNetwork (event : NetworkEvent) : Action Unit := do
  note (.network event)
  if (← get).network.failOn == some event.name then
    fault (.connectionRefused (event.name ++ " failed"))

def newSocket : Action Value := do
  askNetwork .socket
  modifyGet fun world =>
    (.portal world.network.sockets,
      { world with network := { world.network with sockets := world.network.sockets + 1 } })

/-- Receive at most so many bytes.  The rest of what arrived together stays in front. -/
def receive (size : Int) : Action (List UInt8) := do
  if size < 0 then fault .negativeSize
  else
    askNetwork (.receive size)
    modifyGet fun world =>
      match world.network.arrivals with
      | [] => ([], world)
      | bytes :: others =>
        let rest := bytes.drop size.toNat
        let arrivals := if rest.isEmpty then others else rest :: others
        (bytes.take size.toNat, { world with network := { world.network with arrivals } })

/-- Wait for a visitor, who gets a socket. -/
def welcome : Action (Value × Visitor) := do
  askNetwork .accept
  match (← get).network.visitors with
  | [] => fault (.connectionRefused "no visitor")
  | visitor :: visitors =>
    modify fun world => { world with network := { world.network with visitors } }
    return (← newSocket, visitor)

end Spellbook.Action
