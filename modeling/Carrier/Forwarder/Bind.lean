import Carrier.IoFault
import Carrier.Text.Decimal
import Carrier.Text.Search
import Carrier.Url.Ipv6

/-!
# Binding a listener

- `SocketAddress`: host and port of a listener, as the system is asked for them.
- `SocketAddress.parse`: those that a text names.
- `System`: what the system knows of hosts and ports.
- `System.bind`: what binding comes to where some addresses have been bound already.

This is what `bind` of the program's `Forwarder` asks of the system.
-/

namespace Carrier

/-- Host and port of a listener. -/
structure SocketAddress where
  /-- A name, or an address without brackets. -/
  host : String
  /-- The port; 0 for any that is free. -/
  port : Nat
  deriving DecidableEq, Repr

namespace SocketAddress

/-- The address between brackets. -/
def bracketed? (s : List Char) : Option String :=
  match s with
  | '[' :: rest =>
    match rest.reverse with
    | ']' :: inner => if (Ipv6.parse? inner.reverse).isSome then some (String.ofList inner.reverse)
      else none
    | _ => none
  | _ => none

/-- Host and port of a text, which are divided by the last colon. -/
def parse (s : String) : Except IoFault SocketAddress :=
  match Text.cutLast? ':' s.toList with
  | none => .error .invalidSocketAddress
  | some (host, port) =>
    match Text.readBounded 65536 port with
    | .error _ => .error .invalidPort
    | .ok port => .ok ⟨(bracketed? host).getD (String.ofList host), port⟩

end SocketAddress

/-- What the system knows of hosts and ports. -/
structure System where
  /-- The addresses of a host, in the order in which they are tried; an address has itself. -/
  resolve : String → Except IoFault (List String)
  /-- Why an address cannot be bound where this process has bound others, the last one first. -/
  refuses : List SocketAddress → SocketAddress → Option IoFault

namespace System

/-- A system on which every host is an address and nothing is refused. -/
def free : System := ⟨fun host => .ok [host], fun _ _ => none⟩

/-- The first of some addresses that the system lets be had, or else why it refuses the last of
them; with none of them there is a fault from the beginning. -/
def bindFirst (system : System) (bound : List SocketAddress) (fault : IoFault) :
    List SocketAddress → Except IoFault SocketAddress
  | [] => .error fault
  | address :: rest =>
    match system.refuses bound address with
    | none => .ok address
    | some fault => system.bindFirst bound fault rest

/-- The address that is bound for a text, given those that this process has bound: the addresses of
its host are tried one after the other. -/
def bind (system : System) (bound : List SocketAddress) (text : String) :
    Except IoFault SocketAddress :=
  match SocketAddress.parse text with
  | .error fault => .error fault
  | .ok address =>
    match system.resolve address.host with
    | .error fault => .error fault
    | .ok hosts =>
      system.bindFirst bound .noAddress (hosts.map fun host => ⟨host, address.port⟩)

end System

end Carrier
