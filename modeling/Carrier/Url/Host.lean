import Carrier.Url.Domain
import Carrier.Url.Ipv4
import Carrier.Url.Ipv6
import Carrier.Url.Percent

/-!
# Hosts

- `UrlFault`: why a text is no URL.
- `Host`: a name or an address.
- `Host.parse`: the host of a URL with a special scheme. A name is brought into its ASCII form,
  and one that ends in a number must be an IPv4 address.
- `Host.parseOpaque`: the host of any other URL, whose name is kept as it is written.
- `Host.shown`: the host as it stands in a URL, an IPv6 address in brackets.
-/

namespace Carrier

/-- Why a text is no URL. -/
inductive UrlFault where
  /-- There is no scheme. -/
  | noScheme
  /-- There is no host where one is needed. -/
  | emptyHost
  /-- The port is no number of 16 bits. -/
  | invalidPort
  /-- The host ends in a number and is no IPv4 address. -/
  | invalidIpv4
  /-- The host begins with a bracket and is no IPv6 address. -/
  | invalidIpv6
  /-- The host has no ASCII form. -/
  | invalidDomain
  /-- The host holds a character that ends hosts. -/
  | invalidCharacter
  deriving DecidableEq, Repr

/-- The wording of a fault. -/
def UrlFault.message : UrlFault → String
  | .noScheme => "relative URL without a base"
  | .emptyHost => "empty host"
  | .invalidPort => "invalid port number"
  | .invalidIpv4 => "invalid IPv4 address"
  | .invalidIpv6 => "invalid IPv6 address"
  | .invalidDomain => "invalid international domain name"
  | .invalidCharacter => "invalid domain character"

/-- A host: a name or an address. -/
inductive Host where
  /-- A name; it may be empty where a URL needs no host. -/
  | domain (name : String)
  /-- An address of 32 bits. -/
  | ipv4 (address : Ipv4)
  /-- An address of 128 bits. -/
  | ipv6 (address : Ipv6)
  deriving DecidableEq, Repr

namespace Host

/-- The host as it stands in a URL. -/
def shown : Host → String
  | .domain name => name
  | .ipv4 address => address.shown
  | .ipv6 address => "[" ++ address.shown ++ "]"

/-- The host as it is handed to the network: without brackets, and with the last 32 bits of a
mapped IPv4 address in decimal. -/
def dialed : Host → String
  | .domain name => name
  | .ipv4 address => address.shown
  | .ipv6 address => address.shownMapped

/-- The address between brackets, when a host begins with one. -/
def parseBracketed (s : List Char) : Except UrlFault Host :=
  if s.getLast? = some ']' then
    match Ipv6.parse? s.dropLast with
    | some a => .ok (.ipv6 a)
    | none => .error .invalidIpv6
  else .error .invalidIpv6

/-- The host of a URL with a special scheme. -/
def parse : List Char → Except UrlFault Host
  | '[' :: s => parseBracketed s
  | s =>
    match (Utf8.decode? (Percent.decode s)).bind Domain.toAscii? with
    | none => .error .invalidDomain
    | some [] => .error .emptyHost
    | some name =>
      if Ipv4.looksNumeric name then
        match Ipv4.parse? name with
        | some a => .ok (.ipv4 a)
        | none => .error .invalidIpv4
      else .ok (.domain (String.ofList name))

/-- Characters that end a host, and so cannot be part of one. -/
def ends (c : Char) : Bool :=
  "\x00\t\n\r #/:<>?@[\\]^|".toList.contains c

/-- The host of a URL without a special scheme. -/
def parseOpaque : List Char → Except UrlFault Host
  | '[' :: s => parseBracketed s
  | s =>
    if s.any ends then .error .invalidCharacter
    else .ok (.domain (String.ofList (Percent.encode Percent.controls s)))

end Host

end Carrier
