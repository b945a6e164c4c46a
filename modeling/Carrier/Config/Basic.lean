import Carrier.Config.Expansion
import Carrier.Header.Access
import Carrier.IoFault
import Carrier.Listener
import Carrier.Override
import Carrier.Yaml.Decode

/-!
# Configurations

- `ForwarderEntry`, `Config`: what a configuration file says.
- `ConfigFault`: why a configuration cannot be used.
- `Config.validate`: whether the entries can all be listened for. Of several faults that of the
  first entry is reported, and within an entry the URL is looked at before the listener.
- `ForwarderEntry.options`: the options of a session for an entry. Environment variables enter
  through the service token alone.

These are the program's `CarrierConfig` and `ForwarderConfig`, with `validate`, `listener_address`
and `start_options`.
-/

namespace Carrier

/-- One listener and the origin that its connections are carried to. -/
structure ForwarderEntry where
  /-- The origin. -/
  url : String
  /-- The local address to listen on. -/
  listener : String
  /-- The identity of the service token, with references to environment variables. -/
  tokenId : Option String := none
  /-- The secret of the service token, with references to environment variables. -/
  tokenSecret : Option String := none
  /-- The target behind the access front end. -/
  destination : Option String := none
  /-- Where to connect instead. -/
  connectTo : Option String := none
  /-- Custom headers, written `name: value`. -/
  headers : List String := []
  /-- How many seconds a connection may last. -/
  timeoutSeconds : Option Nat := none
  deriving DecidableEq, Repr

/-- What a configuration file says. -/
structure Config where
  /-- The entries, in the order of the file. -/
  forwarders : List ForwarderEntry
  deriving DecidableEq, Repr

/-- Why a configuration cannot be used. -/
inductive ConfigFault where
  /-- The file cannot be read. -/
  | unreadable (path : String) (fault : IoFault)
  /-- The file does not hold what is expected. -/
  | malformed (fault : Yaml.DecodeFault)
  /-- There is no entry. -/
  | noForwarders
  /-- The URL of an entry is blank. -/
  | blankUrl (listener : String)
  /-- The listener of an entry is no address. -/
  | invalidListener (cause : SetupError)
  /-- Two entries listen on the same address. -/
  | duplicateListener (address : String)
  /-- The place to connect to instead is none. -/
  | invalidOverride (listener : String) (cause : SetupError)
  deriving DecidableEq, Repr

namespace ConfigFault

/-- The wordings of a configuration fault and of those below it, outermost first. -/
def chain : ConfigFault → List String
  | .unreadable path fault =>
    ["Failed to read config file: " ++ Text.Quoted.write path, fault.message]
  | .malformed fault => ["Failed to parse YAML config", fault.message]
  | .noForwarders => ["No forwarders defined in config file"]
  | .blankUrl listener => ["Forwarder on '" ++ listener ++ "' has an empty url"]
  | .invalidListener cause => [cause.message]
  | .duplicateListener address => ["Duplicate forwarder listener: " ++ address]
  | .invalidOverride listener cause =>
    ["Invalid connect_to for forwarder on " ++ listener, cause.message]

/-- The mistake in the setup that is below a configuration fault. -/
def setup? : ConfigFault → Option SetupError
  | .invalidListener cause => some cause
  | .invalidOverride _ cause => some cause
  | _ => none

end ConfigFault

/-! ### Validity -/

/-- The address of an entry that may follow entries with the addresses `seen`. -/
def ForwarderEntry.check (seen : List String) (e : ForwarderEntry) :
    Except ConfigFault String :=
  if Text.isBlankText e.url then .error (.blankUrl e.listener)
  else
    match listenerAddress e.listener with
    | .error cause => .error (.invalidListener cause)
    | .ok address =>
      if address ∈ seen then .error (.duplicateListener address) else .ok address

namespace Config

/-- Checks entries from left to right after entries with the addresses `seen`. -/
def check (seen : List String) : List ForwarderEntry → Except ConfigFault Unit
  | [] => .ok ()
  | e :: rest =>
    match e.check seen with
    | .error fault => .error fault
    | .ok address => check (address :: seen) rest

/-- Whether the entries of a configuration can all be listened for. -/
def validate (c : Config) : Except ConfigFault Unit :=
  if c.forwarders.isEmpty then .error .noForwarders else check [] c.forwarders

end Config

/-! ### Options -/

namespace ForwarderEntry

/-- The headers of an entry. -/
def accessHeaders (env : Environment) (e : ForwarderEntry) : HeaderMap :=
  HeaderMap.forAccess e.headers (e.tokenId.map (Expansion.expand env))
    (e.tokenSecret.map (Expansion.expand env)) e.destination

/-- The options of a session for an entry, and what is reported. -/
def options (env : Environment) (e : ForwarderEntry) :
    Except ConfigFault (DialOptions × List LogRecord) :=
  let named : DialOptions := { origin := ensureScheme e.url, headers := e.accessHeaders env }
  (named.resolve (e.connectTo.getD "")).mapError (.invalidOverride e.listener)

end ForwarderEntry

end Carrier
