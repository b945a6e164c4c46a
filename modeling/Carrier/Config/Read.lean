import Carrier.Bytes
import Carrier.Config.Basic
import Carrier.Text.Utf8
import Carrier.Yaml.Decode

/-!
# Reading a configuration

- `ForwarderEntry.decode`, `Config.decode`: the fields that are looked for. Other keys are passed
  over.
- `Config.ofText`: the configuration that a text in YAML stands for.
- `Config.load`: the configuration in a file.

These are `parse` and `load` of the program's `CarrierConfig`.
-/

namespace Carrier

open Yaml

namespace ForwarderEntry

/-- The fields of an entry that have been read. -/
structure Fields where
  /-- The origin. -/
  url : Option String := none
  /-- The local address. -/
  listener : Option String := none
  /-- The identity of the service token. -/
  tokenId : Option (Option String) := none
  /-- The secret of the service token. -/
  tokenSecret : Option (Option String) := none
  /-- The target behind the front end. -/
  destination : Option (Option String) := none
  /-- Where to connect instead. -/
  connectTo : Option (Option String) := none
  /-- Custom headers. -/
  headers : Option (List String) := none
  /-- How many seconds a connection may last. -/
  timeoutSeconds : Option (Option Nat) := none

/-- Reads the value of one key. -/
def field (f : Fields) (key : String) (path : DecodePath) (n : Node) : Decoder Fields :=
  let text? := Decoder.optional Decoder.text path n
  match key with
  | "url" => do pure { f with url := ← Decoder.once key f.url (Decoder.text path n) }
  | "listener" => do
    pure { f with listener := ← Decoder.once key f.listener (Decoder.text path n) }
  | "service_token_id" => do pure { f with tokenId := ← Decoder.once key f.tokenId text? }
  | "service_token_secret" => do
    pure { f with tokenSecret := ← Decoder.once key f.tokenSecret text? }
  | "destination" => do pure { f with destination := ← Decoder.once key f.destination text? }
  | "connect_to" => do pure { f with connectTo := ← Decoder.once key f.connectTo text? }
  | "headers" => do
    let texts := Decoder.list Decoder.text path n
    pure { f with headers := ← Decoder.once key f.headers texts }
  | "connection_timeout_seconds" => do
    let seconds := Decoder.optional Decoder.unsigned path n
    pure { f with timeoutSeconds := ← Decoder.once key f.timeoutSeconds seconds }
  | _ => do
    Decoder.ignore n
    pure f

/-- The entry of its fields; URL and listener must be there. -/
def ofFields (f : Fields) : Except Mismatch ForwarderEntry :=
  match f.url, f.listener with
  | none, _ => .error (.missingField "url")
  | _, none => .error (.missingField "listener")
  | some url, some listener =>
    .ok
      { url := url
        listener := listener
        tokenId := f.tokenId.join
        tokenSecret := f.tokenSecret.join
        destination := f.destination.join
        connectTo := f.connectTo.join
        headers := f.headers.getD []
        timeoutSeconds := f.timeoutSeconds.join }

/-- Reads an entry. -/
def decode : DecodePath → Node → Decoder ForwarderEntry :=
  Decoder.record "struct ForwarderConfig" {} field ofFields

end ForwarderEntry

namespace Config

/-- Reads the value of one key; only that of the entries counts. -/
def field (known : Option (List ForwarderEntry)) (key : String) (path : DecodePath) (n : Node) :
    Decoder (Option (List ForwarderEntry)) :=
  if key = "forwarders" then
    Decoder.once key known (Decoder.list ForwarderEntry.decode path n)
  else do
    Decoder.ignore n
    pure known

/-- Reads a configuration; without entries it is empty. -/
def decode : DecodePath → Node → Decoder Config :=
  Decoder.record "struct CarrierConfig" none field fun known => .ok ⟨known.getD []⟩

/-- The configuration that a text stands for, if it can be used. -/
def ofText (text : String) : Except ConfigFault Config := do
  let config ← ((Document.ofText text).decode decode).mapError .malformed
  config.validate
  pure config

/-- The configuration in a file, given what reading files comes to. -/
def load (files : String → Except IoFault Bytes) (path : String) : Except ConfigFault Config :=
  match files path with
  | .error fault => .error (.unreadable path fault)
  | .ok bytes =>
    match Utf8.decode? bytes with
    | none => .error (.unreadable path .invalidText)
    | some text => ofText (String.ofList text)

end Config

end Carrier
