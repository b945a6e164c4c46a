import Carrier.Header.Basic
import Carrier.Text.Search

/-!
# Headers for the access front end

- `HeaderMap.addPair`: a custom header, written `name: value`.
- `HeaderMap.setClientId`, `HeaderMap.setClientSecret`: the service token; setting replaces.
- `HeaderMap.addJumpDestination`: the target behind the front end; adding keeps what is there.
- `HeaderMap.forAccess`: all of them.

Nothing here fails: what is no header is left out.

These are the calls of the program's `HeaderBuilder` and `build_request_headers`.
-/

namespace Carrier

namespace HeaderName

/-- The name that carries the identity of a service token. -/
def clientId : HeaderName := ⟨"cf-access-client-id", by decide +kernel⟩

/-- The name that carries the secret of a service token. -/
def clientSecret : HeaderName := ⟨"cf-access-client-secret", by decide +kernel⟩

/-- The name that carries the target behind the front end. -/
def jumpDestination : HeaderName := ⟨"cf-access-jump-destination", by decide +kernel⟩

end HeaderName

/-- Name and value of a custom header: the trimmed texts before and after the first colon. -/
def splitPair? (raw : String) : Option (String × String) :=
  (Text.cutChar? ':' raw.toList).map fun (name, value) =>
    (Text.trim (String.ofList name), Text.trim (String.ofList value))

/-- The header that a custom entry stands for. -/
def readPair? (raw : String) : Option (HeaderName × HeaderValue) :=
  match splitPair? raw with
  | none => none
  | some (name, value) =>
    match HeaderName.parse? name, HeaderValue.parse? value with
    | some name, some value => some (name, value)
    | _, _ => none

namespace HeaderMap

/-- Adds a custom header; an entry that is no header is left out. -/
def addPair (m : HeaderMap) (raw : String) : HeaderMap :=
  match readPair? raw with
  | some (name, value) => m.append name value
  | none => m

/-- Adds custom headers in order. -/
def addPairs (m : HeaderMap) (raws : List String) : HeaderMap :=
  raws.foldl addPair m

/-- Makes a token the only value under its name; an empty token, or one that is no value,
changes nothing. -/
def setToken (m : HeaderMap) (name : HeaderName) (token : String) : HeaderMap :=
  if token.isEmpty then m
  else
    match HeaderValue.parseSecret? token with
    | some value => m.replace name value
    | none => m

/-- Sets the identity of the service token. -/
def setClientId (m : HeaderMap) (token : String) : HeaderMap :=
  m.setToken HeaderName.clientId token

/-- Sets the secret of the service token. -/
def setClientSecret (m : HeaderMap) (token : String) : HeaderMap :=
  m.setToken HeaderName.clientSecret token

/-- Adds a target behind the front end, after those that are there. -/
def addJumpDestination (m : HeaderMap) (destination : String) : HeaderMap :=
  if destination.isEmpty then m
  else
    match HeaderValue.parse? destination with
    | some value => m.append HeaderName.jumpDestination value
    | none => m

/-- The headers of a session: custom ones, then the service token, then the target. -/
def forAccess (pairs : List String) (clientId clientSecret destination : Option String) :
    HeaderMap :=
  let m := empty.addPairs pairs
  let m := clientId.elim m m.setClientId
  let m := clientSecret.elim m m.setClientSecret
  destination.elim m m.addJumpDestination

end HeaderMap

end Carrier
