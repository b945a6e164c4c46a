import Carrier.Url.Host

/-!
# URLs

- `Url`: scheme, authority, path, query and fragment, each as it is written.
- `Url.href`: the text of a URL.
- `Url.hostText?`, `Url.effectivePort?`: where it leads to.

These are URLs of the library `url`.
-/

namespace Carrier

/-- The schemes that have a default port or rules of their own. -/
inductive SchemeKind where
  /-- The scheme of local files. -/
  | file
  /-- A scheme that always has a host. -/
  | network
  /-- Any other scheme. -/
  | other
  deriving DecidableEq, Repr

/-- The kind of a scheme. -/
def SchemeKind.of (scheme : String) : SchemeKind :=
  if scheme = "file" then .file
  else if ["http", "https", "ws", "wss", "ftp"].contains scheme then .network
  else .other

/-- Special schemes take a backslash for a slash. -/
def SchemeKind.isSpecial : SchemeKind → Bool
  | .other => false
  | _ => true

/-- The port that a scheme implies. -/
def defaultPort? (scheme : String) : Option Nat :=
  if scheme = "http" ∨ scheme = "ws" then some 80
  else if scheme = "https" ∨ scheme = "wss" then some 443
  else if scheme = "ftp" then some 21
  else none

/-- Who is asked, where, and with which credentials. -/
structure Authority where
  /-- The user name; empty if there is none. -/
  username : String
  /-- The password; empty if there is none. -/
  password : String
  /-- The host. -/
  host : Host
  /-- The port, unless it is the one that the scheme implies. -/
  port : Option Nat
  deriving DecidableEq, Repr

/-- The path of a URL. -/
inductive UrlPath where
  /-- A text that is not divided. -/
  | whole (text : String)
  /-- Segments, each with a slash before it. -/
  | segments (parts : List String)
  deriving DecidableEq, Repr

/-- The text of a path. -/
def UrlPath.shown : UrlPath → String
  | .whole text => text
  | .segments parts => String.join (parts.map ("/" ++ ·))

/-- A URL. -/
structure Url where
  /-- The scheme, in lower case. -/
  scheme : String
  /-- What follows two slashes. -/
  authority : Option Authority
  /-- The path. -/
  path : UrlPath
  /-- What follows the question mark. -/
  query : Option String
  /-- What follows the number sign. -/
  fragment : Option String
  deriving DecidableEq, Repr

namespace Authority

/-- User name and password, with the sign that ends them. -/
def credentials (a : Authority) : String :=
  let password := if a.password.isEmpty then "" else ":" ++ a.password
  if a.username.isEmpty && a.password.isEmpty then "" else a.username ++ password ++ "@"

/-- Host and port. -/
def location (a : Authority) : String :=
  a.host.shown ++ (a.port.elim "" fun p => ":" ++ toString p)

end Authority

namespace Url

/-- The host as text, unless there is none or it is empty. -/
def hostText? (u : Url) : Option String :=
  match u.authority with
  | some a => if a.host = .domain "" then none else some a.host.shown
  | none => none

/-- The port that is written, or else the one that the scheme implies. -/
def effectivePort? (u : Url) : Option Nat :=
  match u.authority.bind (·.port) with
  | some p => some p
  | none => defaultPort? u.scheme

/-- What stands between scheme and path. A path that would be taken for an authority is kept
apart from the scheme by a point. -/
def authorityText (u : Url) : String :=
  match u.authority with
  | some a => "//" ++ a.credentials ++ a.location
  | none =>
    match u.path with
    | .segments ("" :: _ :: _) => "/."
    | _ => ""

/-- The text of a URL. -/
def href (u : Url) : String :=
  u.scheme ++ ":" ++ u.authorityText ++ u.path.shown ++
    (u.query.elim "" ("?" ++ ·)) ++ (u.fragment.elim "" ("#" ++ ·))

end Url

end Carrier
