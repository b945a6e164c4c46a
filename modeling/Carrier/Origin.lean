import Carrier.Text.Search

/-!
# The hostname of an origin

- `ensureScheme`: the hostname as a URL; without a scheme it is asked over HTTPS.
- `presentedHost`: the host that is presented to the origin.

These are the program's `ensure_url_scheme` and `presented_host`.
-/

namespace Carrier

/-- What ends the scheme of a URL. -/
def schemeMark : List Char := "://".toList

/-- A hostname as a URL. -/
def ensureScheme (hostname : String) : String :=
  if (Text.cut? schemeMark hostname.toList).isSome then hostname else "https://" ++ hostname

/-- The text between scheme and path of a hostname. -/
def presentedHost (hostname : String) : String :=
  let rest :=
    match Text.cut? schemeMark hostname.toList with
    | some (_, rest) => rest
    | none => hostname.toList
  String.ofList (rest.takeWhile (· != '/'))

end Carrier
