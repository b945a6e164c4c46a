/-!
# Mistakes in the setup of a session

`SetupError` lists what can be wrong with the destination and listener a session is asked
to use. None of them goes away by trying again: each repeats the text at fault, so that it
can be mended.

It is the program's `ProtoError`.
-/

namespace Carrier

/-- What is wrong with the setup of a session. -/
inductive SetupError where
  /-- An override is none of `host`, `host:port`, `name:port:host`. -/
  | invalidOverride (raw : String)
  /-- No origin is named. -/
  | missingDestination
  /-- The origin is no URL that can be dialed. -/
  | invalidOrigin (url reason : String)
  /-- The origin's scheme is not one that carries a WebSocket. -/
  | unsupportedScheme (url scheme : String)
  /-- The listener names no host and port. -/
  | invalidListener (address reason : String)
  deriving DecidableEq, Repr

namespace SetupError

/-- The wording of a setup error. -/
def message : SetupError → String
  | .invalidOverride raw => "invalid connection override: " ++ raw
  | .missingDestination => "no destination configured: origin URL is empty"
  | .invalidOrigin url reason => "invalid origin URL " ++ url ++ ": " ++ reason
  | .unsupportedScheme url scheme =>
    "unsupported origin scheme '" ++ scheme ++ "' in " ++ url ++
      " (expected http, https, ws or wss)"
  | .invalidListener address reason => "invalid listener address " ++ address ++ ": " ++ reason

/-- A mistake in the setup is never worth another attempt. -/
def retryable (_ : SetupError) : Bool := false

end SetupError

end Carrier
