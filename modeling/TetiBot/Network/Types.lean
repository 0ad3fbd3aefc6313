import TetiBot.Relationships.Types

/-
What the services of the Teti Network have in common (`services/network/errors.ts` and
the stores beside them).

* `NetworkFailure`: what a service looks at in a throw.
* `SaveResult`: how a write of a store ends.
-/

namespace TetiBot

/-- A `TetiNetworkClientError`, or another error. -/
inductive NetworkFailure
  | network (code : NetworkErrorCode) (retryable : Bool)
  | other
  deriving DecidableEq

/-- How a call to a store ends; one that fails may have written. -/
inductive SaveResult
  | done
  | failed (written : Bool)
  deriving DecidableEq

end TetiBot
