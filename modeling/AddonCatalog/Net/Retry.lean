/-!
# Retrying requests

Archive downloads retry transient failures: a request is retried up to the configured
number of times, with an exponential backoff of factor 0.5, when the answer has one of
the statuses 429, 500, 502, 503 and 504. Only `GET` requests are retried. The same
policy is mounted for `http://` and `https://` urls.
-/

namespace AddonCatalog

/-- How requests are retried. -/
structure RetryPolicy where
  total : Int
  backoffFactor : Float := 0.5
  statusForcelist : List Nat := [429, 500, 502, 503, 504]
  allowedMethods : List String := ["GET"]

/-- The url prefixes the retry policy is mounted for. -/
def retryPrefixes : List String := ["http://", "https://"]

end AddonCatalog
