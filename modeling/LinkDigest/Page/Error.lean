/-!
# Failures of the network

Why a page could not be read.
-/

namespace LinkDigest

/-- Why a page could not be read. -/
inductive NetworkError where
  /-- There was no answer that could be read. -/
  | noAnswer
  /-- The answer was not that of success. -/
  | status (code : Nat)
  | invalidUrl (url : String)
  /-- Nothing may be fetched. -/
  | offline
  | cancelled
deriving DecidableEq, Repr

/-- What went wrong, in words. -/
def NetworkError.message : NetworkError → String
  | .noAnswer => "Request failed"
  | .status code => "HTTP " ++ toString code ++ " returned"
  | .invalidUrl url => "Invalid URL: " ++ url
  | .offline => "Network access disabled"
  | .cancelled => "Fetch cancelled"

end LinkDigest
