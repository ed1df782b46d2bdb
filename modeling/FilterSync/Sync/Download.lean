/-!
# Downloads

What becomes of the download of a list. A failure is recorded with the list as a text
and never keeps the other lists from being used.
-/

namespace FilterSync

/-- Why a download failed. -/
inductive DownloadError
  /-- The request could not be made. -/
  | transport (url detail : String)
  /-- The server answered with another status than success. -/
  | status (url : String) (code : Nat)
  /-- The body broke off. -/
  | body (url detail : String)
  deriving DecidableEq, Repr

namespace DownloadError

/-- The wording of an error. -/
def message : DownloadError → String
  | transport url detail => "request to " ++ url ++ " failed: " ++ detail
  | status url code => "failed to fetch " ++ url ++ ": HTTP " ++ toString code
  | body url detail => "failed to read body of " ++ url ++ ": " ++ detail

end DownloadError

/-- The text of a list, or why there is none. -/
abbrev Download := Except DownloadError String

end FilterSync
