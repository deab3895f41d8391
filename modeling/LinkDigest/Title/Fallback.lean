/-!
# Titles of last resort
-/

namespace LinkDigest

/-- What a page is called if no title can be found. -/
def fallbackTitle (url : String) : String := "[Unresolved] " ++ url

theorem fallbackTitle_ne_empty (url : String) : fallbackTitle url ≠ "" := by
  simp [fallbackTitle]

end LinkDigest
