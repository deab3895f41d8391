import LinkDigest.Filter.Keyword
import LinkDigest.Json.Record
import LinkDigest.Text.Lowercase

/-!
# Filter settings

Which links and articles a reader wants to see.
-/

namespace LinkDigest

open LinkDigest.Text

/-- How far back articles may lie. -/
inductive TimeOption where
  | all
  | today
  | thisWeek
deriving DecidableEq, Repr

namespace TimeOption

/-- The name in documents. -/
def name : TimeOption → String
  | .all => "all"
  | .today => "today"
  | .thisWeek => "this_week"

/-- All options. -/
def options : List TimeOption := [.all, .today, .thisWeek]

/-- The greatest age of an article in seconds, if there is one. -/
def maxAge? : TimeOption → Option Nat
  | .all => none
  | .today => some (24 * 3600)
  | .thisWeek => some (7 * 24 * 3600)

/-- The option a reader writes, in letters of either case. An unknown one is
given back in small letters. -/
def parse (text : List Char) : Except String TimeOption :=
  let word := String.ofList (lowercase (trim text))
  if word = "all" then .ok .all
  else if word = "today" then .ok .today
  else if word = "week" ∨ word = "this_week" ∨ word = "this-week" then .ok .thisWeek
  else .error word

/-- The option of a name. -/
def ofName? (name : List Char) : Option TimeOption :=
  options.find? fun option => option.name.toList == name

/-- An option in JSON: its name, or an object with the name as its only key. -/
def ofJson? : Json → Option TimeOption
  | .string raw => (Json.unescape? raw).bind ofName?
  | .object [(key, .null)] => (Json.unescape? key).bind ofName?
  | _ => none

end TimeOption

/-- Which links and articles are shown. -/
structure Filter where
  /-- Links that hold one of these are not shown. -/
  ignored : List Keyword
  /-- Articles that link to their own site do not count. -/
  suppressSelf : Bool
  /-- Links from one feed only are not shown. -/
  suppressSingleSource : Bool
  /-- The only guide whose feeds count, if there is one. -/
  guide : Option String
  /-- The least rating of a feed; 1 lets all feeds through. -/
  minRating : Int
  unreadOnly : Bool
  time : TimeOption
deriving DecidableEq, Repr

/-- Why settings are refused. -/
inductive FilterError where
  | unknownTimeOption (word : String)
  | ratingOutOfRange (rating : Int)
  | keywords (error : KeywordError)
deriving DecidableEq, Repr

/-- What is wrong with the settings, in words. -/
def FilterError.message : FilterError → String
  | .unknownTimeOption word => "unknown time option '" ++ word ++ "'"
  | .ratingOutOfRange rating => "Minimum rating " ++ toString rating ++ " is outside 1..=5"
  | .keywords error => error.message

namespace Filter

/-- The rating that lets all feeds through. -/
def anyRating : Int := 1

/-- Everything is shown. -/
def default : Filter where
  ignored := []
  suppressSelf := false
  suppressSingleSource := false
  guide := none
  minRating := anyRating
  unreadOnly := false
  time := .all

/-- With another least rating, from 1 to 5. -/
def withMinRating (filter : Filter) (rating : Int) : Except FilterError Filter :=
  if 1 ≤ rating ∧ rating ≤ 5 then .ok { filter with minRating := rating }
  else .error (.ratingOutOfRange rating)

/-- With other keywords; a list without any ignores nothing. -/
def withIgnored (filter : Filter) (keywords : List Char)
    (fits : List (List Char) → Bool := Keyword.fits) : Except FilterError Filter :=
  match Keyword.list? keywords fits with
  | .ok ignored => .ok { filter with ignored }
  | .error error => .error (.keywords error)

/-- With another guide; a blank name is none. -/
def withGuide (filter : Filter) (guide : List Char) : Filter :=
  let name := trim guide
  { filter with guide := if name.isEmpty then none else some (String.ofList name) }

/-- With another time option, as a reader writes it. -/
def withTime (filter : Filter) (text : List Char) : Except FilterError Filter :=
  match TimeOption.parse text with
  | .ok time => .ok { filter with time }
  | .error word => .error (.unknownTimeOption word)

/-- Whether a link holds one of the keywords. -/
def isIgnored (filter : Filter) (url : List Char) : Bool :=
  filter.ignored.any fun keyword => keyword.occursIn url

end Filter

end LinkDigest
