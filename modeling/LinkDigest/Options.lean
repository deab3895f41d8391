import LinkDigest.Filter.Settings

/-!
# The command line

Which options there are, how they are read, and the text that explains them.
Arguments are read from the left, and the first one that is wrong, or that asks
for an explanation, ends the reading.
-/

namespace LinkDigest

/-- What the command line asks for. -/
structure Options where
  /-- The file of the corpus. -/
  corpus : String
  /-- The file of the limits, if there is one. -/
  config : Option String
  time : TimeOption
  minRating : Int
  unreadOnly : Bool
  suppressSelf : Bool
  suppressSingleSource : Bool
  ignored : Option String
  guide : Option String
  isOffline : Bool
  /-- How long titles are waited for. -/
  waitSeconds : Nat
  isPretty : Bool
  showsMetrics : Bool
deriving DecidableEq, Repr

/-- Why a command line is refused. -/
inductive UsageError where
  | unexpected (argument : String)
  | missingValue (name : String)
  | unneededValue (name : String)
  | repeated (name : String)
  | invalidValue (name value : String)
  | missingOption (name : String)
deriving DecidableEq, Repr

/-- What is wrong, in words. -/
def UsageError.message : UsageError → String
  | .unexpected argument => "unexpected argument '" ++ argument ++ "' found"
  | .missingValue name => "a value is required for '--" ++ name ++ "' but none was supplied"
  | .unneededValue name => "unexpected value for '--" ++ name ++ "' found"
  | .repeated name => "the argument '--" ++ name ++ "' cannot be used multiple times"
  | .invalidValue name value => "invalid value '" ++ value ++ "' for '--" ++ name ++ "'"
  | .missingOption name => "the required argument '--" ++ name ++ "' was not provided"

/-- What to do after the command line has been read. -/
inductive Invocation where
  | run (options : Options)
  | help
  | version
  | refuse (error : UsageError)
deriving DecidableEq, Repr

/-! ## Numbers -/

/-- The number that figures write; none without figures. -/
def figures? (digits : List Char) : Option Nat :=
  if digits.isEmpty || !digits.all Char.isDigit then none
  else some (digits.foldl (fun n c => n * 10 + (c.toNat - 48)) 0)

/-- The number that figures write behind a sign or none. -/
def signed? : List Char → Option Int
  | '-' :: digits => (figures? digits).map fun n => -(n : Int)
  | '+' :: digits => (figures? digits).map Int.ofNat
  | digits => (figures? digits).map Int.ofNat

/-- The rating that a text writes, in 32 bits. -/
def rating? (text : List Char) : Option Int :=
  (signed? text).filter fun n => Int32.minValue.toInt ≤ n && n ≤ Int32.maxValue.toInt

/-- The seconds that a text writes, in 64 bits and without a minus. -/
def seconds? (text : List Char) : Option Nat :=
  ((match text with
    | '+' :: digits => figures? digits
    | digits => figures? digits).filter fun n => n < UInt64.size)

/-! ## The options -/

/-- An option as the help shows it. -/
structure OptionSpec where
  name : String
  /-- What its value is called; none for a switch. -/
  value : Option String
  help : String
  /-- The value where it is not given. -/
  default : Option String
deriving DecidableEq, Repr

namespace OptionSpec

/-- All options, in the order of the help. -/
def all : List OptionSpec := [
  ⟨"corpus", some "CORPUS", "Corpus JSON document (feeds with their articles)", none⟩,
  ⟨"config", some "CONFIG", "Engine configuration JSON", none⟩,
  ⟨"time-option", some "TIME_OPTION", "all, today or week", some "all"⟩,
  ⟨"min-rating", some "MIN_RATING", "Minimum feed rating, 1 disables rating filtering", some "1"⟩,
  ⟨"unread-only", none, "", none⟩,
  ⟨"suppress-self", none, "Hide references from the linked site itself", none⟩,
  ⟨"suppress-single-source", none, "Hide links referenced by a single feed only", none⟩,
  ⟨"ignore", some "IGNORE", "Ignore keywords, comma separated, \x60*\x60 as wildcard", none⟩,
  ⟨"guide", some "GUIDE", "Restrict to feeds of this guide", none⟩,
  ⟨"offline", none, "Never fetch pages; every title falls back", none⟩,
  ⟨"wait-secs", some "WAIT_SECS", "Seconds to wait for titles before printing", some "15"⟩,
  ⟨"pretty", none, "Human-readable logs instead of JSON", none⟩,
  ⟨"metrics", none, "Print Prometheus metrics after the results", none⟩]

/-- The option of a name. -/
def ofName? (name : String) : Option OptionSpec := all.find? fun spec => spec.name == name

/-- Whether a value may be given to the option. -/
def accepts (spec : OptionSpec) (value : List Char) : Bool :=
  match spec.name with
  | "corpus" => !value.isEmpty
  | "config" => !value.isEmpty
  | "time-option" => (TimeOption.parse value).isOk
  | "min-rating" => (rating? value).isSome
  | "wait-secs" => (seconds? value).isSome
  | _ => true

end OptionSpec

/-! ## Reading -/

/-- Options with the values given to them; a switch has an empty one. -/
abbrev Given := List (String × String)

/-- What an argument looks like. -/
inductive Argument where
  /-- Two hyphens: what follows are no options. -/
  | escape
  | long (name : String) (value : Option String)
  | short (letter : Char)
  | plain
deriving DecidableEq, Repr

/-- The look of an argument. A hyphen alone is a plain one. -/
def Argument.ofText (text : String) : Argument :=
  match text.toList with
  | ['-', '-'] => .escape
  | '-' :: '-' :: rest =>
    let name := String.ofList (rest.takeWhile (· != '='))
    match rest.dropWhile (· != '=') with
    | _ :: value => .long name (some (String.ofList value))
    | [] => .long name none
  | '-' :: letter :: _ => .short letter
  | _ => .plain

/-- With a value given to an option. -/
def Given.give (given : Given) (spec : OptionSpec) (value : String) : Except Invocation Given :=
  if (given.lookup spec.name).isSome then .error (.refuse (.repeated spec.name))
  else if spec.accepts value.toList then .ok (given ++ [(spec.name, value)])
  else .error (.refuse (.invalidValue spec.name value))

/-- What an option asks for that is only its name. -/
def Argument.explanation? (name : String) : Option Invocation :=
  match name with
  | "help" => some .help
  | "version" => some .version
  | _ => none

/-- One argument, with the option that waits for its value if there is one. -/
def Given.readOne (given : Given) (waiting : Option OptionSpec) (argument : String) :
    Except Invocation (Given × Option OptionSpec) :=
  match waiting, Argument.ofText argument with
  | some spec, .plain => do return (← given.give spec argument, none)
  | some spec, _ => .error (.refuse (.missingValue spec.name))
  | none, .plain => .error (.refuse (.unexpected argument))
  | none, .escape => .ok (given, none)
  | none, .short 'h' => .error .help
  | none, .short 'V' => .error .version
  | none, .short _ => .error (.refuse (.unexpected argument))
  | none, .long name value =>
    match Argument.explanation? name, OptionSpec.ofName? name, value with
    | some invocation, _, none => .error invocation
    | some _, _, some _ => .error (.refuse (.unneededValue name))
    | none, none, _ => .error (.refuse (.unexpected argument))
    | none, some spec, some value =>
      if spec.value.isSome then do return (← given.give spec value, none)
      else .error (.refuse (.unneededValue name))
    | none, some spec, none =>
      if spec.value.isSome then .ok (given, some spec)
      else do return (← given.give spec "", none)

/-- All arguments. Behind two hyphens nothing may follow. -/
def Given.read (given : Given) (waiting : Option OptionSpec) :
    List String → Except Invocation Given
  | [] =>
    match waiting with
    | none => .ok given
    | some spec => .error (.refuse (.missingValue spec.name))
  | argument :: rest => do
    let (next, waits) ← given.readOne waiting argument
    if Argument.ofText argument = .escape then
      match rest with
      | [] => return next
      | other :: _ => .error (.refuse (.unexpected other))
    else next.read waits rest

/-- The options that were given, and the defaults of the others. -/
def Given.options (given : Given) : Invocation :=
  match given.lookup "corpus" with
  | none => .refuse (.missingOption "corpus")
  | some corpus =>
    let switch (name : String) : Bool := (given.lookup name).isSome
    .run {
      corpus := corpus
      config := given.lookup "config"
      time :=
        match (given.lookup "time-option").map fun text => TimeOption.parse text.toList with
        | some (.ok time) => time
        | _ => .all
      minRating := ((given.lookup "min-rating").bind fun text => rating? text.toList).getD 1
      unreadOnly := switch "unread-only"
      suppressSelf := switch "suppress-self"
      suppressSingleSource := switch "suppress-single-source"
      ignored := given.lookup "ignore"
      guide := given.lookup "guide"
      isOffline := switch "offline"
      waitSeconds := ((given.lookup "wait-secs").bind fun text => seconds? text.toList).getD 15
      isPretty := switch "pretty"
      showsMetrics := switch "metrics" }

/-- What a command line asks for. -/
def Invocation.ofArguments (arguments : List String) : Invocation :=
  match Given.read [] none arguments with
  | .ok given => given.options
  | .error invocation => invocation

/-- The filter that the options describe. -/
def Options.filter (options : Options) : Except FilterError Filter := do
  let rated ← Filter.default.withMinRating options.minRating
  let settings := { rated with
    time := options.time
    unreadOnly := options.unreadOnly
    suppressSelf := options.suppressSelf
    suppressSingleSource := options.suppressSingleSource }
  let ignoring ← match options.ignored with
    | some keywords => settings.withIgnored keywords.toList
    | none => .ok settings
  match options.guide with
  | some guide => return ignoring.withGuide guide.toList
  | none => return ignoring

/-! ## The help -/

namespace OptionSpec

/-- The option as it is written. -/
def usage (spec : OptionSpec) : String :=
  "--" ++ spec.name ++ (match spec.value with
    | some value => " <" ++ value ++ ">"
    | none => "")

/-- What the help says of the option. -/
def explanation (spec : OptionSpec) : String :=
  spec.help ++ (match spec.default with
    | some value => " [default: " ++ value ++ "]"
    | none => "")

/-- The width of the widest option. -/
def width : Nat := (all.map fun spec => spec.usage.length).foldl max 0

/-- A line of the help. -/
def line (start usage explanation : String) : String :=
  start ++ usage ++ String.ofList (List.replicate (width + 2 - usage.length) ' ') ++ explanation

end OptionSpec

/-- The name of the program and its version. -/
def versionLine : String := "hotlinks 0.1.0"

/-- The text that explains the options. -/
def helpLines : List String := [
  "Lists the links most referenced across recent articles of a corpus", "",
  "Usage: hotlinks [OPTIONS] --corpus <CORPUS>", "",
  "Options:"] ++
  OptionSpec.all.map (fun spec => OptionSpec.line "      " spec.usage spec.explanation) ++ [
  OptionSpec.line "  -h, " "--help" "Print help",
  OptionSpec.line "  -V, " "--version" "Print version"]

end LinkDigest
