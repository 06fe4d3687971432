import SiteCache.Command.Verbosity
import SiteCache.Settings
import SiteCache.Text.Number

/-!
# Options

The words of a command line are options, each at most once and some with a value, and operands: an
address and a resource.  `Words.read` sorts them, `Words.withVariables` lets environment variables
stand for options that are not among the words, and `Options.ofWords` gives both their meaning.  A
request for help or for the version is answered as soon as it is met, and so is a word that fits
nothing.
-/

namespace SiteCache

/-- The names of the options. -/
inductive OptionName where
  | nodeUrl
  | config
  | cacheDir
  | maxRam
  | maxDisk
  | noCache
  | timeout
  | output
  | logLevel
  | logJson
  deriving DecidableEq

/-- What is wrong with a command line. -/
inductive Misuse where
  | unknown (word : String)
  | repeated (option : OptionName)
  | noValue (option : OptionName)
  | value (option : OptionName) (word : String)
  | extraOperand (word : String)
  | noAddress
  deriving DecidableEq

/-- Why a command line asks for no run. -/
inductive Usage where
  | help
  | version
  | misuse (fault : Misuse)
  deriving DecidableEq

/-- What an option takes. -/
inductive ValueKind where
  /-- No value, but `true` or `false` in a variable. -/
  | flag
  | text
  /-- A text that is not empty. -/
  | path
  /-- A number below `2^64`. -/
  | number
  deriving DecidableEq

/-- The number that a word writes. -/
def ValueKind.number? (word : String) : Option Nat := Number.parse? 10 wordBound word.toList

/-- A word can be a value of this kind. -/
def ValueKind.admits (word : String) : ValueKind → Bool
  | .flag => word = "true" || word = "false"
  | .text => true
  | .path => !word.isEmpty
  | .number => (number? word).isSome

namespace OptionName

/-- All options. -/
def all : List OptionName :=
  [nodeUrl, config, cacheDir, maxRam, maxDisk, noCache, timeout, output, logLevel, logJson]

/-- The word of an option, behind two dashes. -/
def word : OptionName → String
  | nodeUrl => "node-url"
  | config => "config"
  | cacheDir => "cache-dir"
  | maxRam => "max-ram-entries"
  | maxDisk => "max-disk-entries"
  | noCache => "no-cache"
  | timeout => "request-timeout-seconds"
  | output => "output"
  | logLevel => "log-level"
  | logJson => "log-json"

/-- The letter of an option, behind one dash. -/
def letter : OptionName → Option Char
  | output => some 'o'
  | _ => none

/-- The environment variable that stands for an option. -/
def variableName : OptionName → Option String
  | nodeUrl => some "NODE_URL"
  | config => some "DEWEB_CONFIG"
  | cacheDir => some "DEWEB_CACHE_DIR"
  | maxRam => some "DEWEB_MAX_RAM_ENTRIES"
  | maxDisk => some "DEWEB_MAX_DISK_ENTRIES"
  | noCache => some "DEWEB_NO_CACHE"
  | timeout => some "REQUEST_TIMEOUT_SECONDS"
  | output => none
  | logLevel => some "LOG_LEVEL"
  | logJson => some "LOG_JSON"

/-- What an option takes. -/
def takes : OptionName → ValueKind
  | noCache => .flag
  | logJson => .flag
  | nodeUrl => .text
  | logLevel => .text
  | config => .path
  | cacheDir => .path
  | output => .path
  | maxRam => .number
  | maxDisk => .number
  | timeout => .number

end OptionName

/-- The options and operands of a command line. -/
structure Words where
  given : List (OptionName × String) := []
  operands : List String := []
  deriving DecidableEq

namespace Words

/-- With one more option. -/
def give (w : Words) (name : OptionName) (value : String) : Except Usage Words :=
  if (w.given.lookup name).isSome then .error (.misuse (.repeated name))
  else if name.takes.admits value then .ok { w with given := (name, value) :: w.given }
  else .error (.misuse (.value name value))

/-- With one more operand; there are at most two. -/
def addOperand (w : Words) (word : String) : Except Usage Words :=
  if w.operands.length < 2 then .ok { w with operands := w.operands ++ [word] }
  else .error (.misuse (.extraOperand word))

/-- What a word of a command line is. -/
inductive Shape where
  | operand
  /-- Behind this word there are operands only. -/
  | rest
  | option (name : OptionName) (value : Option String)
  | ask (usage : Usage)

/-- The shape of a word behind two dashes, which may hold a value behind an equality sign. -/
def longShape (cs : List Char) : Shape :=
  let word := String.ofList (cs.takeWhile (· ≠ '='))
  let value := match cs.dropWhile (· ≠ '=') with
    | [] => none
    | _ :: rest => some (String.ofList rest)
  match OptionName.all.find? (·.word = word) with
  | some name =>
    if name.takes = .flag ∧ value.isSome then .ask (.misuse (.value name (value.getD "")))
    else .option name value
  | none =>
    match word, value with
    | "help", none => .ask .help
    | "version", none => .ask .version
    | _, _ => .ask (.misuse (.unknown (String.ofList cs)))

/-- The shape of a word with this letter behind one dash; a value may follow the letter, with or
without an equality sign. -/
def shortShape (letter : Char) (rest : List Char) : Shape :=
  match OptionName.all.find? (·.letter = some letter) with
  | some name =>
    .option name (match rest with
      | [] => none
      | '=' :: value => some (String.ofList value)
      | value => some (String.ofList value))
  | none =>
    if letter = 'h' then .ask .help
    else if letter = 'V' then .ask .version
    else .ask (.misuse (.unknown (String.singleton letter)))

/-- The shape of a word. -/
def shape (word : String) : Shape :=
  match word.toList with
  | ['-', '-'] => .rest
  | '-' :: '-' :: cs => longShape cs
  | '-' :: letter :: rest => shortShape letter rest
  | _ => .operand

/-- The word can follow an option as its value. -/
def isValue (word : String) : Bool :=
  match shape word with
  | .operand => true
  | _ => false

/-- Reads the words of a command line behind those that are read already. -/
def read (w : Words) : List String → Except Usage Words
  | [] => .ok w
  | word :: rest =>
    match shape word with
    | .ask usage => .error usage
    | .rest => rest.foldlM addOperand w
    | .operand => (w.addOperand word).bind fun w => read w rest
    | .option name (some value) => (w.give name value).bind fun w => read w rest
    | .option name none =>
      if name.takes = .flag then (w.give name "true").bind fun w => read w rest
      else
        match rest with
        | [] => .error (.misuse (.noValue name))
        | value :: rest =>
          if isValue value then (w.give name value).bind fun w => read w rest
          else .error (.misuse (.noValue name))

/-- Lets the variables stand for the options that are not given. -/
def withVariables (w : Words) (value? : String → Option String) : Except Usage Words :=
  OptionName.all.foldlM (fun w name =>
    match name.variableName.bind value? with
    | none => .ok w
    | some value => if (w.given.lookup name).isSome then .ok w else w.give name value) w

end Words

/-- What a run is asked to do. -/
structure Options where
  address : String
  resource : String := "index.html"
  settingsFile : Option String := none
  nodeUrl : Option String := none
  directory : Option String := none
  maxRam : Option Nat := none
  maxDisk : Option Nat := none
  noCache : Bool := false
  timeoutSeconds : Nat := 30
  output : Option String := none
  rules : List VerbosityRule := []
  logJson : Bool := false
  deriving DecidableEq

namespace Options

/-- The meaning of the words of a command line. -/
def ofWords (w : Words) : Except Usage Options :=
  let value (name : OptionName) : Option String := w.given.lookup name
  let number (name : OptionName) : Option Nat := (value name).bind ValueKind.number?
  let flag (name : OptionName) : Bool := value name = some "true"
  match w.operands with
  | [] => .error (.misuse .noAddress)
  | address :: more =>
    .ok
      { address
        resource := more.head?.getD "index.html"
        settingsFile := value .config
        nodeUrl := value .nodeUrl
        directory := value .cacheDir
        maxRam := number .maxRam
        maxDisk := number .maxDisk
        noCache := flag .noCache
        timeoutSeconds := (number .timeout).getD 30
        output := value .output
        rules := [{ least := some (Level.ofText ((value .logLevel).getD "info")) }]
        logJson := flag .logJson }

/-- The variable with further rules about messages. -/
def rulesVariable : String := "RUST_LOG"

/-- The options of a command line with an environment.  The level that the options give replaces a
level for all sources in the variable. -/
def parse (words : List String) (environment : String → Option String) : Except Usage Options := do
  let o ← ofWords (← (← Words.read {} words).withVariables environment)
  let further := VerbosityRule.readAll ((environment rulesVariable).getD "")
  pure { o with rules := further ++ o.rules }

/-- The settings with the options in place of what they override. -/
def override (o : Options) (s : Settings) : Settings :=
  { s with
    nodeUrl := o.nodeUrl.or s.nodeUrl
    cache :=
      { s.cache with
        enabled := s.cache.enabled && !o.noCache
        maxRam := o.maxRam.getD s.cache.maxRam
        maxDisk := o.maxDisk.getD s.cache.maxDisk
        directory := o.directory.getD s.cache.directory } }

end Options

/-- The text of a misuse. -/
def Misuse.text : Misuse → String
  | .unknown word => "unexpected argument '" ++ word ++ "'"
  | .repeated option => "the option '--" ++ option.word ++ "' stands more than once"
  | .noValue option => "the option '--" ++ option.word ++ "' needs a value"
  | .value option word => "invalid value '" ++ word ++ "' for '--" ++ option.word ++ "'"
  | .extraOperand word => "unexpected argument '" ++ word ++ "'"
  | .noAddress => "an address is required"

/-- How the command is used. -/
def Usage.synopsis : String :=
  "Usage: deweb-cache [OPTIONS] <ADDRESS> [RESOURCE]\n"
    ++ String.join (OptionName.all.map fun name =>
      "      --" ++ name.word ++ (if name.takes = .flag then "" else " <VALUE>") ++ "\n")

/-- The name of the command and its version. -/
def Usage.versionText : String := "deweb-cache 0.1.0\n"

end SiteCache
