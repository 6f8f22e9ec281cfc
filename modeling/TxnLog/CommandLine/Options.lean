import TxnLog.Text.DecimalDigit

/-!
# Command-line options

The command line names one log file and options. A long option may be shortened as long as it
stays unambiguous, and its value may follow after `=`; short options may be joined; after `--`
nothing is an option, and a lone `-` never is one. Words are first told apart one by one and
then taken in order.

Two dashes count nowhere as a text: where they are attached as a value, the option is given but
has none.
-/

namespace TxnLog.CommandLine

/-- What is given for an option that takes a value. -/
inductive Given where
  /-- The option is not given. -/
  | absent
  /-- The option is given, but in the place of its value stand two dashes. -/
  | valueless
  | value (s : String)
  deriving DecidableEq, Repr

/-- The value that is given. -/
def Given.value? : Given → Option String
  | .value s => some s
  | .absent | .valueless => none

/-- What the command line asks for. -/
structure Options where
  /-- The log file. -/
  logFile : String
  /-- Print dumps and announce waits. -/
  verbose : Bool := false
  /-- Print the data of transactions. -/
  showData : Bool := false
  /-- The settings file. -/
  config : Given := .absent
  /-- The level of diagnostics. -/
  logLevel : Given := .absent
  /-- The format of diagnostics. -/
  logFormat : Given := .absent
  deriving DecidableEq, Repr

/-- Why a command line asks for nothing that could be done. -/
inductive Stop where
  /-- It asks for help. -/
  | help
  /-- It is malformed. -/
  | usage
  deriving DecidableEq, Repr

/-- The exit codes. -/
inductive ExitCode where
  | success
  | failure
  | usage
  | interrupted
  deriving DecidableEq, Repr

/-- The number of an exit code. -/
def ExitCode.status : ExitCode → Nat
  | .success => 0
  | .failure => 1
  | .usage => 2
  | .interrupted => 130

/-- The exit code of a program that stops. -/
def Stop.code : Stop → ExitCode
  | .help => .success
  | .usage => .usage

/-- The options. -/
inductive Flag where
  | help
  | verbose
  | showData
  | config
  | logLevel
  | logFormat
  deriving DecidableEq, Repr

namespace Flag

/-- The names of the options. -/
def names : List (String × Flag) := [
  ("-h", .help), ("--help", .help), ("-v", .verbose), ("--verbose", .verbose),
  ("--show-data", .showData), ("--config", .config), ("--log-level", .logLevel),
  ("--log-format", .logFormat)]

/-- The option takes a value. -/
def takesValue : Flag → Bool
  | .help | .verbose | .showData => false
  | .config | .logLevel | .logFormat => true

/-- The values that the option takes; `none` means any. -/
def choices? : Flag → Option (List String)
  | .logLevel => some ["DEBUG", "INFO", "WARNING", "ERROR"]
  | .logFormat => some ["console", "json"]
  | _ => none

end Flag

/-- A word of the command line. -/
inductive Word where
  /-- The two dashes after which nothing is an option. -/
  | separator
  | argument (s : String)
  /-- An option, with the characters after `=`, or after the letter of a short option. -/
  | option (flag : Flag) (isLong : Bool) (attached : Option (List Char))
  /-- What looks like an option but is none. -/
  | unknown

/-- The characters before and after the first `=`. -/
def splitEquals (cs : List Char) : Option (List Char × List Char) :=
  match cs.dropWhile (· ≠ '=') with
  | [] => none
  | _ :: value => some (cs.takeWhile (· ≠ '='), value)

/-- A negative number: a dash, digits, and perhaps a point followed by digits. -/
def isNegativeNumber : List Char → Bool
  | '-' :: cs =>
    let isDigit (c : Char) : Bool := (Text.digitValue? c).isSome
    let cs := if cs.getLast? = some '\n' then cs.dropLast else cs
    match cs.dropWhile isDigit with
    | [] => !cs.isEmpty
    | '.' :: fraction => !fraction.isEmpty && fraction.all isDigit
    | _ => false
  | _ => false

/-- The option of exactly this name. -/
def Flag.ofName? (cs : List Char) : Option Flag := Flag.names.lookup (String.ofList cs)

/-- The options that a word with two dashes may be short for, with its value. -/
def longCandidates (cs : List Char) : List Word :=
  let (name, attached) : List Char × Option (List Char) := match splitEquals cs with
    | some (name, value) => (name, some value)
    | none => (cs, none)
  (Flag.names.filter fun (full, _) => name.isPrefixOf full.toList).map fun (_, flag) =>
    .option flag true attached

/-- The options that a word with one dash may be, with what is joined to it. -/
def shortCandidates (cs : List Char) : List Word :=
  (Flag.ofName? (cs.take 2)).toList.map fun flag => .option flag false (some (cs.drop 2))

/-- The option that a word names in full, with the value attached by `=`. -/
def inFull? (cs : List Char) : Option Word :=
  let isLong := cs.take 2 = ['-', '-']
  match Flag.ofName? cs with
  | some flag => some (.option flag isLong none)
  | none => do
    let (name, value) ← splitEquals cs
    let flag ← Flag.ofName? name
    return .option flag isLong (some value)

/-- Tells what kind of word this is. -/
def classify (s : String) : Except Stop Word :=
  let cs := s.toList
  match cs with
  | '-' :: second :: _ =>
    match inFull? cs with
    | some w => .ok w
    | none =>
      match if second = '-' then longCandidates cs else shortCandidates cs with
      | [w] => .ok w
      | _ :: _ :: _ => .error .usage
      | [] =>
        if isNegativeNumber cs ∨ cs.contains ' ' then .ok (.argument s) else .ok .unknown
  | _ => .ok (.argument s)

/-- Tells what kind of word each is, up to `--`, after which all are arguments. -/
def classifyAll : List String → Except Stop (List Word)
  | [] => .ok []
  | s :: more =>
    if s = "--" then .ok (.separator :: more.map .argument)
    else do
      let w ← classify s
      return w :: (← classifyAll more)

/-- What the words taken so far ask for. -/
structure Progress where
  /-- The log file, once it is met. -/
  logFile : Option String := none
  verbose : Bool := false
  showData : Bool := false
  config : Given := .absent
  logLevel : Given := .absent
  logFormat : Given := .absent
  /-- There are words that nobody asked for. -/
  surplus : Bool := false

namespace Progress

/-- Takes an option without a value. -/
def takeFlag (p : Progress) : Flag → Except Stop Progress
  | .help => .error .help
  | .verbose => .ok { p with verbose := true }
  | .showData => .ok { p with showData := true }
  | _ => .ok p

/-- Takes an option with what is given for it, if it may have that value. -/
def takeGiven (p : Progress) (flag : Flag) (given : Given) : Except Stop Progress :=
  let allowed := match flag.choices?, given.value? with
    | some choices, some value => choices.contains value
    | _, _ => true
  if allowed then
    match flag with
    | .config => .ok { p with config := given }
    | .logLevel => .ok { p with logLevel := given }
    | .logFormat => .ok { p with logFormat := given }
    | _ => .ok p
  else .error .usage

/-- Takes short options that are joined: `flag` and one for each letter behind it. None of them
counts unless all the letters name options. -/
def takeJoined (p : Progress) (flag : Flag) (letters : List Char) : Except Stop Progress :=
  match letters.mapM fun c => Flag.ofName? ['-', c] with
  | some (next :: more) => (flag :: next :: more).foldlM takeFlag p
  | _ => .error .usage

/-- Takes an option and perhaps the word after it, which is its value. -/
def takeOption (p : Progress) (flag : Flag) (isLong : Bool) (attached : Option (List Char))
    (after : List Word) : Except Stop (Progress × List Word) :=
  match attached with
  | some value =>
    if flag.takesValue then
      let given := if value = ['-', '-'] then .valueless else .value (String.ofList value)
      (p.takeGiven flag given).map (·, after)
    else if isLong then .error .usage
    else (p.takeJoined flag value).map (·, after)
  | none =>
    if flag.takesValue then
      match after with
      | .argument value :: after => (p.takeGiven flag (.value value)).map (·, after)
      | _ => .error .usage
    else (p.takeFlag flag).map (·, after)

/-- A result paired with the words left leaves these words. -/
theorem eq_of_map_pair {r : Except Stop Progress} {q : Progress} {after rest : List Word}
    (h : r.map (·, after) = .ok (q, rest)) : after = rest := by
  cases r <;> simp_all [Except.map]

/-- An option takes words, it does not add any. -/
theorem length_of_takeOption {p q : Progress} {flag : Flag} {isLong : Bool}
    {attached : Option (List Char)} {after rest : List Word}
    (h : p.takeOption flag isLong attached after = .ok (q, rest)) :
    rest.length ≤ after.length := by
  unfold takeOption at h
  split at h
  · split at h
    · exact Nat.le_of_eq (congrArg List.length (eq_of_map_pair h).symm)
    · split at h
      · simp at h
      · exact Nat.le_of_eq (congrArg List.length (eq_of_map_pair h).symm)
  · split at h
    · split at h
      · rw [← eq_of_map_pair h]; simp
      · simp at h
    · exact Nat.le_of_eq (congrArg List.length (eq_of_map_pair h).symm)

/-- Takes the words in order. The log file is the first argument; two dashes next to it belong
to it, elsewhere they are surplus. -/
def takeAll (p : Progress) : List Word → Except Stop Progress
  | [] => .ok p
  | .option flag isLong attached :: after =>
    match _h : p.takeOption flag isLong attached after with
    | .ok (q, rest) => takeAll q rest
    | .error stop => .error stop
  | .unknown :: after => takeAll { p with surplus := true } after
  | .argument s :: .separator :: after =>
    if p.logFile.isNone then takeAll { p with logFile := some s } after
    else takeAll { p with surplus := true } after
  | .separator :: .argument s :: after =>
    if p.logFile.isNone then takeAll { p with logFile := some s } after
    else takeAll { p with surplus := true } after
  | .argument s :: after =>
    if p.logFile.isNone then takeAll { p with logFile := some s } after
    else takeAll { p with surplus := true } after
  | .separator :: after => takeAll { p with surplus := true } after
termination_by words => words.length
decreasing_by
  · have := length_of_takeOption _h
    simp only [List.length_cons]
    omega
  all_goals simp only [List.length_cons]; omega

end Progress

/-- The options of a command line. -/
def Options.parse (words : List String) : Except Stop Options := do
  let p ← Progress.takeAll {} (← classifyAll words)
  match p.logFile with
  | none => .error .usage
  | some logFile =>
    if p.surplus then .error .usage
    else .ok {
      logFile
      verbose := p.verbose
      showData := p.showData
      config := p.config
      logLevel := p.logLevel
      logFormat := p.logFormat }

end TxnLog.CommandLine
