import CalcShell.Text.DecimalDigit
import CalcShell.Text.Quoted

/-!
# The command line

The arguments of the program are flags, with or without a value, and the path of
a script.  A long flag may be shortened as long as only one flag begins that way,
and takes its value behind an equals sign or from the next argument.  Short flags
can be written together behind one dash, the last of them with its value; an equals
sign may stand behind the first of them.  An
argument that looks like a negative number, that holds a space or that is a lone
dash is no flag, and neither is what follows a double dash.
-/

namespace CalcShell.CommandLine

open Text

inductive Flag where
  | help
  | eval
  | interactive
  | trace
  | version
  deriving DecidableEq, Repr

/-- The value of a flag.  A double dash never counts as one: given as the value it leaves
nothing behind. -/
inductive FlagValue where
  | text (text : String)
  | nothing
  deriving DecidableEq, Repr

def FlagValue.ofChars (value : List Char) : FlagValue :=
  if value = ['-', '-'] then .nothing else .text (String.ofList value)

/-- What a flag, with its value if it has one, asks for. -/
inductive Action where
  | showHelp
  | showVersion
  | evaluate (expression : FlagValue)
  | interact
  | trace
  deriving DecidableEq, Repr

namespace Flag

/-- All flags, in the order in which they are listed. -/
def all : List Flag :=
  [.help, .eval, .interactive, .trace, .version]

def letter? : Flag → Option Char
  | .help => some 'h'
  | .eval => some 'e'
  | .interactive => some 'i'
  | .trace | .version => none

def longName : Flag → String
  | .help => "--help"
  | .eval => "--eval"
  | .interactive => "--interactive"
  | .trace => "--debug"
  | .version => "--version"

def shown (flag : Flag) : String :=
  match flag.letter? with
  | some letter => s!"-{letter}/{flag.longName}"
  | none => flag.longName

/-- What a flag asks for by itself; the one that evaluates an expression needs a value. -/
def action? : Flag → Option Action
  | .help => some .showHelp
  | .eval => none
  | .interactive => some .interact
  | .trace => some .trace
  | .version => some .showVersion

def ofLetter? (letter : Char) : Option Flag :=
  all.find? fun flag => flag.letter? == some letter

/-- The flags whose long name begins in a given way. -/
def startingWith (beginning : List Char) : List Flag :=
  all.filter fun flag => beginning.isPrefixOf flag.longName.toList

end Flag

inductive Argument where
  | positional (text : String)
  | separator
  /-- A short flag with what follows its letter. -/
  | short (flag : Flag) (tail : List Char)
  /-- A long flag with what follows an equals sign. -/
  | long (flag : Flag) (value? : Option (List Char))
  | unknown (text : String)
  deriving DecidableEq, Repr

inductive UsageError where
  | ambiguous (argument : String) (candidates : List Flag)
  | valueMissing (flag : Flag)
  | valueIgnored (flag : Flag) (value : List Char)
  | unrecognized (arguments : List String)
  deriving DecidableEq, Repr

def UsageError.message : UsageError → String
  | .ambiguous argument candidates =>
    let names := ", ".intercalate (candidates.map Flag.longName)
    s!"ambiguous option: {argument} could match {names}"
  | .valueMissing flag => s!"argument {flag.shown}: expected one argument"
  | .valueIgnored flag value =>
    s!"argument {flag.shown}: ignored explicit argument {String.ofList (quotedChars value)}"
  | .unrecognized arguments => "unrecognized arguments: " ++ " ".intercalate arguments

/-- Whether characters are decimal digits, and at least one. -/
def isDigits (text : List Char) : Bool :=
  text ≠ [] && text.all fun char => (decimalDigit? char).isSome

/-- Whether a text looks like a negative number: a dash, then digits, perhaps with a point
before or among them.  A line feed at the end does not count. -/
def looksNegative (text : List Char) : Bool :=
  match text with
  | '-' :: rest =>
    let number := if rest.getLast? = some '\n' then rest.dropLast else rest
    let whole := number.takeWhile (· != '.')
    match number.dropWhile (· != '.') with
    | [] => isDigits whole
    | _ :: fraction => (whole = [] || isDigits whole) && isDigits fraction
  | _ => false

/-- Classifies an argument that begins with a dash and names no flag. -/
def classifyOther (argument : String) : Argument :=
  if looksNegative argument.toList || argument.toList.contains ' ' then .positional argument
  else .unknown argument

/-- Classifies an argument that begins with two dashes. -/
def classifyLong (argument : String) : Except UsageError Argument :=
  let text := argument.toList
  let beginning := text.takeWhile (· != '=')
  let value? :=
    match text.dropWhile (· != '=') with
    | [] => none
    | _ :: value => some value
  match Flag.startingWith beginning with
  | [] => .ok (classifyOther argument)
  | [flag] => .ok (.long flag value?)
  | flags => .error (.ambiguous argument flags)

/-- Classifies an argument in front of which no double dash stands. -/
def classify (argument : String) : Except UsageError Argument :=
  match argument.toList with
  | '-' :: '-' :: _ => classifyLong argument
  | '-' :: letter :: tail =>
    match Flag.ofLetter? letter with
    | some flag => .ok (.short flag tail)
    | none => .ok (classifyOther argument)
  | _ => .ok (.positional argument)

/-- Classifies all arguments.  Behind a double dash all are positional. -/
def classifyAll : List String → Except UsageError (List Argument)
  | [] => .ok []
  | argument :: rest =>
    if argument = "--" then .ok (.separator :: rest.map .positional)
    else return (← classify argument) :: (← classifyAll rest)

structure Settings where
  script? : Option String
  expression? : Option FlagValue
  interactive : Bool
  tracing : Bool
  /-- Whether a script may still be named. -/
  scriptOpen : Bool
  /-- Arguments that nothing was made of. -/
  extras : List String
  deriving DecidableEq, Repr

def Settings.initial : Settings :=
  ⟨none, none, false, false, true, []⟩

/-- How the reading of the arguments ends. -/
inductive Reading where
  | settings (settings : Settings)
  | help
  | version
  | refused (error : UsageError)
  deriving DecidableEq, Repr

/-- The actions that one argument asks for, and whether the last of them took its value from
the next argument. -/
structure Cluster where
  actions : List Action
  usesNext : Bool
  deriving DecidableEq, Repr

/-- The action of a flag that has no value attached to it.  If it needs one, that is the
next argument. -/
def readBare (next? : Option String) (flag : Flag) : Except UsageError Cluster :=
  match flag.action?, next? with
  | some action, _ => .ok ⟨[action], false⟩
  | none, some value => .ok ⟨[.evaluate (.text value)], true⟩
  | none, none => .error (.valueMissing flag)

/-- The action of a long flag that has a value attached to it. -/
def readAttached (flag : Flag) (value : List Char) : Except UsageError Cluster :=
  match flag.action? with
  | some _ => .error (.valueIgnored flag value)
  | none => .ok ⟨[.evaluate (.ofChars value)], false⟩

/-- The actions of a short flag that has something attached to it: its value if it needs
one, and the letters of further flags if not. -/
def readLetters (next? : Option String) (flag : Flag) (attached : List Char) :
    Except UsageError Cluster :=
  match flag.action?, attached with
  | none, value => .ok ⟨[.evaluate (.ofChars value)], false⟩
  | some _, [] => .error (.valueIgnored flag [])
  | some action, letter :: rest =>
    match Flag.ofLetter? letter with
    | none => .error (.valueIgnored flag (letter :: rest))
    | some following => do
      let cluster ←
        match rest with
        | [] => readBare next? following
        | other :: others => readLetters next? following (other :: others)
      return { cluster with actions := action :: cluster.actions }

/-- The actions of an argument that begins with a short flag. -/
def readShort (next? : Option String) (flag : Flag) (tail : List Char) :
    Except UsageError Cluster :=
  match tail with
  | [] => readBare next? flag
  | '=' :: value => readLetters next? flag value
  | attached => readLetters next? flag attached

/-- The action of an argument that is a long flag. -/
def readLong (next? : Option String) (flag : Flag) (value? : Option (List Char)) :
    Except UsageError Cluster :=
  match value? with
  | none => readBare next? flag
  | some value => readAttached flag value

namespace Settings

/-- Lets an action take effect.  Two of them end the reading. -/
def act (settings : Settings) : Action → Except Reading Settings
  | .showHelp => .error .help
  | .showVersion => .error .version
  | .evaluate expression => .ok { settings with expression? := some expression }
  | .interact => .ok { settings with interactive := true }
  | .trace => .ok { settings with tracing := true }

/-- The settings with some more arguments that nothing was made of. -/
def withExtras (settings : Settings) (extras : List String) : Settings :=
  { settings with extras := settings.extras ++ extras }

def takeCluster (settings : Settings) (cluster : Except UsageError Cluster) :
    Except Reading (Settings × Bool) :=
  match cluster with
  | .error error => .error (.refused error)
  | .ok cluster => return (← cluster.actions.foldlM act settings, cluster.usesNext)

/-- The settings with a script, if none has been named before. -/
def takeScript (settings : Settings) (text : String) : Settings :=
  { settings with script? := some text, scriptOpen := false }

end Settings

/-- What a flag would take as its value: the next argument, if it is positional. -/
def nextValue? : List Argument → Option String
  | .positional value :: _ => some value
  | _ => none

/-- Reads classified arguments one after the other.  A script can be named once, and a
double dash directly before or behind it counts as part of it. -/
def readAll (settings : Settings) : List Argument → Except Reading Settings
  | [] => .ok settings
  | .positional text :: .separator :: rest =>
    if settings.scriptOpen then readAll (settings.takeScript text) rest
    else readAll (settings.withExtras [text, "--"]) rest
  | .positional text :: rest =>
    if settings.scriptOpen then readAll (settings.takeScript text) rest
    else readAll (settings.withExtras [text]) rest
  | .separator :: rest =>
    if settings.scriptOpen then readAll settings rest
    else readAll (settings.withExtras ["--"]) rest
  | .unknown text :: rest => readAll (settings.withExtras [text]) rest
  | .short flag tail :: rest => do
    let (taken, usesNext) ← settings.takeCluster (readShort (nextValue? rest) flag tail)
    if usesNext then readAll taken rest.tail else readAll taken rest
  | .long flag value? :: rest => do
    let (taken, usesNext) ← settings.takeCluster (readLong (nextValue? rest) flag value?)
    if usesNext then readAll taken rest.tail else readAll taken rest
termination_by arguments => arguments.length

def read (arguments : List String) : Reading :=
  match classifyAll arguments with
  | .error error => .refused error
  | .ok classified =>
    match readAll .initial classified with
    | .error reading => reading
    | .ok settings =>
      if settings.extras = [] then .settings settings
      else .refused (.unrecognized settings.extras)

end CalcShell.CommandLine
