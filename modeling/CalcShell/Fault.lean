import CalcShell.Text.Quoted

/-!
# Faults

A fault is a failure of an operation on values or on a table of variables.  Each
cause has its own constructor; `Fault.message` gives the words and
`Fault.category` the kind of failure under which it is reported.  What a lookup
in a foreign environment reports is carried along as it came.  Only the words
about a table that was stopped are a stand-in: the surroundings, which keep the
table, word it with a name that they have given to it.
-/

namespace CalcShell

open Text

inductive Category where
  | value
  | type
  | key
  | attribute
  | overflow
  | runtime
  | recursion
  | notImplemented
  | directory
  | shell
  | cast
  | unsupported
  | deadActor
  | packing
  | memory
  | notDirectory
  | system
  /-- A kind of failure that only the surroundings of the shell know. -/
  | foreign (label : String)
  deriving DecidableEq, Repr

/-- The name under which a kind of failure is reported. -/
def Category.label : Category → String
  | .value => "ValueError"
  | .type => "TypeError"
  | .key => "KeyError"
  | .attribute => "AttributeError"
  | .overflow => "OverflowError"
  | .runtime => "RuntimeError"
  | .recursion => "RecursionError"
  | .notImplemented => "NotImplementedError"
  | .directory => "IsADirectoryError"
  | .shell => "DshError"
  | .cast => "CastError"
  | .unsupported => "UnsupportedOperationError"
  | .deadActor => "ActorDeadError"
  | .packing => "error"
  | .memory => "MemoryError"
  | .notDirectory => "NotADirectoryError"
  | .system => "OSError"
  | .foreign label => label

/-- The kinds of failure that the shell itself knows. -/
def Category.known : List Category :=
  [.value, .type, .key, .attribute, .overflow, .runtime, .recursion, .notImplemented,
    .directory, .shell, .cast, .unsupported, .deadActor, .packing, .memory, .notDirectory,
    .system]

def Category.ofLabel (label : String) : Category :=
  (known.find? fun category => category.label == label).getD (.foreign label)

/-- Integers with more decimal digits than this are neither read nor written. -/
def digitLimit : Nat := 4300

/-- Why an operation failed. -/
inductive Fault where
  /-- A value was asked for a form that values of its type do not have. -/
  | castFailed (typeName target : String)
  | operandsNotNumeric (operation : String)
  | blankTypeName
  | invalidVariableName (shown : String)
  /-- A variable was to be bound to something that is no value. -/
  | valueExpected (name className : String)
  | integerExpected (className : String)
  | textExpected (className : String)
  /-- A type was to be registered that is none. -/
  | classExpected (shown : String)
  /-- An integer was to be wrapped to no bits at all. -/
  | negativeShift
  /-- An integer was to be wrapped to more bits than any integer has. -/
  | integerTooWide
  /-- An integer was to be wrapped to more bits than there is memory for. -/
  | memoryExceeded
  /-- A text was read as a number, and is none. -/
  | unreadableNumber (shown : String)
  /-- A double was to be made of something that is neither a text nor a number. -/
  | numberExpected (className : String)
  | realExpected (className : String)
  /-- An operation met operands of classes that it does not take. -/
  | operandsRefused (symbol leftClass rightClass : String)
  | notComparable (symbol leftClass rightClass : String)
  /-- A number of single precision was to be packed, and there is none. -/
  | singleExpected
  /-- An infinity was to be cut down to an integer. -/
  | infinityNotInteger
  | quotientTooLarge
  /-- A text was expected where something else is stored. -/
  | trimMissing (className : String)
  | integerTooLarge
  /-- An integer was read that has more digits than the limit. -/
  | numeralTooLong (digits : Nat)
  /-- An integer was written that has more digits than the limit. -/
  | integerTooLong
  /-- Members were asked of something that has none. -/
  | notIterable (className : String)
  /-- A map was made of elements one of which is no pair because it has no members. -/
  | elementNotSequence (index : Nat)
  /-- A map was made of elements one of which has too few or too many members. -/
  | elementLength (index length : Nat)
  /-- A map was given a key that cannot be one. -/
  | unhashable (className : String)
  | notImplemented
  /-- A file was to be read that is a directory. -/
  | isDirectory (path : String)
  /-- A file was to be read under a path that goes on behind a file. -/
  | notDirectory (path : String)
  /-- A path has a name that no file can have for its length. -/
  | nameTooLong (path : String)
  /-- A path holds the character that ends all paths. -/
  | nullInPath
  /-- A table that is shared was used after its end. -/
  | tableStopped
  /-- A lookup reported a failure of its own. -/
  | reported (category : Category) (detail : String)
  deriving DecidableEq, Repr

namespace Fault

def category : Fault → Category
  | .castFailed .. => .cast
  | .operandsNotNumeric _ => .unsupported
  | .blankTypeName | .invalidVariableName _ | .negativeShift | .unreadableNumber _
  | .numeralTooLong _ | .integerTooLong | .elementLength .. | .nullInPath => .value
  | .valueExpected .. | .integerExpected _ | .textExpected _ | .classExpected _
  | .numberExpected _ | .realExpected _ | .operandsRefused .. | .notComparable ..
  | .notIterable _ | .elementNotSequence _ | .unhashable _ => .type
  | .trimMissing _ => .attribute
  | .integerTooLarge | .integerTooWide | .infinityNotInteger | .quotientTooLarge => .overflow
  | .memoryExceeded => .memory
  | .singleExpected => .packing
  | .notImplemented => .notImplemented
  | .isDirectory _ => .directory
  | .notDirectory _ => .notDirectory
  | .nameTooLong _ => .system
  | .tableStopped => .deadActor
  | .reported category _ => category

/-- The remark that ends the message about an integer with too many digits. -/
def limitAdvice : String :=
  "; use sys.set_int_max_str_digits() to increase the limit"

/-- The beginning of the message about an integer with too many digits. -/
def limitNotice : String :=
  s!"Exceeds the limit ({digitLimit} digits) for integer string conversion"

def message : Fault → String
  | .castFailed typeName target => s!"Cannot cast {typeName} to {target}"
  | .operandsNotNumeric operation => s!"{operation} requires numeric types"
  | .blankTypeName => "Custom type name must be a non-empty string"
  | .invalidVariableName shown => s!"Invalid variable name: {shown}"
  | .valueExpected name className => s!"Expected Value for '{name}', got {className}"
  | .integerExpected className => s!"Expected int, got {className}"
  | .textExpected className => s!"Expected str, got {className}"
  | .classExpected shown => s!"Expected a class, got {shown}"
  | .negativeShift => "negative shift count"
  | .integerTooWide => "too many digits in integer"
  | .memoryExceeded => ""
  | .unreadableNumber shown => s!"could not convert string to float: {shown}"
  | .numberExpected className =>
    s!"float() argument must be a string or a real number, not '{className}'"
  | .realExpected className => s!"must be real number, not {className}"
  | .operandsRefused symbol leftClass rightClass =>
    s!"unsupported operand type(s) for {symbol}: '{leftClass}' and '{rightClass}'"
  | .notComparable symbol leftClass rightClass =>
    s!"'{symbol}' not supported between instances of '{leftClass}' and '{rightClass}'"
  | .singleExpected => "required argument is not a float"
  | .infinityNotInteger => "cannot convert float infinity to integer"
  | .quotientTooLarge => "integer division result too large for a float"
  | .trimMissing className => s!"'{className}' object has no attribute 'strip'"
  | .integerTooLarge => "int too large to convert to float"
  | .numeralTooLong digits => s!"{limitNotice}: value has {digits} digits{limitAdvice}"
  | .integerTooLong => s!"{limitNotice}{limitAdvice}"
  | .notIterable className => s!"'{className}' object is not iterable"
  | .elementNotSequence index =>
    s!"cannot convert dictionary update sequence element #{index} to a sequence"
  | .elementLength index length =>
    s!"dictionary update sequence element #{index} has length {length}; 2 is required"
  | .unhashable className => s!"unhashable type: '{className}'"
  | .notImplemented => ""
  | .isDirectory path => s!"[Errno 21] Is a directory: {quoted path}"
  | .notDirectory path => s!"[Errno 20] Not a directory: {quoted path}"
  | .nameTooLong path => s!"[Errno 36] File name too long: {quoted path}"
  | .nullInPath => "embedded null byte"
  | .tableStopped => "The shared table has been stopped"
  | .reported .key detail => quoted detail
  | .reported _ detail => detail

/-- The words for a failure, or the name of its kind where it has no words. -/
def description (fault : Fault) : String :=
  if fault.message = "" then fault.category.label else fault.message

end Fault

end CalcShell
