import ReactiveScript.Span

/-! # Faults

Everything that can go wrong is a cause with its own data. A cause fixes the kind of the fault and
its wording; a fault adds where it happened and what may help. -/

namespace ReactiveScript

/-- The kinds of fault that a program can see by name. -/
inductive FaultKind where
  | nameError
  | typeError
  | invalidCast
  | unsupportedOperand
  | divisionByZero
  | modulusByZero
  | indexError
  | importError
  | signalError
  | unknownNode
  | userThrown
  | syntaxError
  | runtimeError
deriving DecidableEq, Repr, Inhabited

/-- The name of a kind of fault. -/
def FaultKind.render : FaultKind → String
  | .nameError => "NameError"
  | .typeError => "TypeError"
  | .invalidCast => "InvalidCast"
  | .unsupportedOperand => "UnsupportedOperand"
  | .divisionByZero => "DivisionByZero"
  | .modulusByZero => "ModulusByZero"
  | .indexError => "IndexError"
  | .importError => "ImportError"
  | .signalError => "SignalError"
  | .unknownNode => "UnknownNode"
  | .userThrown => "UserThrown"
  | .syntaxError => "SyntaxError"
  | .runtimeError => "RuntimeError"

/-- A fault: what went wrong, where, and what may help. -/
structure Fault where
  /-- The kind of the fault. -/
  kind : FaultKind
  /-- What went wrong, in words. -/
  message : String
  /-- Where it went wrong. -/
  span : Span := Span.unknown
  /-- Advice to the author of the program. -/
  help : Option String := none
deriving DecidableEq, Repr, Inhabited

/-- The fault with its place, kept if it already has one. -/
def Fault.orAt (fault : Fault) (span : Span) : Fault :=
  if fault.span.isKnown then fault else { fault with span }

/-- The fault with a piece of advice. -/
def Fault.withHelp (fault : Fault) (help : String) : Fault :=
  { fault with help := some help }

/-- The fault in one line. -/
def Fault.render (fault : Fault) : String :=
  if fault.span.isKnown then
    s!"{fault.kind.render} at {fault.span.render}: {fault.message}"
  else s!"{fault.kind.render}: {fault.message}"

/-- A fault whose place is known keeps it. -/
theorem Fault.orAt_of_isKnown {fault : Fault} (h : fault.span.isKnown = true) (span : Span) :
    fault.orAt span = fault := by
  simp [Fault.orAt, h]

/-- A second place is ignored once a known place is set. -/
@[simp] theorem Fault.orAt_orAt (fault : Fault) {first : Span} (h : first.isKnown = true)
    (second : Span) : (fault.orAt first).orAt second = fault.orAt first := by
  unfold Fault.orAt
  split <;> simp_all

/-- The reasons for which a program or one of its operations fails. -/
inductive Cause where
  /-- A variable that no scope binds. -/
  | undefinedVariable (name : String)
  /-- A function that is neither built in nor declared. -/
  | undefinedFunction (name : String)
  /-- A value that does not convert to the type asked for. -/
  | mismatch (expected found : String)
  /-- A type that the language does not know. -/
  | unknownType (name : String)
  /-- An explicit cast to a type that the language does not know. -/
  | castToUnknown (name : String)
  /-- An explicit cast between kinds that have none. -/
  | castBetween (found target : String)
  /-- A floating-point number outside the range of integers. -/
  | floatTooLarge (number : String)
  /-- A text that does not spell a number of the target kind. -/
  | invalidLiteral (target text : String)
  /-- An operator on kinds that it does not take. -/
  | unsupportedOperands (operator left right : String)
  /-- A unary operator on a kind that it does not take. -/
  | unsupportedUnary (operator operand : String)
  /-- A symbol that is no operator of its family. -/
  | unknownOperator (family symbol : String)
  /-- A result of a binary operator that no integer holds. -/
  | overflow (operator : String)
  /-- A negation that no integer holds. -/
  | negationOverflow
  /-- A result of a built-in function that no integer holds. -/
  | callOverflow (function : String)
  /-- A division by zero. -/
  | divisionByZero
  /-- A remainder by zero. -/
  | modulusByZero
  /-- A list or text indexed by something other than an integer. -/
  | indexKind (container found : String)
  /-- An index outside a list or text. -/
  | indexRange (container : String) (index : Int) (length : Nat)
  /-- A value that cannot be indexed. -/
  | notSubscriptable (found : String)
  /-- A value that cannot be looped over. -/
  | notIterable (found : String)
  /-- A value whose elements cannot be assigned. -/
  | notAssignable (found : String)
  /-- A list that has no common order. -/
  | unsortable
  /-- A bound or step of a range that is no integer. -/
  | rangeKind (role found : String)
  /-- A range that would never move. -/
  | rangeStep
  /-- An inclusive range whose bound cannot be moved outward. -/
  | rangeBound
  /-- Too many calls inside each other. -/
  | callDepth (limit : Nat) (function : String)
  /-- A signal declared twice. -/
  | signalDeclared (name : String)
  /-- A signal that was not declared. -/
  | signalUndeclared (name : String)
  /-- A value thrown by the program. -/
  | thrown (text : String)
  /-- An import path of neither form. -/
  | importForm (path : String)
  /-- A library that does not exist. -/
  | unknownLibrary (library : String)
  /-- A module that no directory holds. -/
  | moduleMissing (path : String)
  /-- A module whose file cannot be read. -/
  | moduleUnreadable (path reason : String)
  /-- A file that cannot be read. -/
  | unreadable (path reason : String)
  /-- A file that cannot be written. -/
  | unwritable (path reason : String)
  /-- A configuration file that cannot be read. -/
  | configUnreadable (path reason : String)
  /-- A configuration text that does not describe a configuration. -/
  | configInvalid (reason : String)
  /-- A text that is no JSON document. -/
  | jsonInvalid (reason : String)
  /-- A number that JSON cannot write. -/
  | jsonNumber (number : String)
  /-- A complex number, which JSON cannot write. -/
  | jsonComplex
  /-- A pattern that cannot be read. -/
  | patternInvalid (pattern reason : String)
  /-- A separator of no characters. -/
  | separatorEmpty
  /-- An argument that is missing. -/
  | argumentMissing (function : String) (position : Nat)
  /-- A wrong number of arguments. -/
  | argumentCount (function : String) (expected given : Nat)
  /-- An argument of the wrong kind. -/
  | argumentKind (function : String) (position : Nat) (expected found : String)
  /-- A built-in function that is not defined on a kind. -/
  | operandUndefined (function found : String)
  /-- A built-in function that takes other kinds. -/
  | operandNeeds (function needs found : String)
  /-- A search in a text for something that is no text. -/
  | containsKind (found : String)
  /-- The least or greatest of no values. -/
  | emptySequence (function : String)
  /-- A square root of a negative number. -/
  | negativeRoot (number : String)
  /-- A random integer from an empty range. -/
  | emptyRange (low high : Int64)
  /-- A pause of a negative or undefined duration. -/
  | pauseNegative (number : String)
  /-- A pause longer than a clock can hold. -/
  | pauseTooLong (number reason : String)
  /-- A source text that is no program. -/
  | malformed (problem : String)

/-- The kind of fault that a cause leads to. -/
def Cause.kind : Cause → FaultKind
  | .undefinedVariable _ | .undefinedFunction _ => .nameError
  | .castToUnknown _ | .castBetween .. | .floatTooLarge _ | .invalidLiteral .. => .invalidCast
  | .unsupportedOperands .. | .unsupportedUnary .. => .unsupportedOperand
  | .unknownOperator .. => .unknownNode
  | .divisionByZero => .divisionByZero
  | .modulusByZero => .modulusByZero
  | .indexKind .. | .indexRange .. => .indexError
  | .importForm _ | .unknownLibrary _ | .moduleMissing _ | .moduleUnreadable .. => .importError
  | .signalDeclared _ | .signalUndeclared _ => .signalError
  | .thrown _ => .userThrown
  | .malformed _ => .syntaxError
  | .mismatch .. | .unknownType _ | .notSubscriptable _ | .notIterable _ | .notAssignable _
  | .unsortable | .rangeKind .. | .jsonNumber _ | .jsonComplex | .argumentMissing ..
  | .argumentCount .. | .argumentKind .. | .operandUndefined .. | .operandNeeds ..
  | .containsKind _ | .emptySequence _ => .typeError
  | .overflow _ | .negationOverflow | .callOverflow _ | .rangeStep | .rangeBound | .callDepth ..
  | .unreadable .. | .unwritable .. | .configUnreadable .. | .configInvalid _ | .jsonInvalid _
  | .patternInvalid .. | .separatorEmpty | .negativeRoot _ | .emptyRange .. | .pauseNegative _
  | .pauseTooLong .. => .runtimeError

/-- The wording of a cause. -/
def Cause.message : Cause → String
  | .undefinedVariable name => s!"variable '{name}' is not defined"
  | .undefinedFunction name => s!"function '{name}' is not defined"
  | .mismatch expected found => s!"expected {expected}, found {found}"
  | .unknownType name => s!"unknown type '{name}'"
  | .castToUnknown name => s!"cannot cast to unknown type '{name}'"
  | .castBetween found target => s!"cannot cast {found} to {target}"
  | .floatTooLarge number => s!"float {number} does not fit in an int"
  | .invalidLiteral target text => s!"invalid literal for {target}: '{text}'"
  | .unsupportedOperands operator left right =>
    s!"unsupported operand type(s) for {operator}: '{left}' and '{right}'"
  | .unsupportedUnary operator operand =>
    s!"unsupported operand type for unary {operator}: '{operand}'"
  | .unknownOperator family symbol => s!"unknown {family} operator '{symbol}'"
  | .overflow operator => s!"integer overflow in '{operator}'"
  | .negationOverflow => "integer overflow in unary '-'"
  | .callOverflow function => s!"integer overflow in {function}()"
  | .divisionByZero => "division by zero"
  | .modulusByZero => "modulus by zero"
  | .indexKind container found => s!"{container} indices must be int, not {found}"
  | .indexRange container index length =>
    s!"{container} index {index} out of range for length {length}"
  | .notSubscriptable found => s!"'{found}' is not subscriptable"
  | .notIterable found => s!"'{found}' is not iterable"
  | .notAssignable found => s!"'{found}' does not support item assignment"
  | .unsortable => "sort requires a list of numbers or a list of strings"
  | .rangeKind role found => s!"range {role} must be int, not {found}"
  | .rangeStep => "range step cannot be zero"
  | .rangeBound => "range bound overflows int"
  | .callDepth limit function => s!"maximum call depth of {limit} exceeded in '{function}'"
  | .signalDeclared name => s!"signal '{name}' is already declared"
  | .signalUndeclared name => s!"signal '{name}' is not declared"
  | .thrown text => text
  | .importForm path => s!"cannot import '{path}': expected a .mun file or a :lib library"
  | .unknownLibrary library => s!"unknown library '{library}'"
  | .moduleMissing path => s!"module '{path}' not found"
  | .moduleUnreadable path reason | .unreadable path reason => s!"cannot read '{path}': {reason}"
  | .unwritable path reason => s!"cannot write '{path}': {reason}"
  | .configUnreadable path reason => s!"cannot read config '{path}': {reason}"
  | .configInvalid reason => s!"invalid configuration: {reason}"
  | .jsonInvalid reason => s!"invalid JSON: {reason}"
  | .jsonNumber number => s!"{number} is not representable in JSON"
  | .jsonComplex => "complex values are not JSON serializable"
  | .patternInvalid pattern reason => s!"invalid pattern '{pattern}': {reason}"
  | .separatorEmpty => "split() separator is empty"
  | .argumentMissing function position => s!"{function}() missing argument {position}"
  | .argumentCount function expected given =>
    s!"{function}() takes {expected} argument(s) but {given} were given"
  | .argumentKind function position expected found =>
    s!"{function}() argument {position} must be {expected}, not {found}"
  | .operandUndefined function found => s!"{function}() of {found} is undefined"
  | .operandNeeds function needs found => s!"{function}() needs {needs}, not {found}"
  | .containsKind found => s!"contains() on a string needs a string, not {found}"
  | .emptySequence function => s!"{function}() of an empty sequence"
  | .negativeRoot number => s!"sqrt() of negative number {number}"
  | .emptyRange low high => s!"random_int() range is empty: {low.toInt} > {high.toInt}"
  | .pauseNegative number => s!"sleep() needs a non-negative duration, got {number}"
  | .pauseTooLong number reason => s!"sleep() duration {number} is out of range: {reason}"
  | .malformed problem => problem

/-- The advice that goes with a cause. -/
def Cause.help : Cause → Option String
  | .callDepth .. => some "check for unbounded recursion or raise max_call_depth"
  | .moduleMissing _ =>
    some "imports resolve against the importing file's directory and module_paths"
  | _ => none

/-- The fault of a cause at a place that is not known yet. -/
def Cause.fault (cause : Cause) : Fault :=
  { kind := cause.kind, message := cause.message, help := cause.help }

/-- A source text is malformed at a place. -/
def Fault.malformed (problem : String) (span : Span) : Fault :=
  { (Cause.malformed problem).fault with span }

@[simp] theorem Cause.kind_fault (cause : Cause) : cause.fault.kind = cause.kind := rfl

@[simp] theorem Fault.kind_malformed (problem : String) (span : Span) :
    (Fault.malformed problem span).kind = .syntaxError := rfl

@[simp] theorem Fault.kind_orAt (fault : Fault) (span : Span) :
    (fault.orAt span).kind = fault.kind := by
  unfold Fault.orAt
  split <;> rfl

end ReactiveScript
