import ReactiveScript.Library.Call
import ReactiveScript.Table

/-! # Built-in functions

The functions that need no declaration: those that are always there and those of the libraries that
a program imports by name. A host may add functions of its own. -/

namespace ReactiveScript

/-- The functions that talk to the outside. -/
inductive ConsoleFunction where
  | print
  | input
  | read
  | write
  | args
  | sleep
deriving DecidableEq, Repr

/-- The functions on containers and scopes. -/
inductive CollectionFunction where
  | type
  | length
  | append
  | remove
  | contains
  | keys
  | values
  | sort
  | slice
  | localScope
  | globalScope
deriving DecidableEq, Repr

/-- The functions on numbers. -/
inductive MathFunction where
  | pi
  | sqrt
  | pow
  | abs
  | floor
  | ceil
  | round
  | min
  | max
  | random
  | randomInt
deriving DecidableEq, Repr

/-- The functions between values and documents. -/
inductive DocumentFunction where
  | toJson
  | fromJson
  | readJson
  | writeJson
deriving DecidableEq, Repr

/-- The functions on texts. -/
inductive TextFunction where
  | matches
  | findAll
  | replace
  | split
  | join
  | upper
  | lower
  | trim
deriving DecidableEq, Repr

/-- The functions that read the clock. -/
inductive ClockFunction where
  | now
  | timestamp
  | elapsed
deriving DecidableEq, Repr

/-- A built-in function. -/
inductive Native where
  | console (function : ConsoleFunction)
  | collection (function : CollectionFunction)
  | math (function : MathFunction)
  | document (function : DocumentFunction)
  | text (function : TextFunction)
  | clock (function : ClockFunction)
  /-- Waits until every handler has run. -/
  | settle
  /-- A function of the host on values. -/
  | host (run : Call → Alloc Value)

namespace Native

/-- The functions that are always there. -/
def installed : List (String × Native) :=
  [("print", .console .print),
   ("input", .console .input),
   ("read", .console .read),
   ("write", .console .write),
   ("args", .console .args),
   ("sleep", .console .sleep),
   ("type", .collection .type),
   ("length", .collection .length),
   ("append", .collection .append),
   ("remove", .collection .remove),
   ("contains", .collection .contains),
   ("keys", .collection .keys),
   ("values", .collection .values),
   ("sort", .collection .sort),
   ("slice", .collection .slice),
   ("local_scope", .collection .localScope),
   ("global_scope", .collection .globalScope)]

/-- The library of numbers. -/
def mathLibrary : List (String × Native) :=
  [("pi", .math .pi),
   ("sqrt", .math .sqrt),
   ("pow", .math .pow),
   ("abs", .math .abs),
   ("floor", .math .floor),
   ("ceil", .math .ceil),
   ("round", .math .round),
   ("min", .math .min),
   ("max", .math .max),
   ("random", .math .random),
   ("random_int", .math .randomInt)]

/-- The library of documents. -/
def documentLibrary : List (String × Native) :=
  [("to_json", .document .toJson),
   ("from_json", .document .fromJson),
   ("read_json", .document .readJson),
   ("write_json", .document .writeJson)]

/-- The library of texts. -/
def textLibrary : List (String × Native) :=
  [("matches", .text .matches),
   ("find_all", .text .findAll),
   ("replace", .text .replace),
   ("split", .text .split),
   ("join", .text .join),
   ("upper", .text .upper),
   ("lower", .text .lower),
   ("trim", .text .trim)]

/-- The library of the clock. -/
def clockLibrary : List (String × Native) :=
  [("now", .clock .now),
   ("timestamp", .clock .timestamp),
   ("elapsed", .clock .elapsed)]

/-- The functions of a library. -/
def library? : String → Option (List (String × Native))
  | "math" => some mathLibrary
  | "json" => some documentLibrary
  | "text" => some textLibrary
  | "time" => some clockLibrary
  | _ => none

/-- The table of the functions that are always there. -/
def standard : Table Native :=
  installed.foldl (fun table (name, native) => table.insert name native) .empty

end Native

end ReactiveScript
