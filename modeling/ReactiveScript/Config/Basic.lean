/-! # Settings of an interpreter -/

namespace ReactiveScript

/-- The settings of an interpreter. -/
structure Config where
  /-- How many calls may go on inside each other. -/
  maxCallDepth : Nat := 1000
  /-- The directories that are searched for modules beside that of the importing file. -/
  modulePaths : List String := []
  /-- Whether the program waits for its handlers before it ends. -/
  waitForHandlers : Bool := true
  /-- How many bytes of stack a handler gets. -/
  handlerStackSize : Nat := 8388608
deriving DecidableEq, Repr, Inhabited

/-- The settings that hold where nothing else is said. -/
def Config.standard : Config := {}

end ReactiveScript
