/-! # Random numbers

A source of random words that walks through all states by adding an odd constant and mixes each
state into a word. -/

namespace ReactiveScript.Number

/-- The distance between two states of the source. -/
def seedStep : UInt64 := 0x9E3779B97F4A7C15

/-- Mixes a state into a word. -/
def mix (state : UInt64) : UInt64 :=
  let first := (state ^^^ (state >>> 30)) * 0xBF58476D1CE4E5B9
  let second := (first ^^^ (first >>> 27)) * 0x94D049BB133111EB
  second ^^^ (second >>> 31)

/-- The next word and the next state. -/
def nextWord (seed : UInt64) : UInt64 × UInt64 :=
  let state := seed + seedStep
  (mix state, state)

/-- The number from zero below one that the upper 53 bits of a word make. -/
def unitFloat (word : UInt64) : Float :=
  (word >>> 11).toFloat / 9007199254740992

/-- The integer between two bounds, both included, that a word picks. -/
def pickBetween (word : UInt64) (low high : Int64) : Int64 :=
  let count := (high.toInt - low.toInt + 1).toNat
  Int64.ofInt (low.toInt + (word.toNat % count : Nat))

end ReactiveScript.Number
