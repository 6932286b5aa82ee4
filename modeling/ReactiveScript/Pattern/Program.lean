import ReactiveScript.Pattern.Basic

/-! # Patterns as machines

A pattern becomes a machine with states that take a character, fork in order of preference, ask
about the place they are at, or note it. -/

namespace ReactiveScript

/-- A state of the machine of a pattern. -/
inductive PatternState where
  /-- Takes a character of a set. -/
  | take (set : CharSet) (next : Nat)
  /-- Goes on in two ways, the first of which is preferred. -/
  | fork (first second : Nat)
  /-- Goes on if a condition on the place holds. -/
  | check (words : CharSet) (kind : Anchor) (next : Nat)
  /-- Notes the place in a slot. -/
  | note (slot : Nat) (next : Nat)
  /-- The pattern has matched. -/
  | matched
deriving Inhabited

/-- The states of a machine. -/
abbrev PatternProgram := Array PatternState

/-- A way to add the states of a pattern that goes on in a given state; gives the state in which the
pattern begins. -/
abbrev Emit := Nat → StateM PatternProgram Nat

namespace PatternProgram

/-- Adds a state. -/
def add (state : PatternState) : StateM PatternProgram Nat := do
  let program ← get
  set (program.push state)
  return program.size

/-- A fork between going round and going on. -/
def choose (greedy : Bool) (round onward : Nat) : PatternState :=
  if greedy then .fork round onward else .fork onward round

/-- So many rounds one after the other. -/
def exactly (inner : Emit) : Nat → Emit
  | 0, next => return next
  | count + 1, next => do
    let later ← exactly inner count next
    inner later

/-- At least one round: behind each round the machine chooses between another one and going on. -/
def oneOrMore (greedy : Bool) (inner : Emit) : Emit := fun next => do
  let turn ← add .matched
  let start ← inner turn
  modify (·.set! turn (choose greedy start next))
  return start

/-- Any number of rounds. If a round can be empty, the choice whether to begin stands apart from the
choice whether to go round again, which keeps the order of preference. -/
def zeroOrMore (greedy consumes : Bool) (inner : Emit) : Emit := fun next => do
  if consumes then
    let turn ← add .matched
    let start ← inner turn
    modify (·.set! turn (choose greedy start next))
    return turn
  else
    let start ← oneOrMore greedy inner next
    add (choose greedy start next)

/-- Up to so many rounds, each of which is a choice. -/
def atMost (greedy : Bool) (inner : Emit) (onward : Nat) : Nat → StateM PatternProgram Nat
  | 0 => return onward
  | count + 1 => do
    let later ← atMost greedy inner onward count
    let start ← inner later
    add (choose greedy start onward)

/-- A number of rounds between bounds. -/
def rounds (least : Nat) (most : Option Nat) (greedy consumes : Bool) (inner : Emit) : Emit :=
  fun next => do
    match most with
    | some bound =>
      let optional ← atMost greedy inner next (bound - least)
      exactly inner least optional
    | none =>
      if least = 0 then zeroOrMore greedy consumes inner next
      else
        let last ← oneOrMore greedy inner next
        exactly inner (least - 1) last

end PatternProgram

open PatternProgram

/-- Adds the states of a pattern. -/
def Pattern.emit : Pattern → Emit
  | .empty => fun next => return next
  | .chars set => fun next => add (.take set next)
  | .anchor words kind => fun next => add (.check words kind next)
  | .group number inner => fun next => do
    let close ← add (.note (2 * number + 1) next)
    let start ← inner.emit close
    add (.note (2 * number) start)
  | .sequence first second => fun next => do
    let later ← second.emit next
    first.emit later
  | .choice first second => fun next => do
    let preferred ← first.emit next
    let other ← second.emit next
    add (.fork preferred other)
  | .rounds least most greedy inner =>
    PatternProgram.rounds least most greedy inner.alwaysConsumes inner.emit

/-- A machine and the state in which it begins. -/
structure PatternMachine where
  /-- The states. -/
  program : PatternProgram
  /-- The state in which it begins. -/
  start : Nat
  /-- How many groups it remembers, the whole match not counted. -/
  groups : Nat

/-- The machine of a pattern. The whole match is remembered as group zero. -/
def NamedPattern.machine (named : NamedPattern) : PatternMachine :=
  let build : StateM PatternProgram Nat := do
    let final ← add .matched
    (Pattern.group 0 named.pattern).emit final
  let (start, program) := build.run #[]
  ⟨program, start, named.groups⟩

end ReactiveScript
