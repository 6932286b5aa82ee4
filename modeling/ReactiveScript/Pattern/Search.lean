import ReactiveScript.Pattern.Program

/-! # Searching

The machine of a pattern is run over a text with all its possible states at once, in order of
preference; of two ways to the same state at the same place the preferred one stays. The match found
is the first one, and among those the preferred one. -/

namespace ReactiveScript

/-- The places that a way through a machine has noted: the begin and end of each group. -/
abbrev PatternSlots := Array (Option Nat)

/-- A way through a machine: the state it is in and what it has noted. -/
structure PatternThread where
  /-- The state it is in. -/
  state : Nat
  /-- What it has noted. -/
  slots : PatternSlots

/-- A place in a text. -/
structure TextPlace where
  /-- How many characters are before the place. -/
  index : Nat
  /-- The character before the place. -/
  before : Option Char
  /-- The characters behind the place. -/
  rest : List Char

/-- The beginning of a text. -/
def TextPlace.start (text : List Char) : TextPlace := ⟨0, none, text⟩

/-- The place behind the next character. -/
def TextPlace.advance (place : TextPlace) : TextPlace :=
  match place.rest with
  | [] => place
  | c :: rest => ⟨place.index + 1, some c, rest⟩

/-- The ways that are alive at a place, and the states that were entered there. -/
structure PatternFrontier where
  /-- Whether a state was entered. -/
  entered : Array Bool
  /-- The ways that wait for a character or have matched, preferred last. -/
  threads : List PatternThread

/-- No ways at all. -/
def PatternFrontier.empty (size : Nat) : PatternFrontier := ⟨Array.replicate size false, []⟩

/-- Follows ways as far as they go without a character, those in front first. Every state is entered
at most once and leads to at most two, which bounds the steps. -/
def followWithin (program : PatternProgram) (place : TextPlace) :
    Nat → List PatternThread → PatternFrontier → PatternFrontier
  | 0, _, frontier => frontier
  | _ + 1, [], frontier => frontier
  | steps + 1, thread :: waiting, frontier =>
    if frontier.entered.getD thread.state true then
      followWithin program place steps waiting frontier
    else
      let marked := { frontier with entered := frontier.entered.set! thread.state true }
      match program.getD thread.state .matched with
      | .fork first second =>
        followWithin program place steps
          ({ thread with state := first } :: { thread with state := second } :: waiting) marked
      | .check words kind next =>
        if kind.holds words place.before place.rest.head? then
          followWithin program place steps ({ thread with state := next } :: waiting) marked
        else followWithin program place steps waiting marked
      | .note slot next =>
        followWithin program place steps
          (⟨next, thread.slots.set! slot (some place.index)⟩ :: waiting) marked
      | .take .. =>
        followWithin program place steps waiting
          { marked with threads := thread :: marked.threads }
      | .matched =>
        followWithin program place steps waiting
          { marked with threads := thread :: marked.threads }

namespace PatternMachine

/-- Follows a way as far as it goes without a character. -/
def follow (machine : PatternMachine) (place : TextPlace) (thread : PatternThread)
    (frontier : PatternFrontier) : PatternFrontier :=
  followWithin machine.program place (2 * machine.program.size + 2) [thread] frontier

/-- The way that begins at a place. -/
def begin (machine : PatternMachine) : PatternThread :=
  ⟨machine.start, Array.replicate (2 * (machine.groups + 1)) none⟩

/-- Lets the ways that are alive take a character, preferred ones first; a way that has matched ends
the ways behind it. Gives the match and the ways behind the character. -/
def step (machine : PatternMachine) (place : TextPlace) :
    List PatternThread → PatternFrontier → Option PatternSlots × PatternFrontier
  | [], frontier => (none, frontier)
  | thread :: threads, frontier =>
    match machine.program.getD thread.state .matched, place.rest with
    | .matched, _ => (some thread.slots, frontier)
    | .take set next, c :: _ =>
      if set.holds c then
        machine.step place threads
          (machine.follow place.advance { thread with state := next } frontier)
      else machine.step place threads frontier
    | _, _ => machine.step place threads frontier

/-- Searches from a place on, given the ways alive there and the best match so far. A new way begins
at every place as long as nothing has matched. -/
def searchWith (machine : PatternMachine) (place : TextPlace) (frontier : PatternFrontier)
    (best : Option PatternSlots) : List Char → Option PatternSlots
  | [] =>
    let alive := if best.isNone then machine.follow place machine.begin frontier else frontier
    ((machine.step place alive.threads.reverse (.empty 0)).1).or best
  | _ :: rest =>
    let alive := if best.isNone then machine.follow place machine.begin frontier else frontier
    let (found, next) :=
      machine.step place alive.threads.reverse (.empty machine.program.size)
    let better := found.or best
    if next.threads.isEmpty && better.isSome then better
    else machine.searchWith place.advance next better rest

/-- The first match from a place on. -/
def search (machine : PatternMachine) (place : TextPlace) : Option PatternSlots :=
  machine.searchWith place (.empty machine.program.size) none place.rest

end PatternMachine

/-- What a pattern has matched in a text. -/
structure PatternMatch where
  /-- The place where the match begins. -/
  first : Nat
  /-- The place where it has ended. -/
  last : Nat
  /-- What the groups have noted, the whole match included. -/
  slots : PatternSlots

/-- The match that slots describe. -/
def PatternMatch.ofSlots (slots : PatternSlots) : PatternMatch :=
  ⟨(slots.getD 0 none).getD 0, (slots.getD 1 none).getD 0, slots⟩

/-- The place where a number of characters of a text are passed. -/
def TextPlace.forward : Nat → TextPlace → TextPlace
  | 0, place => place
  | count + 1, place => place.advance.forward count

namespace PatternMachine

/-- The first match from a place on that is not the empty match at the end of the last one. -/
def nextMatch (machine : PatternMachine) (place : TextPlace) (lastEnd : Option Nat) :
    Option PatternMatch :=
  match (machine.search place).map PatternMatch.ofSlots with
  | none => none
  | some found =>
    if found.first = found.last ∧ lastEnd = some found.last then
      match place.rest with
      | [] => none
      | _ :: _ => (machine.search place.advance).map PatternMatch.ofSlots
    else some found

/-- The matches from a place on, none of which overlap. Every match but the first ends behind the
one before it, so no more steps are needed than there are places. -/
def matchesWithin (machine : PatternMachine) :
    Nat → TextPlace → Option Nat → List PatternMatch
  | 0, _, _ => []
  | steps + 1, place, lastEnd =>
    match machine.nextMatch place lastEnd with
    | none => []
    | some found =>
      found :: machine.matchesWithin steps (place.forward (found.last - place.index))
        (some found.last)

/-- All matches in a text that do not overlap, from left to right. -/
def matchesIn (machine : PatternMachine) (text : List Char) : List PatternMatch :=
  machine.matchesWithin (text.length + 2) (.start text) none

/-- Whether a pattern matches somewhere in a text. -/
def occursIn (machine : PatternMachine) (text : List Char) : Bool :=
  (machine.search (.start text)).isSome

end PatternMachine

/-- The characters of a text from one place to another. -/
def between (text : List Char) (first last : Nat) : List Char := (text.take last).drop first

/-- The characters that a group has matched. -/
def PatternMatch.groupText (found : PatternMatch) (text : List Char) (number : Nat) : List Char :=
  match found.slots.getD (2 * number) none, found.slots.getD (2 * number + 1) none with
  | some first, some last => between text first last
  | _, _ => []

end ReactiveScript
