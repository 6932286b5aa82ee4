import ReactiveScript.Text.CaseTable

/-! # Upper and lower case

Case of whole texts, where one letter may become several and a capital sigma at the end of a word
becomes the final small sigma, and a key under which the cases of a letter agree. -/

namespace ReactiveScript.Text

/-- The run at a position from `low` up to, but not including, `high` that spans the point. -/
def findRun (runs : Array CaseRun) (point low high : Nat) : Option CaseRun :=
  if low < high then
    let middle := (low + high) / 2
    match runs[middle]? with
    | none => none
    | some run =>
      if point < run.first then findRun runs point low middle
      else if run.last < point then findRun runs point (middle + 1) high
      else some run
  else none
termination_by high - low

/-- The other case of a character according to a table of runs, or the character itself. -/
def shiftCase (runs : Array CaseRun) (c : Char) : Char :=
  match findRun runs c.toNat 0 runs.size with
  | none => c
  | some run =>
    if (c.toNat - run.first) % run.stride = 0 then Char.ofNat ((c.toNat : Int) + run.shift).toNat
    else c

/-- The upper case of a character where that is one character. -/
def upperChar (c : Char) : Char := shiftCase upperRuns c

/-- The lower case of a character where that is one character. -/
def lowerChar (c : Char) : Char := shiftCase lowerRuns c

/-- The key that all cases of a letter share; the dotted capital and the dotless small I stand
alone. -/
def caselessKey (c : Char) : Char :=
  if c.toNat = 0x130 || c.toNat = 0x131 then c else lowerChar (upperChar c)

/-- The characters that are a third or fourth case of a letter: neither the key of the letter nor a
case of that key. -/
def furtherCases : List Char :=
  [0xB5, 0x17F, 0x1C5, 0x1C8, 0x1CB, 0x1F2, 0x345, 0x3C2, 0x3D0, 0x3D1, 0x3D5, 0x3D6, 0x3F0, 0x3F1,
    0x3F4, 0x3F5, 0x1C80, 0x1C81, 0x1C82, 0x1C83, 0x1C84, 0x1C85, 0x1C86, 0x1C87, 0x1C88, 0x1E9B,
    0x1E9E, 0x1FBE, 0x2126, 0x212A, 0x212B].map Char.ofNat

/-- All cases of a letter. -/
def casesOf (c : Char) : List Char :=
  let key := caselessKey c
  c :: key :: upperChar key :: furtherCases.filter fun other => caselessKey other = key

/-- The upper case of one character as a text. -/
def upperChars (c : Char) : List Char :=
  match upperExpansions.find? (fun entry => entry.1 == c.toNat) with
  | some (_, points) => points.map Char.ofNat
  | none => [upperChar c]

/-- Whether the first character that is not passed over has letter case. -/
def startsCased (chars : List Char) : Bool :=
  match chars.dropWhile caseIgnorableRanges.holds with
  | [] => false
  | c :: _ => casedRanges.holds c

/-- The lower case of a character between the characters before it, nearest first, and after it. -/
def lowerChars (before : List Char) (c : Char) (after : List Char) : List Char :=
  if c = 'Σ' then [if startsCased before && !startsCased after then 'ς' else 'σ']
  else if c.toNat = 0x130 then ['i', '\u0307']
  else [lowerChar c]

/-- The lower case of the characters that follow `before`, which is given nearest first. -/
def lowerFrom (before : List Char) : List Char → List Char
  | [] => []
  | c :: after => lowerChars before c after ++ lowerFrom (c :: before) after

/-- A text in upper case. -/
def upper (text : String) : String :=
  String.ofList (text.toList.flatMap upperChars)

/-- A text in lower case. -/
def lower (text : String) : String :=
  String.ofList (lowerFrom [] text.toList)

end ReactiveScript.Text
