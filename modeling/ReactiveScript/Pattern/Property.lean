import ReactiveScript.Pattern.CharSet
import ReactiveScript.Pattern.Fault
import ReactiveScript.Text.Script

/-! # Properties of characters in patterns

A property stands for the set of the characters that have it. It is named alone, as a category, a
script or a property of its own, or as a value of a property behind an equals sign or a colon. Case,
blanks, hyphens, underscores and the word `is` at the beginning do not count in names. -/

namespace ReactiveScript

/-- A name without what does not count in it. -/
def propertyKey (name : List Char) : String :=
  let hasIs := (name.take 2).map Char.toLower = ['i', 's']
  let counted := (if hasIs then name.drop 2 else name).filter fun c =>
    c.toNat < 128 && c ≠ ' ' && c ≠ '_' && c ≠ '-'
  let key := String.ofList (counted.map Char.toLower)
  if hasIs && key = "c" then "isc" else key

/-- The parts of a text before and after a sign. -/
def cutAt? (sign : List Char) : List Char → Option (List Char × List Char)
  | [] => none
  | c :: rest =>
    if sign.isPrefixOf (c :: rest) then some ([], (c :: rest).drop sign.length)
    else (cutAt? sign rest).map fun (before, after) => (c :: before, after)

/-- The categories that a name stands for. -/
def categoriesOf? : String → Option (List Text.Category)
  | "lu" | "uppercaseletter" => some [.lu]
  | "ll" | "lowercaseletter" => some [.ll]
  | "lt" | "titlecaseletter" => some [.lt]
  | "lc" | "casedletter" => some [.lu, .ll, .lt]
  | "lm" | "modifierletter" => some [.lm]
  | "lo" | "otherletter" => some [.lo]
  | "l" | "letter" => some [.lu, .ll, .lt, .lm, .lo]
  | "mn" | "nonspacingmark" => some [.mn]
  | "mc" | "spacingmark" => some [.mc]
  | "me" | "enclosingmark" => some [.me]
  | "m" | "mark" | "combiningmark" => some [.mn, .mc, .me]
  | "nd" | "decimalnumber" | "digit" => some [.nd]
  | "nl" | "letternumber" => some [.nl]
  | "no" | "othernumber" => some [.no]
  | "n" | "number" => some [.nd, .nl, .no]
  | "pc" | "connectorpunctuation" => some [.pc]
  | "pd" | "dashpunctuation" => some [.pd]
  | "ps" | "openpunctuation" => some [.ps]
  | "pe" | "closepunctuation" => some [.pe]
  | "pi" | "initialpunctuation" => some [.pi]
  | "pf" | "finalpunctuation" => some [.pf]
  | "po" | "otherpunctuation" => some [.po]
  | "p" | "punctuation" | "punct" => some [.pc, .pd, .ps, .pe, .pi, .pf, .po]
  | "sm" | "mathsymbol" => some [.sm]
  | "sc" | "currencysymbol" => some [.sc]
  | "sk" | "modifiersymbol" => some [.sk]
  | "so" | "othersymbol" => some [.so]
  | "s" | "symbol" => some [.sm, .sc, .sk, .so]
  | "zs" | "spaceseparator" => some [.zs]
  | "zl" | "lineseparator" => some [.zl]
  | "zp" | "paragraphseparator" => some [.zp]
  | "z" | "separator" => some [.zs, .zl, .zp]
  | "cc" | "control" | "cntrl" => some [.cc]
  | "cf" | "format" => some [.cf]
  | "co" | "privateuse" => some [.co]
  | "cn" | "unassigned" => some [.cn]
  | "c" | "other" => some [.cc, .cf, .co, .cn]
  | _ => none

namespace CharSet

/-- The set of a category by its name. The halves of pairs are a category without characters, which
cannot be asked for. -/
def ofCategory? : String → Option (Except PatternProblem CharSet)
  | "any" => some (.ok all)
  | "assigned" => some (.ok (.complement (.category [.cn])))
  | "ascii" => some (.ok plain)
  | "cs" | "surrogate" => some (.error .propertyValueUnknown)
  | name => (categoriesOf? name).map fun kinds => .ok (.category kinds)

/-- The set of a script by its name. -/
def ofScript? (name : String) : Option CharSet :=
  (Text.Script.ofName? name).map fun script => .table script.ranges

/-- The set of a property of its own by its name. -/
def ofPlainProperty? : String → Option CharSet
  | "alphabetic" | "alpha" => some .letter
  | "whitespace" | "wspace" | "space" => some .blank
  | "lowercase" | "lower" => some .lower
  | "uppercase" | "upper" => some .upper
  | "asciihexdigit" | "ahex" => some hexDigit
  | "hexdigit" | "hex" =>
    some (ofList [hexDigit, .between '０' '９', .between 'Ａ' 'Ｆ', .between 'ａ' 'ｆ'])
  | _ => none

/-- The set of a property that is named alone. -/
def ofName (name : List Char) : Except PatternProblem CharSet :=
  let key := propertyKey name
  match ofPlainProperty? key, ofCategory? key, ofScript? key with
  | some set, _, _ => .ok set
  | none, some found, _ => found
  | none, none, some set => .ok set
  | none, none, none => .error .propertyUnknown

/-- The set of the characters that have a value of a property. -/
def ofValue (name value : List Char) : Except PatternProblem CharSet :=
  let key := propertyKey value
  match propertyKey name with
  | "generalcategory" | "gc" => (ofCategory? key).getD (.error .propertyValueUnknown)
  | "script" | "sc" =>
    match ofScript? key with
    | some set => .ok set
    | none => .error .propertyValueUnknown
  | _ => .error .propertyUnknown

/-- The set of a property, named alone or with its value. -/
def ofProperty (text : String) : Except PatternProblem CharSet :=
  let chars := text.toList
  match cutAt? ['!', '='] chars, cutAt? [':'] chars, cutAt? ['='] chars with
  | some (name, value), _, _ => ofValue name value
  | none, some (name, value), _ => ofValue name value
  | none, none, some (name, value) => ofValue name value
  | none, none, none => ofName chars

end CharSet

end ReactiveScript
