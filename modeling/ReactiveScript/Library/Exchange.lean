import ReactiveScript.Json.Reader
import ReactiveScript.Library.Console

/-! # Values and documents

Turning values into JSON documents and back, in texts and in files. -/

namespace ReactiveScript

/-- The value of the document that a text spells. -/
def Alloc.ofDocumentText (text : String) : Alloc Value :=
  match Document.read text with
  | .ok document => document.toValue
  | .error fault => Alloc.fail (.jsonInvalid fault.render)

namespace Eval

/-- A function between values and documents. -/
def document (function : DocumentFunction) (call : Call) : Eval Value := do
  match function with
  | .toJson =>
    ofExcept (call.expect 1)
    let value ← ofExcept (call.argument 0)
    let document ← looking (·.document Document.insertMember value)
    return .text document.compact
  | .fromJson =>
    ofExcept (call.expect 1)
    alloc (Alloc.ofDocumentText (← ofExcept (call.text 0)))
  | .readJson =>
    ofExcept (call.expect 1)
    let text ← readFile (← ofExcept (call.text 0))
    alloc (Alloc.ofDocumentText text)
  | .writeJson =>
    ofExcept (call.expect 2)
    let path ← ofExcept (call.text 0)
    let value ← ofExcept (call.argument 1)
    let document ← looking (·.document Document.insertMember value)
    writeFile path document.pretty
    return .void

end Eval

end ReactiveScript
