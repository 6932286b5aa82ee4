import ReactiveScript.Library.Dispatch
import ReactiveScript.Proofs.Document.Ending
import ReactiveScript.Value.Operate
import ReactiveScript.Value.Range

/-! # Faults without a place

What goes wrong in a single operation does not know where in the program it goes wrong: operators,
conversions, containers, scopes, signals and built-in functions all raise the fault of a cause
(`Unplaced`, `StopsUnplaced`, `Alloc.Unplaced`). So a place that a fault has was given to it by the
evaluation that it passed through. -/

namespace ReactiveScript

/-- An outcome whose fault, if it is one, has no place. -/
def Unplaced {α : Type} (outcome : Except Fault α) : Prop :=
  ∀ fault, outcome = .error fault → fault.span = .unknown

namespace Unplaced

variable {α β : Type} {outcome : Except Fault α} {next : α → Except Fault β}

/-- An outcome that is a value. -/
theorem ok {value : α} : Unplaced (.ok value) := nofun

/-- The fault of a cause has no place. -/
theorem cause (cause : Cause) : Unplaced (.error cause.fault : Except Fault α) := by
  rintro fault ⟨⟩
  rfl

/-- One outcome after the other. -/
theorem bind (first : Unplaced outcome) (second : ∀ value, Unplaced (next value)) :
    Unplaced (outcome >>= next) := by
  cases outcome with
  | error fault =>
    rintro raised ⟨⟩
    exact first fault rfl
  | ok value => exact second value

/-- An outcome with its value changed. -/
theorem map {change : α → β} (h : Unplaced outcome) : Unplaced (outcome.map change) := by
  cases outcome with
  | error fault =>
    rintro raised ⟨⟩
    exact h fault rfl
  | ok value => exact ok

end Unplaced

/-- An outcome that may go on for ever, whose fault, if it is one, has no place. -/
abbrev StopsUnplaced {α : Type} (outcome : Except Stop α) : Prop :=
  OnlyFaults (fun fault => fault.span = .unknown) outcome

/-- An outcome that comes to an end. -/
theorem Unplaced.stops {α : Type} {outcome : Except Fault α} (h : Unplaced outcome) :
    StopsUnplaced (outcome.mapError .fault) := by
  cases outcome with
  | error fault =>
    rintro raised ⟨⟩
    exact h fault rfl
  | ok value => exact .ok

namespace Alloc

/-- An operation on the containers whose faults have no place. -/
def Unplaced {α : Type} (action : Alloc α) : Prop :=
  ∀ store, StopsUnplaced (action.run store)

namespace Unplaced

variable {α β : Type} {action : Alloc α} {next : α → Alloc β}

/-- A result that is given at once. -/
theorem pure {value : α} : Unplaced (Pure.pure value : Alloc α) := fun _ => .ok

/-- An operation that fails. -/
theorem fail {cause : Cause} : Unplaced (Alloc.fail cause : Alloc α) := fun _ => .fault rfl

/-- One operation after the other. -/
theorem bind (first : Unplaced action) (second : ∀ value, Unplaced (next value)) :
    Unplaced (action >>= next) := by
  intro store
  rw [StateT.run_bind]
  exact (first store).bind fun ended => second ended.1 ended.2

/-- An operation that looks at the store first. -/
theorem get {follow : Store → Alloc β} (h : ∀ store, Unplaced (follow store)) :
    Unplaced (MonadState.get >>= follow) := fun store => h store store

/-- An outcome that does not look at the store. -/
theorem lift {outcome : Except Fault α} (h : ReactiveScript.Unplaced outcome) :
    Unplaced (liftM outcome : Alloc α) := by
  intro store
  cases outcome with
  | error fault =>
    rintro raised ⟨⟩
    exact h fault rfl
  | ok value => exact .ok

/-- A result that is looked for. -/
theorem found (result : Option α) : Unplaced (liftM result : Alloc α) := by
  intro store
  cases result <;> nofun

/-- A store in place of the one that was there. -/
theorem set {store : Store} : Unplaced (MonadStateOf.set store) := fun _ => .ok

/-- A change of the store. -/
theorem change {alter : Store → Store} : Unplaced (modify alter) := fun _ => .ok

/-- Operations on each of some values. -/
theorem mapM {operation : α → Alloc β} (h : ∀ value, Unplaced (operation value))
    (values : List α) : Unplaced (values.mapM operation) := by
  induction values with
  | nil => exact pure
  | cons value rest ih =>
    rw [List.mapM_cons]
    exact bind (h value) fun _ => bind ih fun _ => pure

/-- A new list. -/
theorem newList {element : Ty} {items : List Value} : Unplaced (Alloc.newList element items) :=
  fun _ => .ok

/-- A new dictionary. -/
theorem newDict {key value : Ty} {entries : List (Value × Value)} :
    Unplaced (Alloc.newDict key value entries) := fun _ => .ok

end Unplaced

end Alloc

/-! ## Operators -/

/-- An integer result that may not fit. -/
theorem Value.unplaced_intOr (cause : Cause) (word : Option Int64) :
    Unplaced (Value.intOr cause word) := by
  cases word with
  | none => exact .cause cause
  | some n => exact .ok

/-- Division of complex numbers. -/
theorem unplaced_complexDiv (left right : Float × Float) : Unplaced (complexDiv left right) := by
  unfold complexDiv
  dsimp only
  split
  · exact .cause _
  · exact .ok

/-- Arithmetic on integers. -/
theorem unplaced_intBinary (op : BinaryOp) (left right : Int64) :
    Unplaced (intBinary op left right) := by
  cases op with
  | add | sub | mul => exact Value.unplaced_intOr _ _
  | div =>
    rw [intBinary]
    split
    · exact .cause _
    · exact .ok
  | mod =>
    rw [intBinary]
    split
    · exact .cause _
    · exact Value.unplaced_intOr _ _

/-- Arithmetic on floating-point numbers. -/
theorem unplaced_floatBinary (op : BinaryOp) (left right : Float) :
    Unplaced (floatBinary op left right) := by
  cases op with
  | add | sub | mul => exact .ok
  | div | mod =>
    rw [floatBinary]
    split
    · exact .cause _
    · exact .ok

/-- A number without its fraction. -/
theorem unplaced_truncate (x : Float) : Unplaced (truncate x) := by
  unfold truncate
  split
  · exact .ok
  · exact .cause _

namespace Value

/-- Arithmetic on numbers. -/
theorem unplaced_numeric (op : BinaryOp) (left right : Value) :
    Unplaced (numeric op left right) := by
  unfold numeric
  split
  · exact .cause _
  · exact unplaced_intBinary op _ _
  · exact unplaced_floatBinary op _ _
  · cases op with
    | add | sub | mul => exact .ok
    | div => exact (unplaced_complexDiv _ _).map
    | mod => exact .cause _

/-- Whether two values are equal. -/
theorem unplaced_equals (store : Store) (left right : Value) :
    StopsUnplaced (equals store left right) := by
  unfold equals
  split
  · exact .ok
  · exact .fault rfl
  · exact .fault rfl
  · exact .ended _

/-- The order of two numbers. -/
theorem unplaced_orderOf (op : CompareOp) (left right : Value) :
    Unplaced (orderOf op left right) := by
  unfold orderOf
  split
  · exact .ok
  · split
    · exact .ok
    · exact .cause _

/-- A comparison of two values. -/
theorem unplaced_compareValues (store : Store) (op : CompareOp) (left right : Value) :
    StopsUnplaced (compareValues store op left right) := by
  cases op with
  | equal => exact unplaced_equals store left right
  | notEqual => exact (unplaced_equals store left right).bind fun _ => .ok
  | less | lessEqual | greater | greaterEqual =>
    exact (unplaced_orderOf _ left right).stops.bind fun _ => .ok

/-- A connective of two truth values. -/
theorem unplaced_logical (op : LogicalOp) (left right : Value) :
    Unplaced (logical op left right) := by
  unfold logical
  split
  · exact .ok
  · exact .cause _

/-- An operator on one value. -/
theorem unplaced_unary (store : Store) (op : UnaryOp) (operand : Value) :
    Unplaced (unary store op operand) := by
  unfold unary
  split
  · exact .ok
  · exact unplaced_intOr _ _
  · exact .ok
  · exact .ok
  · exact .cause _

/-! ## Conversions and casts -/

/-- The zero of a type. -/
theorem zeroOf_unplaced (type : Ty) : (zeroOf type).Unplaced := by
  cases type with
  | list element => exact .newList
  | dict key value => exact .newDict
  | unknown name => exact .fail
  | _ => exact .pure

/-- Entries that are converted one after the other. -/
theorem convertEntries_unplaced {convertKey convertValue : Value → Alloc Value}
    (keys : ∀ key, (convertKey key).Unplaced) (values : ∀ value, (convertValue value).Unplaced)
    (entries done : List (Value × Value)) :
    (convertEntries convertKey convertValue done entries).Unplaced := by
  induction entries generalizing done with
  | nil => exact .pure
  | cons entry rest ih =>
    exact .bind (keys entry.1) fun key => .bind (values entry.2) fun value => .get fun _ =>
      .bind (.found _) fun _ => ih _

/-- **A conversion** raises its faults without a place. -/
theorem coerce_unplaced (type : Ty) (value : Value) : (coerce type value).Unplaced := by
  induction type generalizing value with
  | any => exact .pure
  | unknown name => exact .fail
  | void => exact .pure
  | list element ih =>
    cases value with
    | void | untyped => exact zeroOf_unplaced _
    | list handle =>
      rw [coerce]
      refine .get fun store => ?_
      dsimp only
      split
      · exact .pure
      · exact .bind (.mapM ih _) fun _ => .newList
    | _ => exact .fail
  | dict keyType valueType ihKey ihValue =>
    cases value with
    | void | untyped => exact zeroOf_unplaced _
    | dict handle =>
      rw [coerce]
      refine .get fun store => ?_
      dsimp only
      split
      · exact .pure
      · exact .bind (convertEntries_unplaced ihKey ihValue _ _) fun _ => .newDict
    | _ => exact .fail
  | _ =>
    cases value <;> first
      | exact .pure
      | exact .fail

/-- A cast to an integer. -/
theorem unplaced_castInt (value : Value) : Unplaced (castInt value) := by
  cases value with
  | int n => exact .ok
  | boolean b => exact .ok
  | float x => exact unplaced_truncate x
  | complex re im => exact unplaced_truncate re
  | text s =>
    unfold castInt
    dsimp only
    split
    · exact .ok
    · split
      · exact unplaced_truncate _
      · exact .cause _
  | _ => exact .cause _

/-- A cast to a floating-point number. -/
theorem unplaced_castFloat (value : Value) : Unplaced (castFloat value) := by
  cases value with
  | int n => exact .ok
  | boolean b => exact .ok
  | float x => exact .ok
  | complex re im => exact .ok
  | text s =>
    unfold castFloat
    dsimp only
    split
    · exact .ok
    · exact .cause _
  | _ => exact .cause _

/-- A cast to a complex number. -/
theorem unplaced_castComplex (value : Value) : Unplaced (castComplex value) := by
  cases value with
  | complex re im => exact .ok
  | text s =>
    unfold castComplex
    dsimp only
    split
    · exact .ok
    · exact .cause _
  | _ =>
    simp only [castComplex]
    exact (unplaced_castFloat _).map

/-- **A cast** raises its faults without a place. -/
theorem cast_unplaced (type : Ty) (value : Value) : (cast type value).Unplaced := by
  induction type generalizing value with
  | any => exact .pure
  | unknown name => exact .fail
  | void => exact .pure
  | int =>
    cases value with
    | void | untyped => exact zeroOf_unplaced _
    | _ =>
      simp only [cast]
      exact .bind (.lift (unplaced_castInt _)) fun _ => .pure
  | float =>
    cases value with
    | void | untyped => exact zeroOf_unplaced _
    | _ =>
      simp only [cast]
      exact .bind (.lift (unplaced_castFloat _)) fun _ => .pure
  | complex =>
    cases value with
    | void | untyped => exact zeroOf_unplaced _
    | _ =>
      simp only [cast]
      exact .bind (.lift (unplaced_castComplex _)) fun _ => .pure
  | boolean =>
    cases value with
    | void | untyped => exact zeroOf_unplaced _
    | _ =>
      simp only [cast]
      exact .get fun _ => .pure
  | text =>
    cases value with
    | void | untyped => exact zeroOf_unplaced _
    | _ =>
      simp only [cast]
      exact .get fun _ => .bind (.found _) fun _ => .pure
  | list element ih =>
    have copied (values : List Value) :
        (do let items ← values.mapM (cast element); Alloc.newList element items).Unplaced :=
      .bind (.mapM ih values) fun _ => .newList
    cases value with
    | void | untyped => exact zeroOf_unplaced _
    | list handle => exact .get fun store => copied _
    | text s => exact copied _
    | dict handle => exact .get fun store => copied _
    | _ => exact .fail
  | dict keyType valueType keys values =>
    cases value with
    | void | untyped => exact zeroOf_unplaced _
    | dict handle =>
      refine .get fun store => .bind (convertEntries_unplaced (fun key => ?_) (fun value => ?_) _ _)
        fun _ => .newDict
      · exact .bind (keys key) fun _ => coerce_unplaced keyType _
      · exact .bind (values value) fun _ => coerce_unplaced valueType _
    | _ => exact .fail

/-- An arithmetic operator on two values. -/
theorem binary_unplaced (op : BinaryOp) (left right : Value) : (binary op left right).Unplaced := by
  refine .get fun store => ?_
  split
  · exact .bind (.mapM (coerce_unplaced _) _) fun _ => .newList
  · exact .bind (.found _) fun _ => .newList
  · split
    · exact .bind (.found _) fun _ => .bind (.found _) fun _ => .pure
    · exact .lift (unplaced_numeric _ left right)
  · exact .lift (unplaced_numeric _ left right)

end Value

/-! ## Containers -/

/-- The position that a value names. -/
theorem unplaced_indexIn (container : String) (index : Value) (length : Nat) :
    Unplaced (indexIn container index length) := by
  unfold indexIn
  split
  · exact .cause _
  · split
    · exact .ok
    · exact .cause _

/-- The values in ascending order. -/
theorem unplaced_sortValues (items : List Value) : Unplaced (sortValues items) := by
  unfold sortValues
  split
  · exact .ok
  · split
    · exact .ok
    · exact .cause _

/-- The integers of a range. -/
theorem unplaced_rangeItems (first last step : Int64) (inclusive : Bool) :
    Unplaced (rangeItems first last step inclusive) := by
  unfold rangeItems
  dsimp only
  split
  · exact .cause _
  · split
    · exact .cause _
    · exact .ok

namespace Alloc

/-- A range as a list. -/
theorem range_unplaced (first last step : Int64) (inclusive : Bool) :
    (range first last step inclusive).Unplaced :=
  .bind (.lift (unplaced_rangeItems first last step inclusive)) fun _ => .newList

/-- The element of a container. -/
theorem index_unplaced (target position : Value) : (index target position).Unplaced := by
  cases target with
  | list handle => exact .get fun _ => .bind (.lift (unplaced_indexIn _ _ _)) fun _ => .pure
  | dict handle => exact .get fun _ => .bind (.found _) fun _ => .pure
  | text s => exact .bind (.lift (unplaced_indexIn _ _ _)) fun _ => .pure
  | _ => exact .fail

/-- Giving the item of a list a value. -/
theorem listSet_unplaced (handle : Handle) (index value : Value) :
    (listSet handle index value).Unplaced :=
  .get fun _ => .bind (Value.coerce_unplaced _ value) fun _ => .get fun _ =>
    .bind (.lift (unplaced_indexIn _ _ _)) fun _ => .change

/-- Giving a key of a dictionary a value. -/
theorem dictSet_unplaced (handle : Handle) (key value : Value) :
    (dictSet handle key value).Unplaced :=
  .get fun _ => .bind (Value.coerce_unplaced _ key) fun _ => .get fun _ =>
    .bind (Value.coerce_unplaced _ value) fun _ => .get fun _ => .bind (.found _) fun _ => .set

/-- Putting a value behind the items of a list. -/
theorem listPush_unplaced (handle : Handle) (value : Value) : (listPush handle value).Unplaced :=
  .get fun _ => .bind (Value.coerce_unplaced _ value) fun _ => .change

/-- Noting that a variable holds a list. -/
theorem listSubscribe_unplaced (handle : Handle) (name : String) :
    (listSubscribe handle name).Unplaced := .change

/-- Noting that a variable holds a dictionary. -/
theorem dictSubscribe_unplaced (handle : Handle) (name : String) :
    (dictSubscribe handle name).Unplaced := .change

/-- Whether a container holds a value. -/
theorem contains_unplaced (container value : Value) : (contains container value).Unplaced := by
  unfold contains
  split
  · exact .get fun _ => .found _
  · exact .get fun _ => .bind (.found _) fun _ => .pure
  · exact .pure
  · exact .fail
  · exact .fail

/-- Taking a value out of a container. -/
theorem remove_unplaced (container value : Value) : (remove container value).Unplaced := by
  cases container with
  | list handle =>
    refine .bind (.get fun store => .bind (.found _) fun removed => ?_) fun _ => .pure
    split
    · exact .pure
    · exact .bind .set fun _ => .pure
  | dict handle =>
    refine .bind (.get fun store => .bind (.found _) fun removed => ?_) fun _ => .pure
    split
    · exact .pure
    · exact .bind .set fun _ => .pure
  | _ => exact .fail

/-- The part of a sequence. -/
theorem slice_unplaced (sequence : Value) (first last : Int64) :
    (slice sequence first last).Unplaced := by
  cases sequence with
  | list handle => exact .get fun _ => .newList
  | text s => exact .pure
  | _ => exact .fail

end Alloc

/-! ## Documents -/

/-- Writing a value as a document. -/
theorem Store.unplaced_document (store : Store) (set : Document.Setting) (value : Value) :
    StopsUnplaced (store.document set value) :=
  documentWithin_onlyFaults (·.span = .unknown) rfl (fun _ => rfl) _ value

mutual

/-- The value of a document. -/
theorem Document.toValue_unplaced : ∀ document : Document, document.toValue.Unplaced
  | .null | .boolean _ | .integer _ | .float _ | .text _ => by
    rw [toValue]
    exact .pure
  | .array items => by
    rw [toValue]
    exact .bind (toValues_unplaced items) fun _ => .newList
  | .object members => by
    rw [toValue]
    exact .bind (toEntries_unplaced [] members) fun _ => .newDict

/-- The values of documents in order. -/
theorem Document.toValues_unplaced : ∀ items : List Document, (Document.toValues items).Unplaced
  | [] => by
    rw [toValues]
    exact .pure
  | item :: items => by
    rw [toValues]
    exact .bind (toValue_unplaced item) fun _ => .bind (toValues_unplaced items) fun _ => .pure

/-- The entries that the members of an object become. -/
theorem Document.toEntries_unplaced (before : List (Value × Value)) :
    ∀ members : List (String × Document), (Document.toEntries before members).Unplaced
  | [] => by
    rw [toEntries]
    exact .pure
  | (_, document) :: members => by
    rw [toEntries]
    exact .bind (toValue_unplaced document) fun _ => .get fun _ => .bind (.found _) fun set =>
      toEntries_unplaced set members

end

/-- The value of the document that a text spells. -/
theorem Alloc.ofDocumentText_unplaced (text : String) : (ofDocumentText text).Unplaced := by
  unfold ofDocumentText
  split
  · exact Document.toValue_unplaced _
  · exact .fail

/-! ## Arguments of calls -/

/-- The number of items in a value. -/
theorem unplaced_lengthOf (store : Store) (value : Value) : Unplaced (lengthOf store value) := by
  cases value with
  | text s => exact .ok
  | list handle => exact .ok
  | dict handle => exact .ok
  | _ => exact .cause _

/-- The magnitude of a number. -/
theorem unplaced_magnitude (value : Value) : Unplaced (magnitude value) := by
  cases value with
  | int n =>
    rw [magnitude]
    exact Value.unplaced_intOr _ _
  | float x => exact .ok
  | complex re im => exact .ok
  | _ => exact .cause _

/-- The best of some numbers after a first one. -/
theorem unplaced_bestFrom (name : String) (better : Float → Float → Bool) (best : Float × Value)
    (values : List Value) : Unplaced (bestFrom name better best values) := by
  induction values generalizing best with
  | nil => exact .ok
  | cons value rest ih =>
    unfold bestFrom
    split
    · exact .cause _
    · exact ih _

/-- The best of some numbers. -/
theorem unplaced_bestOf (name : String) (better : Float → Float → Bool) (values : List Value) :
    Unplaced (bestOf name better values) := by
  unfold bestOf
  split
  · exact .cause _
  · split
    · exact .cause _
    · exact unplaced_bestFrom _ _ _ _

/-- The pattern that a text spells. -/
theorem unplaced_readPattern (text : String) : Unplaced (readPattern text) := by
  unfold readPattern
  split
  · exact .cause _
  · split
    · exact .cause _
    · exact .ok

namespace Call

variable (call : Call) (place : Nat)

/-- A number of arguments. -/
theorem unplaced_expect (count : Nat) : Unplaced (call.expect count) := by
  unfold expect
  split
  · exact .ok
  · exact .cause _

/-- The argument at a place. -/
theorem unplaced_argument : Unplaced (call.argument place) := by
  unfold argument
  split
  · exact .ok
  · exact .cause _

/-- An argument that is demanded as something, such as a number. -/
theorem unplaced_demand {α : Type} (kind : String) (read : Value → Option α) :
    Unplaced (call.demand kind read place) := by
  refine (call.unplaced_argument place).bind fun value => ?_
  split
  · exact .ok
  · exact .cause _

/-- An argument that is a pattern. -/
theorem unplaced_pattern : Unplaced (call.pattern place) :=
  (call.unplaced_demand place _ _).bind fun _ => unplaced_readPattern _

/-- The pieces of a text. -/
theorem unplaced_split : Unplaced call.split := by
  refine (call.unplaced_demand 0 _ _).bind fun whole => ?_
  split
  · exact .ok
  · refine (call.unplaced_demand 1 _ _).bind fun separator => ?_
    split
    · exact .cause _
    · exact .ok

/-- The only argument, changed. -/
theorem unplaced_changed (change : String → String) : Unplaced (call.changed change) :=
  (call.unplaced_expect 1).bind fun _ => (call.unplaced_demand 0 _ _).bind fun _ => .ok

/-- The only argument, rounded. -/
theorem unplaced_rounded (round : Float → Float) : Unplaced (call.rounded round) := by
  refine (call.unplaced_expect 1).bind fun _ => (call.unplaced_argument 0).bind fun value => ?_
  split
  · exact .ok
  · exact (call.unplaced_demand 0 _ _).bind fun _ => (unplaced_truncate _).bind fun _ => .ok

/-- The first argument raised to the power of the second. -/
theorem unplaced_power : Unplaced call.power := by
  refine (call.unplaced_expect 2).bind fun _ => ?_
  refine (call.unplaced_argument 0).bind fun base => ?_
  refine (call.unplaced_argument 1).bind fun exponent => ?_
  split
  · split
    · exact Value.unplaced_intOr _ _
    · exact .ok
  · exact (call.unplaced_demand 0 _ _).bind fun _ => (call.unplaced_demand 1 _ _).bind fun _ => .ok

/-- The square root of the only argument. -/
theorem unplaced_root : Unplaced call.root := by
  refine (call.unplaced_expect 1).bind fun _ => (call.unplaced_demand 0 _ _).bind fun x => ?_
  split
  · exact .cause _
  · exact .ok

end Call

/-! ## Variables and signals -/

namespace ScopeStack

variable (scopes : ScopeStack) (name : String)

/-- The value of a variable. -/
theorem unplaced_lookup : Unplaced (scopes.lookup name) := by
  unfold lookup
  split
  · exact .ok
  · exact .cause _

/-- The depth of a variable. -/
theorem unplaced_depthOf : Unplaced (scopes.depthOf name) := by
  unfold depthOf
  split
  · exact .ok
  · split
    · exact .ok
    · exact .cause _

/-- A declaration. -/
theorem declare_unplaced (value : Value) (declared : Ty) :
    (scopes.declare name value declared).Unplaced :=
  .bind (Value.coerce_unplaced declared value) fun _ => .pure

/-- An assignment. -/
theorem assign_unplaced (value : Value) : (scopes.assign name value).Unplaced := by
  unfold assign
  split
  · exact .fail
  · split
    · exact .bind .pure fun _ => .pure
    · exact .get fun store => .bind (Value.coerce_unplaced _ value) fun _ => .pure

end ScopeStack

namespace SignalTable

variable (table : SignalTable) (name : String)

/-- Declaring a signal. -/
theorem unplaced_declare : Unplaced (table.declare name) := by
  unfold declare
  split
  · exact .cause _
  · exact .ok

/-- The bodies that wait for a signal. -/
theorem unplaced_bodies : Unplaced (table.bodies name) := by
  unfold bodies
  split
  · exact .ok
  · exact .cause _

/-- Letting a body wait for a signal. -/
theorem unplaced_attach (body : HandlerBody) : Unplaced (table.attach name body) :=
  (table.unplaced_bodies name).bind fun _ => .ok

end SignalTable

end ReactiveScript
