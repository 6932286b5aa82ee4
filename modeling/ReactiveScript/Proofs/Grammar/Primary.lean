import ReactiveScript.Proofs.Grammar.Reading

/-! # Literals, names and brackets

What the tightest layer of the grammar reads: a literal, a name, a call, a group, a list or a
dictionary. What stands in brackets is a row of expressions, or of entries, with commas between
them. -/

namespace ReactiveScript

/-! ## Numerals -/

namespace Number

/-- The word of an integer that is one. -/
theorem checked_toInt (n : Int64) : checked n.toInt = some n := by
  unfold checked least bound
  rw [if_pos ⟨n.le_toInt, n.toInt_lt⟩, Int64.ofInt_toInt]

/-- Digits have no sign before them. -/
theorem splitSign_digits {chars : List Char} (h : ∀ c ∈ chars, c.isDigit = true) :
    splitSign chars = (false, chars) := by
  unfold splitSign
  split
  · exact absurd (h '-' List.mem_cons_self) (by decide)
  · exact absurd (h '+' List.mem_cons_self) (by decide)
  · rfl

/-- **An integer is read off its decimal digits.** -/
theorem readWord_repr {n : Int64} (h : 0 ≤ n.toInt) :
    readWord n.toInt.toNat.repr.toList = some n := by
  have digits : ∀ c ∈ n.toInt.toNat.repr.toList, c.isDigit = true := by
    rw [Nat.toList_repr]
    exact fun c mem => Nat.isDigit_of_mem_toDigits (by decide) (by decide) mem
  have value : naturalOf n.toInt.toNat.repr.toList = n.toInt.toNat := by
    rw [Nat.toList_repr, naturalOf, ← Nat.ofDigitChars_eq_foldl]
    exact Nat.ofDigitChars_toDigits (by decide) (by decide)
  have natural : readNatural n.toInt.toNat.repr.toList = some n.toInt.toNat := by
    have nonempty : n.toInt.toNat.repr.toList ≠ [] := by
      rw [Nat.toList_repr]
      exact Nat.toDigits_ne_nil
    rw [readNatural, if_pos ⟨nonempty, List.all_eq_true.mpr digits⟩, value]
  have integer : readInteger n.toInt.toNat.repr.toList = some n.toInt := by
    rw [readInteger, splitSign_digits digits]
    dsimp only
    rw [natural]
    exact congrArg some (Int.toNat_of_nonneg h)
  rw [readWord, integer, Option.bind_some, checked_toInt]

end Number

/-- The literal of a numeral without a point or an exponent. -/
theorem numberLiteral_repr {token : Token} {n : Int64} (h : 0 ≤ n.toInt)
    (spelled : token.lexeme = n.toInt.toNat.repr) : numberLiteral token = .ok (.int n) := by
  -- Digits alone hold neither a point nor the mark of an exponent.
  have plain : (token.lexeme.toList.any fun c => c = '.' || c = 'e' || c = 'E') = false := by
    rw [List.any_eq_false, spelled, Nat.toList_repr]
    intro c mem mark
    have digit := Nat.isDigit_of_mem_toDigits (by decide) (by decide) mem
    simp only [Bool.or_eq_true, decide_eq_true_iff] at mark
    rcases mark with (rfl | rfl) | rfl <;> exact absurd digit (by decide)
  unfold numberLiteral
  dsimp only
  rw [plain, spelled, Number.readWord_repr h]
  rfl

namespace Parse

variable {α : Type} {stepped : Bool} {fuel : Nat} {tokens rest : List Token} {ending : Span}
variable {token closing : Token} {expression : Expr}

/-- Another symbol than the one that stands there is not taken. -/
theorem run_accept_symbol {text other : String} (h : token.is text = true)
    (different : text ≠ other) :
    (accept other).run ⟨token :: rest, ending⟩ = .ok (false, ⟨token :: rest, ending⟩) := by
  refine run_accept_other ?_
  rw [TokenStream.peek_cons, Token.is_of_is h]
  exact decide_eq_false different

/-! ## Rows -/

/-- Tokens of a row of things with commas between them. -/
inductive Row (one : List Token → α → Prop) : List Token → List α → Prop
  /-- The last thing of a row. -/
  | last {tokens : List Token} {item : α} : one tokens item → Row one tokens [item]
  /-- A thing, a comma, and the rest of the row. -/
  | cons {tokens rest : List Token} {item : α} {items : List α} {comma : Token} :
    one tokens item → comma.is "," = true → Row one rest items →
    Row one (tokens ++ comma :: rest) (item :: items)

/-- Tokens between brackets: none, or a row. -/
def Rows (one : List Token → α → Prop) (tokens : List Token) (items : List α) : Prop :=
  tokens = [] ∧ items = [] ∨ Row one tokens items

/-- The arguments of a call of which at least one follows. -/
theorem run_moreArguments {arguments : List Expr}
    (h : Row (Reads stepped .either) tokens arguments) (closes : closing.is ")" = true)
    (enough : layers * tokens.length + 2 ≤ fuel) :
    (moreArgumentsWithin stepped fuel).run ⟨tokens ++ closing :: rest, ending⟩ =
      .ok (arguments, ⟨rest, ending⟩) := by
  -- Every argument pays for itself and for the comma behind it.
  induction h generalizing fuel with
  | last read =>
    obtain ⟨fuel, rfl⟩ : ∃ n, fuel = n + 1 := ⟨fuel - 1, by omega⟩
    have stops : closing.Stops stepped .either :=
      Token.stops_of_is closes (by cases stepped <;> decide)
    rw [moreArgumentsWithin, run_bind_of (read.run_eq (closing :: rest) ending fuel
      (by change _ ≤ fuel + 0; omega) stops),
      run_bind_of (run_accept_symbol closes (by decide))]
    rw [if_neg Bool.false_ne_true, run_bind_of (run_expect closes)]
    rfl
  | @cons first others _ _ separator read comma _ ih =>
    rw [List.length_append, List.length_cons] at enough
    obtain ⟨fuel, rfl⟩ : ∃ n, fuel = n + 1 := ⟨fuel - 1, by omega⟩
    have stops : separator.Stops stepped .either :=
      Token.stops_of_is comma (by cases stepped <;> decide)
    rw [List.append_assoc, List.cons_append, moreArgumentsWithin,
      run_bind_of (read.run_eq (separator :: (others ++ closing :: rest)) ending fuel
        (by change _ ≤ fuel + 0; unfold layers at *; omega) stops),
      run_bind_of (run_accept comma), if_pos rfl,
      run_bind_of (ih (by unfold layers at *; omega))]
    rfl

/-- The arguments of a call. -/
theorem run_arguments {arguments : List Expr} (h : Rows (Reads stepped .either) tokens arguments)
    (closes : closing.is ")" = true) (enough : layers * tokens.length + 3 ≤ fuel) :
    (argumentsWithin stepped fuel).run ⟨tokens ++ closing :: rest, ending⟩ =
      .ok (arguments, ⟨rest, ending⟩) := by
  obtain ⟨fuel, rfl⟩ : ∃ n, fuel = n + 1 := ⟨fuel - 1, by omega⟩
  rcases h with ⟨rfl, rfl⟩ | row
  · rw [argumentsWithin, List.nil_append, run_bind_of (run_accept closes)]
    rfl
  · -- The first token starts an argument, so it does not close the brackets.
    obtain ⟨first, more, rfl, starts⟩ : ∃ first more, tokens = first :: more ∧
        first.Starts .either := by
      cases row with
      | last read => exact read.starts
      | cons read _ _ =>
        obtain ⟨first, more, rfl, starts⟩ := read.starts
        exact ⟨first, _, rfl, starts⟩
    have unclosed : (accept ")").run ⟨first :: more ++ closing :: rest, ending⟩ =
        .ok (false, ⟨first :: more ++ closing :: rest, ending⟩) := run_accept_other starts.group
    rw [argumentsWithin, run_bind_of unclosed, if_neg Bool.false_ne_true]
    exact run_moreArguments row closes (by omega)

/-- Tokens of things with commas between them, of which one may also stand behind the last. -/
inductive Series (one : List Token → α → Prop) : List Token → List α → Prop
  /-- Nothing. -/
  | nil : Series one [] []
  /-- The last thing, without a comma behind it. -/
  | last {tokens : List Token} {item : α} : one tokens item → Series one tokens [item]
  /-- A thing, a comma, and what follows. -/
  | cons {tokens rest : List Token} {item : α} {items : List α} {comma : Token} :
    one tokens item → comma.is "," = true → Series one rest items →
    Series one (tokens ++ comma :: rest) (item :: items)

/-- A row may stand where a comma behind it is allowed. -/
theorem Rows.series {one : List Token → α → Prop} {items : List α} (h : Rows one tokens items) :
    Series one tokens items := by
  rcases h with ⟨rfl, rfl⟩ | row
  · exact .nil
  · induction row with
    | last read => exact .last read
    | cons read comma _ ih => exact .cons read comma ih

/-- The items of a list. -/
theorem run_items {items : List Expr} (h : Series (Reads stepped .either) tokens items)
    (closes : closing.is "]" = true) (enough : layers * tokens.length + 2 ≤ fuel) :
    (itemsWithin stepped fuel).run ⟨tokens ++ closing :: rest, ending⟩ =
      .ok (items, ⟨rest, ending⟩) := by
  have unclosed {tokens more : List Token} {item : Expr}
      (read : Reads stepped .either tokens item) :
      (accept "]").run ⟨tokens ++ more, ending⟩ = .ok (false, ⟨tokens ++ more, ending⟩) := by
    obtain ⟨first, others, rfl, starts⟩ := read.starts
    exact run_accept_other starts.list
  induction h generalizing fuel with
  | nil =>
    obtain ⟨fuel, rfl⟩ : ∃ n, fuel = n + 1 := ⟨fuel - 1, by omega⟩
    rw [itemsWithin, List.nil_append, run_bind_of (run_accept closes)]
    rfl
  | last read =>
    obtain ⟨fuel, rfl⟩ : ∃ n, fuel = n + 1 := ⟨fuel - 1, by omega⟩
    have stops : closing.Stops stepped .either :=
      Token.stops_of_is closes (by cases stepped <;> decide)
    rw [itemsWithin, run_bind_of (unclosed read), if_neg Bool.false_ne_true,
      run_bind_of (read.run_eq (closing :: rest) ending fuel
        (by change _ ≤ fuel + 0; omega) stops),
      run_bind_of (run_accept_symbol closes (by decide))]
    rw [if_neg Bool.false_ne_true, run_bind_of (run_expect closes)]
    rfl
  | @cons first others _ _ separator read comma _ ih =>
    rw [List.length_append, List.length_cons] at enough
    obtain ⟨fuel, rfl⟩ : ∃ n, fuel = n + 1 := ⟨fuel - 1, by omega⟩
    have stops : separator.Stops stepped .either :=
      Token.stops_of_is comma (by cases stepped <;> decide)
    rw [List.append_assoc, List.cons_append, itemsWithin, run_bind_of (unclosed read),
      if_neg Bool.false_ne_true,
      run_bind_of (read.run_eq (separator :: (others ++ closing :: rest)) ending fuel
        (by change _ ≤ fuel + 0; unfold layers at *; omega) stops),
      run_bind_of (run_accept comma), if_pos rfl,
      run_bind_of (ih (by unfold layers at *; omega))]
    rfl

/-- An entry of a dictionary: a key without steps in it, a colon and a value. -/
inductive ReadsEntry (stepped : Bool) : List Token → Expr × Expr → Prop
  | intro {left right : List Token} {key value : Expr} {colon : Token} :
    Reads false .either left key → colon.is ":" = true → Reads stepped .either right value →
    ReadsEntry stepped (left ++ colon :: right) (key, value)

/-- The entries of a dictionary. -/
theorem run_entries {entries : List (Expr × Expr)}
    (h : Series (ReadsEntry stepped) tokens entries)
    (closes : closing.is "\x7d" = true) (enough : layers * tokens.length + 2 ≤ fuel) :
    (entriesWithin stepped fuel).run ⟨tokens ++ closing :: rest, ending⟩ =
      .ok (entries, ⟨rest, ending⟩) := by
  have unclosed {tokens more : List Token} {key : Expr} (read : Reads false .either tokens key) :
      (accept "\x7d").run ⟨tokens ++ more, ending⟩ = .ok (false, ⟨tokens ++ more, ending⟩) := by
    obtain ⟨first, others, rfl, starts⟩ := read.starts
    exact run_accept_other starts.dict
  induction h generalizing fuel with
  | nil =>
    obtain ⟨fuel, rfl⟩ : ∃ n, fuel = n + 1 := ⟨fuel - 1, by omega⟩
    rw [entriesWithin, List.nil_append, run_bind_of (run_accept closes)]
    rfl
  | last entry =>
    obtain @⟨left, right, key, value, separator, read, colon, read'⟩ := entry
    rw [List.length_append, List.length_cons] at enough
    obtain ⟨fuel, rfl⟩ : ∃ n, fuel = n + 1 := ⟨fuel - 1, by omega⟩
    -- A colon goes on with no expression in which ranges take no step.
    have between : separator.Stops false .either := Token.stops_of_is colon (by decide)
    have stops : closing.Stops stepped .either :=
      Token.stops_of_is closes (by cases stepped <;> decide)
    rw [List.append_assoc, List.cons_append, entriesWithin, run_bind_of (unclosed read),
      if_neg Bool.false_ne_true,
      run_bind_of (read.run_eq (separator :: (right ++ closing :: rest)) ending fuel
        (by change _ ≤ fuel + 0; unfold layers at *; omega) between),
      run_bind_of (run_expect colon),
      run_bind_of (read'.run_eq (closing :: rest) ending fuel
        (by change _ ≤ fuel + 0; unfold layers at *; omega) stops),
      run_bind_of (run_accept_symbol closes (by decide))]
    rw [if_neg Bool.false_ne_true, run_bind_of (run_expect closes)]
    rfl
  | @cons _ others _ _ behind entry comma _ ih =>
    obtain @⟨left, right, key, value, separator, read, colon, read'⟩ := entry
    simp only [List.length_append, List.length_cons] at enough
    obtain ⟨fuel, rfl⟩ : ∃ n, fuel = n + 1 := ⟨fuel - 1, by omega⟩
    have between : separator.Stops false .either := Token.stops_of_is colon (by decide)
    have stops : behind.Stops stepped .either :=
      Token.stops_of_is comma (by cases stepped <;> decide)
    rw [List.append_assoc, List.append_assoc, List.cons_append, List.cons_append, entriesWithin,
      run_bind_of (unclosed read), if_neg Bool.false_ne_true,
      run_bind_of (read.run_eq (separator :: (right ++ behind :: (others ++ closing :: rest)))
        ending fuel (by change _ ≤ fuel + 0; unfold layers at *; omega) between),
      run_bind_of (run_expect colon),
      run_bind_of (read'.run_eq (behind :: (others ++ closing :: rest)) ending fuel
        (by change _ ≤ fuel + 0; unfold layers at *; omega) stops),
      run_bind_of (run_accept comma), if_pos rfl,
      run_bind_of (ih (by unfold layers at *; omega))]
    rfl

/-! ## The tightest layer -/

/-- What the rule of the tightest layer reads with enough fuel. -/
theorem Reads.ofPrimary (starts : ∃ first more, tokens = first :: more ∧ first.Starts .primary)
    (h : ∀ rest ending fuel, layers * tokens.length ≤ fuel + 10 →
      (TokenStream.peek ⟨rest, ending⟩).Stops stepped .primary →
      (primaryWithin stepped (fuel + 1)).run ⟨tokens ++ rest, ending⟩ =
        .ok (expression, ⟨rest, ending⟩)) :
    Reads stepped .primary tokens expression := by
  refine ⟨starts, fun rest ending fuel spare positive enough follow => ?_⟩
  have nonempty : 1 ≤ tokens.length := by
    obtain ⟨first, more, rfl, _⟩ := starts
    exact Nat.succ_le_succ (Nat.zero_le _)
  change _ ≤ fuel + 9 at enough
  obtain ⟨fuel, rfl⟩ : ∃ n, fuel = n + 2 := ⟨fuel - 2, by unfold layers at enough; omega⟩
  refine ⟨fuel, by unfold layers at enough; omega, ?_⟩
  rw [exprWithin, h rest ending fuel (by omega) follow]
  rfl

/-- A number. -/
theorem Reads.number {value : Literal} (kind : token.kind = .number)
    (read : numberLiteral token = .ok value) :
    Reads stepped .primary [token] (.literal token.span value) := by
  refine Reads.ofPrimary ⟨_, _, rfl, Token.starts_of_kind (by simp [kind]) (by simp [kind])⟩ ?_
  intro rest ending fuel _ _
  rw [primaryWithin, List.singleton_append, run_peek_bind, TokenStream.peek_cons, kind]
  dsimp only
  rw [run_advance_bind, read]
  rfl

/-- An imaginary number. -/
theorem Reads.imaginary {value : Literal} (kind : token.kind = .imaginary)
    (read : imaginaryLiteral token = .ok value) :
    Reads stepped .primary [token] (.literal token.span value) := by
  refine Reads.ofPrimary ⟨_, _, rfl, Token.starts_of_kind (by simp [kind]) (by simp [kind])⟩ ?_
  intro rest ending fuel _ _
  rw [primaryWithin, List.singleton_append, run_peek_bind, TokenStream.peek_cons, kind]
  dsimp only
  rw [run_advance_bind, read]
  rfl

/-- A text. -/
theorem Reads.text (kind : token.kind = .text) :
    Reads stepped .primary [token] (.literal token.span (.text token.lexeme)) := by
  refine Reads.ofPrimary ⟨_, _, rfl, Token.starts_of_kind (by simp [kind]) (by simp [kind])⟩ ?_
  intro rest ending fuel _ _
  rw [primaryWithin, List.singleton_append, run_peek_bind, TokenStream.peek_cons, kind]
  rfl

/-- A truth value. -/
theorem Reads.boolean {b : Bool} (is : token.is (if b then "true" else "false") = true) :
    Reads stepped .primary [token] (.literal token.span (.boolean b)) := by
  obtain ⟨kind, lexeme, span⟩ := token
  rcases Token.kind_of_is is with ⟨rfl | rfl, rfl⟩ <;> cases b <;>
    exact Reads.ofPrimary ⟨_, _, rfl, ⟨rfl, rfl, rfl, fun _ => ⟨rfl, rfl, rfl⟩⟩⟩
      fun rest ending fuel _ _ => rfl

/-- A literal is read off its word. -/
theorem Reads.literal {value : Literal} (printable : value.isPrintable = true)
    (spelled : token.word = value.word) :
    Reads stepped .primary [token] (.literal token.span value) := by
  have kind : token.kind = value.word.1 := congrArg Prod.fst spelled
  have lexeme : token.lexeme = value.word.2 := congrArg Prod.snd spelled
  cases value with
  | int n =>
    have natural : 0 ≤ n.toInt := by simpa [Literal.isPrintable] using printable
    exact .number kind (numberLiteral_repr natural lexeme)
  | boolean b =>
    apply Reads.boolean
    cases b <;> simp [Token.is, kind, lexeme, Literal.word]
  | text s =>
    obtain rfl : token.lexeme = s := lexeme
    exact .text kind
  | float x => cases printable
  | imaginary x => cases printable

/-- A name that no bracket follows is a variable. -/
theorem Reads.var (kind : token.kind = .identifier) :
    Reads stepped .primary [token] (.var token.span token.lexeme) := by
  refine Reads.ofPrimary ⟨_, _, rfl, Token.starts_of_kind (by simp [kind]) (by simp [kind])⟩ ?_
  intro rest ending fuel _ follow
  rw [primaryWithin, List.singleton_append, run_peek_bind, TokenStream.peek_cons, kind]
  dsimp only
  rw [run_advance_bind, run_bind_of (run_accept_other (follow "(" List.mem_cons_self))]
  rfl

/-- A call: a name and its arguments in brackets. -/
theorem Reads.call {bracket : Token} {arguments : List Expr} (kind : token.kind = .identifier)
    (opens : bracket.is "(" = true) (rows : Rows (Reads stepped .either) tokens arguments)
    (closes : closing.is ")" = true) :
    Reads stepped .primary (token :: bracket :: (tokens ++ [closing]))
      (.call token.span token.lexeme arguments) := by
  refine Reads.ofPrimary ⟨_, _, rfl, Token.starts_of_kind (by simp [kind]) (by simp [kind])⟩ ?_
  intro rest ending fuel enough follow
  simp only [List.length_cons, List.length_append, List.length_nil] at enough
  rw [primaryWithin, List.cons_append, run_peek_bind, TokenStream.peek_cons, kind]
  dsimp only
  rw [run_advance_bind, List.cons_append, run_bind_of (run_accept opens), if_pos rfl,
    List.append_assoc, List.singleton_append,
    run_bind_of (run_arguments rows closes (by unfold layers at *; omega))]
  rfl

/-- A bracket that opens something starts an expression of every layer. -/
theorem starts_of_bracket {text : String} {level : Level} (opens : token.is text = true)
    (bracket : text = "(" ∨ text = "[" ∨ text = "\x7b") : token.Starts level := by
  obtain ⟨kind, lexeme, span⟩ := token
  obtain ⟨rfl | rfl, rfl⟩ := Token.kind_of_is opens <;> rcases bracket with rfl | rfl | rfl <;>
    exact ⟨rfl, rfl, rfl, fun _ => ⟨rfl, rfl, rfl⟩⟩

/-- What the rule of the tightest layer does behind an opening parenthesis. -/
theorem run_primaryWithin_group (opens : token.is "(" = true) :
    (primaryWithin stepped (fuel + 1)).run ⟨token :: rest, ending⟩ =
      (exprWithin stepped fuel .either >>= fun inner =>
        expect ")" "to close group" >>= fun _ => pure inner).run ⟨rest, ending⟩ := by
  obtain ⟨kind, lexeme, span⟩ := token
  obtain ⟨rfl | rfl, rfl⟩ := Token.kind_of_is opens <;> rfl

/-- What the rule of the tightest layer does behind the opening bracket of a list. -/
theorem run_primaryWithin_list (opens : token.is "[" = true) :
    (primaryWithin stepped (fuel + 1)).run ⟨token :: rest, ending⟩ =
      (itemsWithin stepped fuel >>= fun items => pure (Expr.list token.span items)).run
        ⟨rest, ending⟩ := by
  obtain ⟨kind, lexeme, span⟩ := token
  obtain ⟨rfl | rfl, rfl⟩ := Token.kind_of_is opens <;> rfl

/-- What the rule of the tightest layer does behind an opening brace. -/
theorem run_primaryWithin_dict (opens : token.is "\x7b" = true) :
    (primaryWithin stepped (fuel + 1)).run ⟨token :: rest, ending⟩ =
      (entriesWithin stepped fuel >>= fun entries => pure (Expr.dict token.span entries)).run
        ⟨rest, ending⟩ := by
  obtain ⟨kind, lexeme, span⟩ := token
  obtain ⟨rfl | rfl, rfl⟩ := Token.kind_of_is opens <;> rfl

/-- An expression in parentheses. -/
theorem Reads.group {bracket : Token} (h : Reads stepped .either tokens expression)
    (opens : bracket.is "(" = true) (closes : closing.is ")" = true) :
    Reads stepped .primary (bracket :: (tokens ++ [closing])) expression := by
  refine Reads.ofPrimary ⟨_, _, rfl, starts_of_bracket opens (by simp)⟩ ?_
  intro rest ending fuel enough follow
  simp only [List.length_cons, List.length_append, List.length_nil] at enough
  have stops : closing.Stops stepped .either :=
    Token.stops_of_is closes (by cases stepped <;> decide)
  have read := h.run_eq (closing :: rest) ending fuel
    (by change _ ≤ fuel + 0; unfold layers at *; omega) stops
  rw [List.cons_append, run_primaryWithin_group opens, List.append_assoc, List.singleton_append,
    run_bind_of read, run_bind_of (run_expect closes)]
  rfl

/-- A list that is written out. -/
theorem Reads.list {bracket : Token} {items : List Expr} (opens : bracket.is "[" = true)
    (series : Series (Reads stepped .either) tokens items) (closes : closing.is "]" = true) :
    Reads stepped .primary (bracket :: (tokens ++ [closing])) (.list bracket.span items) := by
  refine Reads.ofPrimary ⟨_, _, rfl, starts_of_bracket opens (by simp)⟩ ?_
  intro rest ending fuel enough follow
  simp only [List.length_cons, List.length_append, List.length_nil] at enough
  have read : (itemsWithin stepped fuel).run ⟨tokens ++ closing :: rest, ending⟩ =
      .ok (items, ⟨rest, ending⟩) := run_items series closes (by unfold layers at *; omega)
  rw [List.cons_append, run_primaryWithin_list opens, List.append_assoc, List.singleton_append,
    run_bind_of read]
  rfl

/-- A dictionary that is written out. -/
theorem Reads.dict {bracket : Token} {entries : List (Expr × Expr)}
    (opens : bracket.is "\x7b" = true) (series : Series (ReadsEntry stepped) tokens entries)
    (closes : closing.is "\x7d" = true) :
    Reads stepped .primary (bracket :: (tokens ++ [closing])) (.dict bracket.span entries) := by
  refine Reads.ofPrimary ⟨_, _, rfl, starts_of_bracket opens (by simp)⟩ ?_
  intro rest ending fuel enough follow
  simp only [List.length_cons, List.length_append, List.length_nil] at enough
  have read : (entriesWithin stepped fuel).run ⟨tokens ++ closing :: rest, ending⟩ =
      .ok (entries, ⟨rest, ending⟩) := run_entries series closes (by unfold layers at *; omega)
  rw [List.cons_append, run_primaryWithin_dict opens, List.append_assoc, List.singleton_append,
    run_bind_of read]
  rfl

end Parse

end ReactiveScript
