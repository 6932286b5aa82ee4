import ReactiveScript.Proofs.Grammar.Label

/-! # Rules that take words

`Parse.Takes` is the contract of a rule on the words that it is meant for: tokens with these words,
at any places and whatever follows them, if only the next token lets the rule end there, are taken
and nothing behind them is. The steps that rules are made of keep the contract, one word after the
other, so a rule is checked by going through it once. -/

namespace ReactiveScript

namespace Parse

variable {α β : Type} {rule : Parse α} {next : α → Parse β}
variable {word : Word} {words others : List Word} {follow stop : Token → Prop}
variable {good : α → Prop} {wanted : β → Prop}

/-- **A rule takes some words** and gives something of which `good` holds, where the next token
behind the words is one that `follow` admits. -/
def Takes (rule : Parse α) (words : List Word) (follow : Token → Prop) (good : α → Prop) : Prop :=
  ∀ (tokens rest : List Token) (ending : Span), tokens.map Token.word = words →
    follow (TokenStream.peek ⟨rest, ending⟩) →
    ∃ value, good value ∧ rule.run ⟨tokens ++ rest, ending⟩ = .ok (value, ⟨rest, ending⟩)

/-- What stands where some words start, whether there are any or not, is a token that `stop`
admits. -/
def Meets (words : List Word) (follow stop : Token → Prop) : Prop :=
  ∀ (tokens rest : List Token) (ending : Span), tokens.map Token.word = words →
    follow (TokenStream.peek ⟨rest, ending⟩) → stop (TokenStream.peek ⟨tokens ++ rest, ending⟩)

/-- A word at any place. -/
theorem Meets.cons (h : ∀ span, stop ⟨word.1, word.2, span⟩) :
    Meets (word :: words) follow stop := by
  intro tokens rest ending spelled _
  obtain ⟨⟨kind, lexeme, span⟩, more, rfl, rfl, _⟩ := List.map_eq_cons_iff.mp spelled
  exact h span

/-- No words: what follows stands there. -/
theorem Meets.nil (h : ∀ token, follow token → stop token) : Meets [] follow stop := by
  intro tokens rest ending spelled admitted
  obtain rfl := List.map_eq_nil_iff.mp spelled
  exact h _ admitted

/-- Any token is admitted. -/
theorem Meets.any : Meets words follow fun _ => True := fun _ _ _ _ _ => trivial

/-- Words that start with what is admitted start with what is admitted elsewhere too. -/
theorem Meets.imp {other : Token → Prop} (h : Meets words follow stop)
    (weaker : ∀ token, stop token → other token) :
    Meets words follow other :=
  fun tokens rest ending spelled admitted => weaker _ (h tokens rest ending spelled admitted)

/-- Words that start with what is admitted, before others. -/
theorem Meets.append (h : Meets words (fun _ => True) stop) :
    Meets (words ++ others) follow stop := by
  intro tokens rest ending spelled _
  obtain ⟨first, more, rfl, spelled, _⟩ := List.map_eq_append_iff.mp spelled
  rw [List.append_assoc]
  exact h first (more ++ rest) ending spelled trivial

/-! ## Closure -/

/-- No words and no rule. -/
theorem Takes.pure {value : β} (h : wanted value) : Takes (pure value) [] follow wanted := by
  intro tokens rest ending spelled _
  obtain rfl := List.map_eq_nil_iff.mp spelled
  exact ⟨value, h, rfl⟩

/-- One rule after another. -/
theorem Takes.bind (first : Takes rule words stop good) (meets : Meets others follow stop)
    (second : ∀ value, good value → Takes (next value) others follow wanted) :
    Takes (rule >>= next) (words ++ others) follow wanted := by
  intro tokens rest ending spelled admitted
  obtain ⟨taken, more, rfl, spelled, spelled'⟩ := List.map_eq_append_iff.mp spelled
  obtain ⟨value, holds, ran⟩ :=
    first taken (more ++ rest) ending spelled (meets more rest ending spelled' admitted)
  obtain ⟨result, holds', ran'⟩ := second value holds more rest ending spelled' admitted
  rw [← List.append_assoc] at ran
  exact ⟨result, holds', (run_bind_of ran).trans ran'⟩

/-- The last rule that takes words. -/
theorem Takes.last (first : Takes rule words stop good)
    (admits : ∀ token, follow token → stop token)
    (second : ∀ value, good value → Takes (next value) [] follow wanted) :
    Takes (rule >>= next) words follow wanted := by
  have both := first.bind (Meets.nil admits) second
  rwa [List.append_nil] at both

/-- A computation that takes no tokens. -/
theorem Takes.lift {outcome : Except Fault β} {value : β} (same : outcome = .ok value)
    (h : wanted value) : Takes (liftM outcome) [] follow wanted := by
  rw [same]
  exact Takes.pure h

/-- Something less is wanted. -/
theorem Takes.imp (h : Takes rule words follow good) {less : α → Prop}
    (weaker : ∀ value, good value → less value) : Takes rule words follow less := by
  intro tokens rest ending spelled admitted
  obtain ⟨value, holds, ran⟩ := h tokens rest ending spelled admitted
  exact ⟨value, weaker value holds, ran⟩

/-- A rule that does what another one does wherever the words stand. -/
theorem Takes.of_run_eq {other : Parse β} (h : Takes other words follow wanted) {rule : Parse β}
    (same : ∀ (tokens rest : List Token) (ending : Span), tokens.map Token.word = words →
      follow (TokenStream.peek ⟨rest, ending⟩) →
      rule.run ⟨tokens ++ rest, ending⟩ = other.run ⟨tokens ++ rest, ending⟩) :
    Takes rule words follow wanted := by
  intro tokens rest ending spelled admitted
  rw [same tokens rest ending spelled admitted]
  exact h tokens rest ending spelled admitted

/-- A rule that looks at the next token. -/
theorem Takes.peek_bind {next : Token → Parse β}
    (h : ∀ span, Takes (next ⟨word.1, word.2, span⟩) (word :: words) follow wanted) :
    Takes (peek >>= next) (word :: words) follow wanted := by
  intro tokens rest ending spelled admitted
  obtain ⟨⟨kind, lexeme, span⟩, more, rfl, rfl, _⟩ := List.map_eq_cons_iff.mp spelled
  exact h span _ rest ending spelled admitted

/-- A rule that looks at the next token, of which only something is known. -/
theorem Takes.peek_bind_of {next : Token → Parse β} (there : Meets words follow stop)
    (h : ∀ token, stop token → Takes (next token) words follow wanted) :
    Takes (peek >>= next) words follow wanted := by
  intro tokens rest ending spelled admitted
  exact h _ (there tokens rest ending spelled admitted) tokens rest ending spelled admitted

/-- A rule that looks at the stream, but at no more than its next two tokens. -/
theorem Takes.get_bind {second : Word} {next : TokenStream → Parse β}
    (h : ∀ (stream : TokenStream) (span span' : Span), stream.peek = ⟨word.1, word.2, span⟩ →
      stream.second = ⟨second.1, second.2, span'⟩ →
      Takes (next stream) (word :: second :: words) follow wanted) :
    Takes (get >>= next) (word :: second :: words) follow wanted := by
  intro tokens rest ending spelled admitted
  obtain ⟨⟨kind, lexeme, span⟩, more, rfl, rfl, behind⟩ := List.map_eq_cons_iff.mp spelled
  obtain ⟨⟨kind', lexeme', span'⟩, more, rfl, rfl, _⟩ := List.map_eq_cons_iff.mp behind
  exact h _ span span' rfl rfl _ rest ending spelled admitted

/-- A rule that keeps the stream to go back to it, but does not do so. -/
theorem Takes.keep_bind {next : TokenStream → Parse β}
    (h : ∀ stream, Takes (next stream) words follow wanted) :
    Takes (get >>= next) words follow wanted :=
  fun tokens rest ending spelled admitted => h _ tokens rest ending spelled admitted

/-- A rule that passes over the next token. -/
theorem Takes.advance_bind {next : Unit → Parse β} (h : Takes (next ()) words follow wanted) :
    Takes (advance >>= next) (word :: words) follow wanted := by
  intro tokens rest ending spelled admitted
  obtain ⟨token, more, rfl, _, spelled⟩ := List.map_eq_cons_iff.mp spelled
  exact h more rest ending spelled admitted

/-- A rule that takes the next token. -/
theorem Takes.next_bind {rest : Token → Parse β}
    (h : ∀ span, Takes (rest ⟨word.1, word.2, span⟩) words follow wanted) :
    Takes (Parse.next >>= rest) (word :: words) follow wanted := by
  intro tokens behind ending spelled admitted
  obtain ⟨⟨kind, lexeme, span⟩, more, rfl, rfl, spelledRest⟩ := List.map_eq_cons_iff.mp spelled
  exact h span more behind ending spelledRest admitted

/-- A rule that gets its fuel from the tokens that are left. -/
theorem Takes.sized_bind (rest : Nat → Parse β)
    (h : ∀ fuel, words.length ≤ fuel → Takes (rest fuel) words follow wanted) :
    Takes (get >>= fun stream => rest (stream.ahead.length + 1)) words follow wanted := by
  intro tokens behind ending spelled admitted
  refine h _ ?_ tokens behind ending spelled admitted
  rw [← spelled, List.length_map, List.length_append]
  omega

/-- A demanded symbol. -/
theorem Takes.expect_bind {text context : String} {next : Unit → Parse β}
    (h : Takes (next ()) words follow wanted) :
    Takes (expect text context >>= next) (.symbol text :: words) follow wanted := by
  intro tokens rest ending spelled admitted
  obtain ⟨token, more, rfl, word, spelled⟩ := List.map_eq_cons_iff.mp spelled
  obtain ⟨value, holds, ran⟩ := h more rest ending spelled admitted
  exact ⟨value, holds, (run_bind_of (run_expect (Token.is_symbol word))).trans ran⟩

/-- A symbol or keyword that is taken because it stands there. -/
theorem Takes.accept_bind {text : String} {next : Bool → Parse β}
    (is : ∀ span, (Token.mk word.1 word.2 span).is text = true)
    (h : Takes (next true) words follow wanted) :
    Takes (accept text >>= next) (word :: words) follow wanted := by
  intro tokens rest ending spelled admitted
  obtain ⟨⟨kind, lexeme, span⟩, more, rfl, rfl, spelledRest⟩ := List.map_eq_cons_iff.mp spelled
  obtain ⟨value, holds, ran⟩ := h more rest ending spelledRest admitted
  exact ⟨value, holds, (run_bind_of (run_accept (is span))).trans ran⟩

/-- A symbol or keyword that is not taken because something else stands there. -/
theorem Takes.accept_bind_other {text : String} {next : Bool → Parse β}
    (other : Meets words follow fun token => token.is text = false)
    (h : Takes (next false) words follow wanted) :
    Takes (accept text >>= next) words follow wanted :=
  h.of_run_eq fun tokens rest ending spelled admitted =>
    run_bind_of (run_accept_other (other tokens rest ending spelled admitted))

/-- One of some symbols that is taken because it stands there. -/
theorem Takes.acceptAny_bind {texts : List String} {next : Option Token → Parse β}
    (is : ∀ span, texts.any (Token.mk word.1 word.2 span).is = true)
    (h : ∀ span, Takes (next (some ⟨word.1, word.2, span⟩)) words follow wanted) :
    Takes (acceptAny texts >>= next) (word :: words) follow wanted := by
  intro tokens rest ending spelled admitted
  obtain ⟨⟨kind, lexeme, span⟩, more, rfl, rfl, spelledRest⟩ := List.map_eq_cons_iff.mp spelled
  obtain ⟨value, holds, ran⟩ := h span more rest ending spelledRest admitted
  exact ⟨value, holds, (run_bind_of (run_acceptAny (is span))).trans ran⟩

/-- Symbols that are not taken because something else stands there. -/
theorem Takes.acceptAny_bind_other {texts : List String} {next : Option Token → Parse β}
    (other : Meets words follow fun token => texts.any token.is = false)
    (h : Takes (next none) words follow wanted) :
    Takes (acceptAny texts >>= next) words follow wanted := by
  refine h.of_run_eq fun tokens rest ending spelled admitted => ?_
  refine run_bind_of (run_acceptAny_other fun text mem => ?_)
  have none := List.any_eq_false.mp (other tokens rest ending spelled admitted) text mem
  exact Bool.eq_false_iff.mpr none

/-- A rule that asks what stands there. -/
theorem Takes.sees_bind {text : String} {seen : Bool} {next : Bool → Parse β}
    (there : Meets words follow fun token => token.is text = seen)
    (h : Takes (next seen) words follow wanted) :
    Takes (sees text >>= next) words follow wanted := by
  refine h.of_run_eq fun tokens rest ending spelled admitted => ?_
  have same := there tokens rest ending spelled admitted
  rw [← same]
  rfl

/-- A rule that asks whether the source has ended. -/
theorem Takes.seesEnd_bind {ended : Bool} {next : Bool → Parse β}
    (there : Meets words follow fun token => decide (token.kind = .ending) = ended)
    (h : Takes (next ended) words follow wanted) :
    Takes (seesEnd >>= next) words follow wanted := by
  refine h.of_run_eq fun tokens rest ending spelled admitted => ?_
  have same := there tokens rest ending spelled admitted
  rw [← same]
  rfl

/-- A demanded name. -/
theorem Takes.identifier_bind {name context : String} {next : String → Parse β}
    (h : Takes (next name) words follow wanted) :
    Takes (identifier context >>= next) (.name name :: words) follow wanted := by
  intro tokens rest ending spelled admitted
  obtain ⟨⟨kind, lexeme, span⟩, more, rfl, word, spelledRest⟩ := List.map_eq_cons_iff.mp spelled
  cases word
  exact h more rest ending spelledRest admitted

/-- A type starts with a word that starts it. -/
theorem Meets.type {type : Ty} (known : type.isKnown = true) :
    Meets (type.words ++ words) follow fun token => token.startsType = true := by
  intro tokens rest ending spelled _
  obtain ⟨typed, more, rfl, spelled, _⟩ := List.map_eq_append_iff.mp spelled
  obtain ⟨token, typed, rfl, starts⟩ := (ReadsType.of_words known spelled).starts
  exact starts

/-- A type is taken off its words. -/
theorem takes_type {type : Ty} (known : type.isKnown = true) :
    Takes Parse.type type.words (fun token => token.is "<" = false) (· = type) := by
  intro tokens rest ending spelled unopened
  refine ⟨type, rfl, ?_⟩
  have enough : tokens.length ≤ (tokens ++ rest).length + 1 := by
    rw [List.length_append]
    omega
  exact (ReadsType.of_words known spelled).run rest ending _ enough unopened

/-- A type before something that opens no bracket. -/
theorem Takes.type_bind {type : Ty} {next : Ty → Parse β} (known : type.isKnown = true)
    (unopened : Meets words follow fun token => token.is "<" = false)
    (h : Takes (next type) words follow wanted) :
    Takes (Parse.type >>= next) (type.words ++ words) follow wanted :=
  (takes_type known).bind unopened fun _ same => same ▸ h

end Parse

/-! ## Expressions -/

open Parse

/-- **An expression is read back** off the words that it is spelled with, but for its places. -/
def ReadBack (spell : Expr → List Word) (expression : Expr) : Prop :=
  Takes Parse.expr (spell expression) (fun token => token.continuesExpr = false)
    fun read => read.bare = expression.bare

namespace ReadBack

variable {β : Type} {spell : Expr → List Word} {expression : Expr} {words : List Word}
variable {follow : Token → Prop} {wanted : β → Prop} {next : Expr → Parse β}

/-- **An expression before other words**, of which the first does not go on with it. -/
theorem bind (h : ReadBack spell expression)
    (stops : Meets words follow fun token => token.continuesExpr = false)
    (rest : ∀ read : Expr, read.bare = expression.bare → Takes (next read) words follow wanted) :
    Takes (Parse.expr >>= next) (spell expression ++ words) follow wanted :=
  Takes.bind h stops rest

/-- An expression in parentheses. -/
theorem parenthesized_bind (h : ReadBack spell expression) {context : String}
    (rest : ∀ read : Expr, read.bare = expression.bare → Takes (next read) words follow wanted) :
    Takes (parenthesized context >>= next) (parenthesizedWords (spell expression) words) follow
      wanted := by
  unfold parenthesized parenthesizedWords
  simp only [bind_assoc, pure_bind]
  refine .expect_bind (h.bind (.cons fun _ => rfl) fun read same => .expect_bind (rest read same))

/-- The words of an expression start with one that may start an expression. -/
theorem starts (h : ReadBack spell expression) :
    ∃ word more, spell expression = word :: more ∧
      ∀ span, (Token.mk word.1 word.2 span).startsExpr = true := by
  obtain ⟨read, _, ran⟩ := h (unplaced (spell expression)) [] .unknown
    (by rw [unplaced, List.map_map]; exact List.map_id _) rfl
  rw [run_expr] at ran
  have opens := (opens_of_run ran).starts
  cases same : spell expression with
  | nil =>
    -- Nothing starts an expression at the end of the tokens.
    rw [same] at opens
    cases opens
  | cons word more =>
    rw [same] at opens
    exact ⟨word, more, rfl, fun _ => opens⟩

/-- **A label** before its colon. -/
theorem label_bind (h : ReadBack spell expression) (stepless : expression.isStepless = true)
    (colon : Meets words follow fun token => token.word = .symbol ":")
    (rest : ∀ read : Expr, read.bare = expression.bare → Takes (next read) words follow wanted) :
    Takes (exprStepped false >>= next) (spell expression ++ words) follow wanted := by
  intro tokens after ending spelled admitted
  obtain ⟨taken, more, rfl, spelled, spelled'⟩ := List.map_eq_append_iff.mp spelled
  obtain ⟨read, same, ran⟩ := h taken [] .unknown spelled rfl
  rw [List.append_nil] at ran
  obtain ⟨result, holds, ran'⟩ := rest read same more after ending spelled' admitted
  have plain : read.isStepless = true := by
    rw [← read.isStepless_bare, same, expression.isStepless_bare, stepless]
  have labelled := run_exprStepped_label ran plain (colon more after ending spelled' admitted)
  rw [← List.append_assoc] at labelled
  exact ⟨result, holds, (run_bind_of labelled).trans ran'⟩

end ReadBack

end ReactiveScript
