import QueryShapes.Proofs.Parentheses

/-!
# Expressions as they are written

- `Reading.run?_bind_of`: after what the first of two rules takes, the second one goes on.
- `Follows`: what may stand behind an expression, by how tightly it binds.
- `Expr.Written`: the tokens write the expression, with all its parentheses.
- `Rule.leadingForm_nested`: what stands between parentheses is read as an expression in parentheses.
- `Expr.Written.extends`: what is written is read, by the loop over operators as far as it goes.
- `Expr.Written.readsAs`: an expression is read from the tokens that write it, whatever ends it.
-/

namespace QueryShapes

namespace Reading

variable {τ α β : Type}

theorem run?_bind_of {rule : Reading τ α} {next : α → Reading τ β} {items middle : List τ} {a : α}
    (taken : rule.run? items = some (a, middle)) :
    (rule >>= next).run? items = (next a).run? middle := by
  rw [run?_bind, taken]
  rfl

theorem run?_peek? (item : τ) (rest : List τ) :
    peek?.run? (item :: rest) = some (some item, item :: rest) :=
  rfl

theorem run?_next (item : τ) (rest : List τ) : next.run? (item :: rest) = some (item, rest) :=
  rfl

theorem run?_sized (rule : Nat → Reading τ α) (items : List τ) :
    (sized rule).run? items = (rule items.length).run? items :=
  rfl

theorem repeated_of_none {rule : Reading τ (Option α)} {items : List τ}
    (refused : rule.run? items = some (none, items)) :
    (repeated rule).run? items = some ([], items) := by
  rw [repeated, run?_sized, repeatWithin, run?_bind_of refused]
  rfl

variable {separator : Reading τ Bool} {item : Reading τ α}

theorem separatedWithin_mono {fuel fuel' : Nat} {items rest : List τ} {as : List α}
    (enough : fuel ≤ fuel')
    (taken : (separatedWithin separator item fuel).run? items = some (as, rest)) :
    (separatedWithin separator item fuel').run? items = some (as, rest) := by
  induction fuel generalizing fuel' items as with
  | zero => cases taken
  | succ fuel ih =>
    cases fuel' with
    | zero => omega
    | succ fuel' =>
      obtain ⟨a, middle, first, taken⟩ := run?_bind_eq_some.mp taken
      obtain ⟨more, left, marked, taken⟩ := run?_bind_eq_some.mp taken
      rw [separatedWithin, run?_bind_of first, run?_bind_of marked]
      cases more with
      | false => exact taken
      | true =>
        obtain ⟨others, last, later, ⟨⟩⟩ := run?_bind_eq_some.mp taken
        exact (run?_bind_of (ih (Nat.le_of_succ_le_succ enough) later)).trans rfl

theorem separated_one {items rest : List τ} {a : α} (first : item.run? items = some (a, rest))
    (ends : separator.run? rest = some (false, rest)) :
    (separated separator item).run? items = some ([a], rest) := by
  rw [separated, run?_sized, separatedWithin, run?_bind_of first, run?_bind_of ends]
  rfl

theorem separated_cons {mark : τ} {items middle rest : List τ} {a : α} {as : List α}
    (first : item.run? items = some (a, mark :: middle))
    (marked : separator.run? (mark :: middle) = some (true, middle))
    (others : (separated separator item).run? middle = some (as, rest)) :
    (separated separator item).run? items = some (a :: as, rest) := by
  have shorter := (item.leaves_suffix first).length_le
  rw [separated, run?_sized, separatedWithin, run?_bind_of first, run?_bind_of marked]
  exact (run?_bind_of (separatedWithin_mono shorter others)).trans rfl

end Reading

namespace Sql

open Reading

variable {g : Nesting} {strength limit : Nat} {rest : List Token}

/-! ## Words and symbols that are not there -/

theorem symbol_of_head {text : String} {tokens : List Token}
    (other : tokens.head? ≠ some (.symbol text)) :
    (Rule.symbol text).run? tokens = some (false, tokens) := by
  cases tokens with
  | nil => rfl
  | cons token rest => simpa [Rule.symbol, takeIf] using other

theorem keyword_of_head {word : String} (token : Token) (other : token.keyword ≠ word)
    (rest : List Token) : (Rule.keyword word).run? (token :: rest) = some (false, token :: rest) := by
  simpa [Rule.keyword, takeIf] using other

/-- A mark that is not there. -/
theorem after?_of_false {α : Type} {mark : Rule Bool}
    (missing : mark.run? rest = some (false, rest)) (rule : Rule α) :
    (after? mark rule).run? rest = some (none, rest) := by
  rw [after?, run?_bind_of missing]
  rfl

theorem optionalText_of_false {mark : Rule Bool} (missing : mark.run? rest = some (false, rest))
    (introduction : String) (rule : Rule String) :
    (Rule.optionalText introduction mark rule).run? rest = some ("", rest) := by
  rw [Rule.optionalText, run?_bind_of (after?_of_false missing rule)]
  rfl

theorem keywords_of_keyword {word : String}
    (missing : (Rule.keyword word).run? rest = some (false, rest)) (words : List String) :
    (Rule.keywords (word :: words)).run? rest = some (false, rest) := by
  have refused : (Rule.requireKeywords (word :: words)).run? rest = none := by
    change ((Rule.keyword word >>= _) >>= fun _ => Rule.requireKeywords words).run? rest = none
    rw [run?_bind, run?_bind_of missing]
    rfl
  have tried : (attempt (Rule.requireKeywords (word :: words))).run? rest = some (none, rest) := by
    simp [attempt, refused]
  rw [Rule.keywords, run?_bind_of tried]
  rfl

theorem keywordOf?_of_forall {words : List String}
    (missing : ∀ word ∈ words, (Rule.keyword word).run? rest = some (false, rest)) :
    (Rule.keywordOf? words).run? rest = some (none, rest) := by
  induction words with
  | nil => rfl
  | cons word words ih =>
    obtain ⟨first, others⟩ := List.forall_mem_cons.mp missing
    rw [Rule.keywordOf?, run?_bind_of first]
    exact ih others

/-! ## What follows an expression -/

/-- The words that belong to the form before them. -/
def trailingWords : List String := ["COLLATE", "WITHIN", "RESPECT", "IGNORE", "OVER"]

/-- The token does not belong to the form before it. -/
def Token.parts : Token → Bool
  | .symbol text => !(["(", ".", "[", "=>"].contains text)
  | .word n => !trailingWords.contains n.keyword
  | _ => false

/-- What comes next belongs to no form, and binds so tightly to an expression before it. -/
structure Follows (strength : Nat) (rest : List Token) : Prop where
  ahead : Rule.strengthAhead.run? rest = some (strength, rest)
  apart : rest.head?.all Token.parts = true

namespace Follows

theorem nil : Follows 0 [] := ⟨rfl, rfl⟩

theorem close (rest : List Token) : Follows 0 (.symbol ")" :: rest) := ⟨rfl, rfl⟩

theorem comma (rest : List Token) : Follows 0 (.symbol "," :: rest) := ⟨rfl, rfl⟩

theorem head_ne (follows : Follows strength rest) {text : String}
    (joins : Token.parts (.symbol text) = false) : rest.head? ≠ some (.symbol text) := by
  intro head
  have apart := follows.apart
  rw [head] at apart
  exact absurd apart (by simp [joins])

theorem keyword (follows : Follows strength rest) {word : String} (trailing : word ∈ trailingWords) :
    (Rule.keyword word).run? rest = some (false, rest) := by
  have apart := follows.apart
  cases rest with
  | nil => rfl
  | cons token rest =>
    refine keyword_of_head token ?_ rest
    rintro rfl
    cases token with
    | word n => simp_all [Token.parts, Token.keyword]
    | _ => exact absurd trailing (by simp [trailingWords, Token.keyword])

end Follows

/-- The rule reads the expression from the tokens, whatever ends it. -/
def ReadsAs (rule : Rule Expr) (tokens : List Token) (e : Expr) : Prop :=
  ∀ rest, Follows 0 rest → rule.run? (tokens ++ rest) = some (e, rest)

/-! ## Writing -/

/-- The words that start a form of their own where an expression is expected, or that are taken for
something else there. -/
def leadingWords : List String :=
  ["TRUE", "FALSE", "NULL", "CURRENT_TIMESTAMP", "CURRENT_TIME", "CURRENT_DATE", "LOCALTIME",
    "LOCALTIMESTAMP", "CASE", "CONVERT", "CAST", "TRY_CAST", "SAFE_CAST", "EXISTS", "EXTRACT", "CEIL",
    "FLOOR", "SUBSTRING", "OVERLAY", "TRIM", "MATCH", "NOT", "POSITION", "ARRAY", "SELECT", "WITH",
    "ALL", "ANY", "DISTINCT", "TOP", "FROM"]

/-- The name stands for a column or a function wherever an expression may start. -/
def Name.isPlain (n : Name) : Bool :=
  !leadingWords.contains n.keyword && (typeArguments? n.keyword).isNone

theorem Name.keyword_not_mem {n : Name} (plain : n.isPlain = true) : n.keyword ∉ leadingWords := by
  simp only [isPlain, Bool.and_eq_true] at plain
  simpa using plain.1

/-- The literal that a token is by itself. -/
def Token.literal? : Token → Option Literal
  | .number text long => some (.number text long)
  | .string quote text => some (.string quote text)
  | .placeholder text => some (.placeholder text)
  | _ => none

/-- The lists with commas between them. -/
def commaTokens : List (List Token) → List Token
  | [] => []
  | [tokens] => tokens
  | tokens :: more => tokens ++ .symbol "," :: commaTokens more

/-- The tokens write the expression, with its parentheses. Its operators outside of parentheses bind
tighter than the limit, and it ends before all that binds no tighter than the bound. -/
inductive Expr.Written : (depth limit bound : Nat) → List Token → Expr → Prop
  | name {depth limit bound : Nat} {n : Name} : n.isPlain = true →
    Written depth limit bound [.word n] (.name n)
  | literal {depth limit bound : Nat} {token : Token} {l : Literal} : token.literal? = some l →
    Written depth limit bound [token] (.literal l)
  | nested {depth limit bound : Nat} {tokens : List Token} {e : Expr} : Written depth 0 0 tokens e →
    Written (depth + 1) limit bound (.symbol "(" :: tokens ++ [.symbol ")"]) (.nested e)
  | count {depth limit bound : Nat} {n : Name} : n.isPlain = true →
    Written depth limit bound [.word n, .symbol "(", .symbol "*", .symbol ")"]
      (.call [n] (some [.wildcard]) {})
  | call {depth limit bound : Nat} {n : Name} {arguments : List (List Token × Expr)} :
    n.isPlain = true → arguments ≠ [] →
    (∀ argument ∈ arguments, Written depth 0 0 argument.1 argument.2) →
    Written (depth + 1) limit bound
      (.word n :: .symbol "(" :: commaTokens (arguments.map Prod.fst) ++ [.symbol ")"])
      (.call [n] (some (arguments.map fun argument => .expr argument.2)) {})
  | negated {depth limit bound : Nat} {tokens : List Token} {e : Expr} :
    bound ≤ Rule.productStrength → Written depth Rule.productStrength bound tokens e →
    Written depth limit bound (.symbol "-" :: tokens) (.negated e)
  | binary {depth limit bound strength : Nat} {left right : List Token} {token : Token}
    {op : Operator} {x y : Expr} : Rule.binaryOperator? token = some op →
    (∀ rest, Rule.strengthAhead.run? (token :: rest) = some (strength, token :: rest)) →
    limit < strength → bound ≤ strength → Written depth limit strength left x →
    Written depth strength bound right y →
    Written depth limit bound (left ++ token :: right) (.binary x op y)

/-! ### Lists with commas -/

theorem mem_commaTokens {token : Token} {lists : List (List Token)} (h : token ∈ commaTokens lists) :
    token = .symbol "," ∨ ∃ tokens ∈ lists, token ∈ tokens := by
  fun_induction commaTokens lists with
  | case1 => cases h
  | case2 tokens => exact .inr ⟨tokens, List.mem_singleton_self tokens, h⟩
  | case3 tokens more _ ih =>
    obtain here | later := List.mem_append.mp h
    · exact .inr ⟨tokens, List.mem_cons_self, here⟩
    obtain comma | later := List.mem_cons.mp later
    · exact .inl comma
    obtain comma | ⟨others, member, here⟩ := ih later
    · exact .inl comma
    · exact .inr ⟨others, List.mem_cons_of_mem _ member, here⟩

theorem exists_commaTokens (tokens : List Token) (more : List (List Token)) :
    ∃ tail, commaTokens (tokens :: more) = tokens ++ tail := by
  cases more with
  | nil => exact ⟨[], (List.append_nil tokens).symm⟩
  | cons => exact ⟨_, rfl⟩

theorem length_le_commaTokens {tokens : List Token} {lists : List (List Token)} (h : tokens ∈ lists) :
    tokens.length ≤ (commaTokens lists).length := by
  fun_induction commaTokens lists with
  | case1 => cases h
  | case2 => exact List.mem_singleton.mp h ▸ Nat.le_refl _
  | case3 first more _ ih =>
    rw [List.length_append, List.length_cons]
    obtain rfl | later := List.mem_cons.mp h
    · omega
    · have shorter := ih later
      omega

/-- A rule for items reads them one by one between commas. -/
theorem run?_commas {α : Type} (rule : Rule α) (follows : Follows 0 rest)
    (last : rest.head? ≠ some (.symbol ",")) (items : List (List Token × α)) (nonempty : items ≠ [])
    (reads : ∀ item ∈ items, ∀ rest, Follows 0 rest →
      rule.run? (item.1 ++ rest) = some (item.2, rest)) :
    (Rule.commas rule).run? (commaTokens (items.map Prod.fst) ++ rest) =
      some (items.map Prod.snd, rest) := by
  match items, nonempty with
  | [item], _ => exact separated_one (reads item List.mem_cons_self rest follows) (symbol_of_head last)
  | item :: next :: more, _ =>
    obtain ⟨here, later⟩ := List.forall_mem_cons.mp reads
    have others := run?_commas rule follows last (next :: more) (List.cons_ne_nil next more) later
    have split : commaTokens ((item :: next :: more).map Prod.fst) ++ rest =
        item.1 ++ .symbol "," :: (commaTokens ((next :: more).map Prod.fst) ++ rest) := by
      simp [commaTokens]
    rw [split]
    exact separated_cons (here _ (.comma _)) rfl others

/-! ### What occurs in written expressions -/

/-- An expression may start with the token. -/
def Token.leads : Token → Bool
  | .word n => n.isPlain
  | .symbol text => text == "(" || text == "-"
  | token => token.literal?.isSome

/-- The token is none that only paths, indices and named arguments have. -/
def Token.isUsual : Token → Bool
  | .symbol text => !([".", "[", "=>"].contains text)
  | _ => true

theorem Token.isUsual_of_operator {token : Token} {op : Operator}
    (reads : Rule.binaryOperator? token = some op) : token.isUsual = true := by
  cases token with
  | symbol text =>
    cases usual : (Token.symbol text).isUsual with
    | true => rfl
    | false =>
      have among : text = "." ∨ text = "[" ∨ text = "=>" := by
        simpa [isUsual, Decidable.or_iff_not_imp_left] using usual
      obtain rfl | rfl | rfl := among <;> cases reads
  | _ => rfl

theorem Token.parts_of_operator {token : Token} {op : Operator}
    (reads : Rule.binaryOperator? token = some op) : token.parts = true := by
  cases parted : token.parts with
  | true => rfl
  | false =>
    cases token with
    | symbol text =>
      have among : text = "(" ∨ text = "." ∨ text = "[" ∨ text = "=>" := by
        simpa [parts, Decidable.or_iff_not_imp_left] using parted
      obtain rfl | rfl | rfl | rfl := among <;> cases reads
    | word n =>
      have among : n.keyword ∈ trailingWords := by simpa [parts] using parted
      simp only [trailingWords, List.mem_cons, List.not_mem_nil, or_false] at among
      obtain same | same | same | same | same := among <;>
        simp [Rule.binaryOperator?, Token.keyword, same] at reads
    | _ => cases reads

theorem isUsual_commaTokens {lists : List (List Token)}
    (usual : ∀ tokens ∈ lists, ∀ token ∈ tokens, token.isUsual = true) :
    ∀ token ∈ commaTokens lists, token.isUsual = true := by
  intro token member
  obtain rfl | ⟨tokens, among, here⟩ := mem_commaTokens member
  · rfl
  · exact usual tokens among token here

namespace Expr.Written

variable {depth bound : Nat} {tokens : List Token} {e : Expr}

theorem leads (h : Written depth limit bound tokens e) :
    ∃ first more, tokens = first :: more ∧ first.leads = true := by
  induction h with
  | name plain | count plain | call plain => exact ⟨_, _, rfl, plain⟩
  | @literal _ _ _ token _ reads =>
    refine ⟨_, _, rfl, ?_⟩
    cases token <;> first | rfl | cases reads
  | nested | negated => exact ⟨_, _, rfl, rfl⟩
  | binary _ _ _ _ _ _ left =>
    obtain ⟨first, more, rfl, leads⟩ := left
    exact ⟨first, _, rfl, leads⟩

theorem isPlain {n : Name} (h : Written depth limit bound tokens (.name n)) : n.isPlain = true := by
  cases h
  assumption

theorem usual (h : Written depth limit bound tokens e) :
    ∀ token ∈ tokens, token.isUsual = true := by
  induction h with
  | name => exact List.forall_mem_singleton.mpr rfl
  | @literal _ _ _ token _ reads =>
    refine List.forall_mem_singleton.mpr ?_
    cases token <;> first | rfl | cases reads
  | nested _ ih =>
    refine List.forall_mem_append.mpr ⟨List.forall_mem_cons.mpr ⟨rfl, ih⟩, ?_⟩
    exact List.forall_mem_singleton.mpr rfl
  | count =>
    intro token member
    simp only [List.mem_cons, List.not_mem_nil, or_false] at member
    obtain rfl | rfl | rfl | rfl := member <;> rfl
  | call _ _ _ ih =>
    refine List.forall_mem_append.mpr ⟨?_, List.forall_mem_singleton.mpr rfl⟩
    refine List.forall_mem_cons.mpr ⟨rfl, List.forall_mem_cons.mpr ⟨rfl, ?_⟩⟩
    exact isUsual_commaTokens (List.forall_mem_map.mpr ih)
  | negated _ _ ih => exact List.forall_mem_cons.mpr ⟨rfl, ih⟩
  | binary reads _ _ _ _ _ left right =>
    exact List.forall_mem_append.mpr
      ⟨left, List.forall_mem_cons.mpr ⟨Token.isUsual_of_operator reads, right⟩⟩

/-- The token after the first one belongs to no path and no named argument. -/
theorem second_ne {first : Token} {more : List Token}
    (written : Written depth limit bound (first :: more) e) (follows : Follows strength rest)
    {text : String} (unusual : Token.isUsual (.symbol text) = false)
    (joins : Token.parts (.symbol text) = false) : (more ++ rest).head? ≠ some (.symbol text) := by
  cases more with
  | nil => exact follows.head_ne joins
  | cons second more =>
    rintro ⟨⟩
    have usual := written.usual (.symbol text) (by simp)
    rw [unusual] at usual
    cases usual

end Expr.Written

/-! ### What does not stand before an expression -/

section
variable {first : Token} {tail : List Token}

theorem keyword_ne_of_leads (leads : first.leads = true) {word : String}
    (leading : word ∈ leadingWords) : first.keyword ≠ word := by
  rintro rfl
  cases first with
  | word n => exact n.keyword_not_mem leads leading
  | _ => exact absurd leading (by simp [leadingWords, Token.keyword])

theorem keyword_of_leads (leads : first.leads = true) {word : String} (leading : word ∈ leadingWords)
    (tail : List Token) : (Rule.keyword word).run? (first :: tail) = some (false, first :: tail) :=
  keyword_of_head first (keyword_ne_of_leads leads leading) tail

theorem queryAhead_of_leads (leads : first.leads = true) (tail : List Token) :
    Rule.queryAhead.run? (first :: tail) = some (false, first :: tail) := by
  have word : (Rule.keywordAhead 0).run? (first :: tail) = some (first.keyword, first :: tail) := rfl
  have noSelect : first.keyword ≠ "SELECT" := keyword_ne_of_leads leads (by decide)
  have noWith : first.keyword ≠ "WITH" := keyword_ne_of_leads leads (by decide)
  rw [Rule.queryAhead, run?_bind_of word]
  simp [noSelect, noWith]

theorem starredPath_of_head (unqualified : tail.head? ≠ some (.symbol ".")) :
    Rule.starredPath.run? (first :: tail) = none := by
  have point : (Rule.requireSymbol ".").run? tail = none := by
    rw [Rule.requireSymbol, require, run?_bind_of (symbol_of_head unqualified)]
    rfl
  have more : (attempt (do
      Rule.requireSymbol "."
      Rule.pathName)).run? tail = some (none, tail) := by
    simp [attempt, run?_bind, point]
  rw [Rule.starredPath, run?_bind]
  cases path : Rule.pathName.run? (first :: tail) with
  | none => rfl
  | some read =>
    obtain ⟨n, left⟩ := read
    obtain ⟨_, _, ⟨⟩, named⟩ := run?_bind_eq_some.mp path
    obtain rfl : left = tail := by
      split at named <;> cases named <;> rfl
    simp only [Option.bind_some]
    rw [run?_bind_of (repeated_of_none more), run?_bind, point]
    rfl

theorem wildcard?_of_leads (leads : first.leads = true)
    (unqualified : tail.head? ≠ some (.symbol ".")) :
    Rule.wildcard?.run? (first :: tail) = some (none, first :: tail) := by
  have star : (Rule.symbol "*").run? (first :: tail) = some (false, first :: tail) := by
    refine symbol_of_head ?_
    rintro ⟨⟩
    cases leads
  rw [Rule.wildcard?, run?_bind_of star]
  simp [attempt, starredPath_of_head unqualified]

end

/-! ## Names that might be types -/

theorem run?_brackets {tokens : List Token} (none : tokens.head? ≠ some (.symbol "[")) :
    (repeated (after? (Rule.symbol "[") (Rule.requireSymbol "]"))).run? tokens = some ([], tokens) :=
  repeated_of_none (after?_of_false (symbol_of_head none) _)

/-- Where a rule takes tokens one by one, up to a closing parenthesis at the latest, no bracket stands
behind them. -/
theorem repeated_left {α : Type} {rule : Rule (Option α)}
    (single : ∀ token rest a left, rule.run? (token :: rest) = some (a, left) →
      left = rest ∧ (token = .symbol ")" → a = none))
    {inside left : List Token} {read : List α} (usual : .symbol "[" ∉ inside)
    (apart : rest.head? ≠ some (.symbol "["))
    (taken : (repeated rule).run? (inside ++ .symbol ")" :: rest) = some (read, left)) :
    left.head? ≠ some (.symbol "[") := by
  have started (inside : List Token) (usual : .symbol "[" ∉ inside) :
      (inside ++ .symbol ")" :: rest).head? ≠ some (.symbol "[") := by
    cases inside with
    | nil => simp
    | cons token inside =>
      rintro ⟨⟩
      exact usual List.mem_cons_self
  rw [repeated, run?_sized] at taken
  generalize (inside ++ Token.symbol ")" :: rest).length + 1 = fuel at taken
  induction fuel generalizing inside read with
  | zero =>
    cases taken
    exact started inside usual
  | succ fuel ih =>
    obtain ⟨a?, middle, first, taken⟩ := run?_bind_eq_some.mp taken
    cases inside with
    | nil =>
      obtain ⟨rfl, last⟩ := single _ _ _ _ first
      obtain rfl := last rfl
      cases taken
      exact apart
    | cons token inside =>
      obtain ⟨rfl, _⟩ := single _ _ _ _ first
      have usual' := List.not_mem_of_not_mem_cons usual
      cases a? with
      | none =>
        cases taken
        exact started inside usual'
      | some a =>
        obtain ⟨_, _, more, ⟨⟩⟩ := run?_bind_eq_some.mp taken
        exact ih usual' more

theorem typeModifiers_left {inside left : List Token} {modifiers : List String}
    (usual : .symbol "[" ∉ inside) (apart : rest.head? ≠ some (.symbol "["))
    (taken : Rule.typeModifiers.run? (inside ++ .symbol ")" :: rest) = some (modifiers, left)) :
    left.head? ≠ some (.symbol "[") := by
  obtain ⟨_, _, taken, ⟨⟩⟩ := run?_bind_eq_some.mp taken
  refine repeated_left (fun token rest a left read => ?_) usual apart taken
  obtain ⟨_, _, ⟨⟩, read⟩ := run?_bind_eq_some.mp read
  split at read <;> cases read <;> simp_all

/-- Neither a name nor a call is read as a list of some type. -/
theorem customType_left {n : Name} {tail left : List Token} {text : String}
    (unqualified : tail.head? ≠ some (.symbol ".")) (apart : tail.head? ≠ some (.symbol "["))
    (called : ∀ more, tail = .symbol "(" :: more → ∃ inside rest,
      more = inside ++ .symbol ")" :: rest ∧ .symbol "[" ∉ inside ∧ rest.head? ≠ some (.symbol "["))
    (taken : Rule.customType.run? (.word n :: tail) = some (text, left)) :
    left.head? ≠ some (.symbol "[") := by
  have path : Rule.path.run? (.word n :: tail) = some ([n], tail) :=
    separated_one rfl (symbol_of_head unqualified)
  rw [Rule.customType, run?_bind_of path] at taken
  cases tail with
  | nil =>
    cases taken
    exact apart
  | cons token more =>
    by_cases opens : token = .symbol "("
    · subst opens
      obtain ⟨inside, rest, rfl, usual, apart⟩ := called more rfl
      have paren : (Rule.symbol "(").run? (.symbol "(" :: (inside ++ .symbol ")" :: rest)) =
          some (true, inside ++ .symbol ")" :: rest) := rfl
      rw [run?_bind_of paren] at taken
      obtain ⟨_, _, modifiers, ⟨⟩⟩ := run?_bind_eq_some.mp taken
      exact typeModifiers_left usual apart modifiers
    · rw [run?_bind_of (symbol_of_head (by simpa using opens))] at taken
      cases taken
      exact apart

theorem anyType_kind {n : Name} (plain : n.isPlain = true) {tail left : List Token} {type : DataType}
    (alone : ∀ text left, Rule.customType.run? (.word n :: tail) = some (text, left) →
      left.head? ≠ some (.symbol "["))
    (taken : Rule.anyType.run? (.word n :: tail) = some (type, left)) : type.kind = .custom := by
  have notArray : (n.keyword == "ARRAY") = false := by
    rw [beq_eq_false_iff_ne]
    intro same
    exact n.keyword_not_mem plain (by rw [same]; decide)
  have unknown : typeArguments? n.keyword = none := by
    simp only [Name.isPlain, Bool.and_eq_true] at plain
    simpa using plain.2
  obtain ⟨⟨listed, surplus⟩, middle, within, taken⟩ := run?_bind_eq_some.mp taken
  rw [run?_sized, Rule.typeWithin] at within
  obtain ⟨⟨named, closed⟩, after, first, within⟩ := run?_bind_eq_some.mp within
  rw [Rule.plainType, run?_bind_of (run?_peek? (.word n) tail)] at first
  simp only [notArray, unknown, Bool.false_eq_true, if_false] at first
  obtain ⟨text, rest, custom, ⟨⟩⟩ := run?_bind_eq_some.mp first
  rw [run?_bind_of (run?_brackets (alone text _ custom))] at within
  cases within
  cases taken
  rfl

/-! ## Leading forms -/

theorem leading_eq_collated {tokens : List Token}
    (custom : ∀ type left, Rule.anyType.run? tokens = some (type, left) → type.kind = .custom) :
    (Rule.leading g).run? tokens = (Rule.collated g).run? tokens := by
  have seen : (foresee Rule.anyType).run? tokens =
      some ((Rule.anyType.run? tokens).map Prod.fst, tokens) := rfl
  rw [Rule.leading, run?_bind_of seen]
  cases type : Rule.anyType.run? tokens with
  | none => rfl
  | some read =>
    obtain ⟨type', left⟩ := read
    simp [custom _ _ type]

theorem collated_of_form {tokens : List Token} {e : Expr}
    (form : (Rule.leadingForm g).run? tokens = some (e, rest)) (follows : Follows strength rest) :
    (Rule.collated g).run? tokens = some (e, rest) := by
  rw [Rule.collated, run?_bind_of form, run?_bind_of (follows.keyword (by decide))]
  rfl

theorem wordForm_plain {n : Name} (plain : n.isPlain = true) (tokens : List Token) :
    (Rule.wordForm g n).run? tokens = (Rule.named g n).run? tokens := by
  have word := n.keyword_not_mem plain
  have ahead : peek?.run? tokens = some (tokens[0]?, tokens) := rfl
  rw [Rule.wordForm, run?_bind_of ahead]
  split <;> first | rfl | (rename_i same; exact absurd (by rw [same]; decide) word)

theorem leading_word {n : Name} {tail : List Token} {e : Expr} (plain : n.isPlain = true)
    (alone : ∀ text left, Rule.customType.run? (.word n :: tail) = some (text, left) →
      left.head? ≠ some (.symbol "["))
    (named : (Rule.named g n).run? tail = some (e, rest)) (follows : Follows strength rest) :
    (Rule.leading g).run? (.word n :: tail) = some (e, rest) := by
  rw [leading_eq_collated fun type left => anyType_kind plain alone]
  refine collated_of_form ?_ follows
  rw [Rule.leadingForm, run?_bind_of (run?_peek? (.word n) tail), ← named, ← wordForm_plain plain]
  rfl

theorem leading_other {token : Token} {tail : List Token} {e : Expr} (other : ∀ n, token ≠ .word n)
    (form : (Rule.leadingForm g).run? (token :: tail) = some (e, rest))
    (follows : Follows strength rest) :
    (Rule.leading g).run? (token :: tail) = some (e, rest) := by
  have untyped : Rule.anyType.run? (token :: tail) = none := by
    cases token <;> first | rfl | exact absurd rfl (other _)
  rw [leading_eq_collated (by simp [untyped])]
  exact collated_of_form form follows

/-! ### Names and literals -/

theorem leading_name {n : Name} (plain : n.isPlain = true) (follows : Follows strength rest) :
    (Rule.leading g).run? (.word n :: rest) = some (.name n, rest) := by
  have opens : rest.head? ≠ some (.symbol "(") := follows.head_ne rfl
  have point : rest.head? ≠ some (.symbol ".") := follows.head_ne rfl
  refine leading_word plain (fun text left => ?_) ?_ follows
  · exact customType_left point (follows.head_ne rfl) fun more called =>
      absurd (congrArg List.head? called) opens
  · have apart := follows.apart
    cases rest with
    | nil => rfl
    | cons token rest =>
      cases token with
      | symbol text =>
        have neither : (text == "(" || text == ".") = false := by simp_all
        rw [Rule.named, run?_bind_of (run?_peek? (.symbol text) rest)]
        simp [neither]
      | word => rfl
      | _ => cases apart

theorem leading_literal {token : Token} {l : Literal} (reads : token.literal? = some l)
    (follows : Follows strength rest) :
    (Rule.leading g).run? (token :: rest) = some (.literal l, rest) := by
  cases token with
  | number | string | placeholder =>
    cases reads
    exact leading_other (by simp) rfl follows
  | _ => cases reads

/-! ### Parentheses and signs -/

/-- An expression between parentheses is read as that expression in parentheses, if nothing is taken out
of it. -/
theorem Rule.leadingForm_nested {tokens : List Token} {e : Expr}
    (plain : Rule.queryAhead.run? tokens = some (false, tokens))
    (reads : g.expr.run? tokens = some (e, .symbol ")" :: rest))
    (ends : rest.head? ≠ some (.symbol ".")) :
    (Rule.leadingForm g).run? (.symbol "(" :: tokens) = some (.nested e, rest) := by
  have list : (Rule.commas g.expr).run? tokens = some ([e], .symbol ")" :: rest) :=
    separated_one reads rfl
  have inner : (Rule.parenthesis g).run? tokens = some (.nested e, rest) := by
    refine run?_bind_eq_some.mpr ⟨false, tokens, plain, ?_⟩
    refine run?_bind_eq_some.mpr ⟨[e], .symbol ")" :: rest, list, ?_⟩
    refine run?_bind_eq_some.mpr ⟨.nested e, .symbol ")" :: rest, rfl, ?_⟩
    refine run?_bind_eq_some.mpr ⟨(), rest, rfl, ?_⟩
    exact run?_bind_eq_some.mpr ⟨false, rest, symbol_of_head ends, rfl⟩
  exact inner

theorem leading_nested {tokens : List Token} {e : Expr}
    (starts : ∃ first more, tokens = first :: more ∧ first.leads = true)
    (reads : ReadsAs g.expr tokens e) (follows : Follows strength rest) :
    (Rule.leading g).run? (.symbol "(" :: (tokens ++ .symbol ")" :: rest)) =
      some (.nested e, rest) := by
  obtain ⟨first, more, rfl, leads⟩ := starts
  exact leading_other (by simp) (Rule.leadingForm_nested (queryAhead_of_leads leads _)
    (reads _ (.close rest)) (follows.head_ne rfl)) follows

theorem leading_negated {tokens : List Token} {e : Expr}
    (read : (g.operand Rule.productStrength).run? (tokens ++ rest) = some (e, rest))
    (follows : Follows strength rest) :
    (Rule.leading g).run? (.symbol "-" :: (tokens ++ rest)) = some (.negated e, rest) := by
  refine leading_other (by simp) ?_ follows
  rw [Rule.leadingForm, run?_bind_of (run?_peek? (.symbol "-") (tokens ++ rest))]
  refine (run?_bind_of (run?_next (.symbol "-") (tokens ++ rest))).trans ?_
  rw [run?_bind_of read]
  rfl

/-! ### Calls -/

theorem named_call {n : Name} {tail : List Token} {e : Expr}
    (call : (Rule.call g [n]).run? (.symbol "(" :: tail) = some (e, rest)) :
    (Rule.named g n).run? (.symbol "(" :: tail) = some (e, rest) := by
  have path : (repeated (after? (Rule.symbol ".") Rule.pathName)).run? (.symbol "(" :: tail) =
      some ([], .symbol "(" :: tail) := repeated_of_none rfl
  rw [Rule.named, run?_bind_of (run?_peek? (.symbol "(") tail)]
  simp only [beq_self_eq_true, Bool.true_or, if_true]
  rw [run?_bind_of path, run?_bind_of (run?_peek? (.symbol "(") tail)]
  exact call

theorem call_of_arguments {n : Name} {tokens : List Token} {arguments : List Argument}
    (read : (Rule.arguments g).run? tokens = some ((arguments, none, ""), rest))
    (follows : Follows strength rest) :
    (Rule.call g [n]).run? tokens = some (.call [n] (some arguments) {}, rest) := by
  have missing (word : String) (trailing : word ∈ trailingWords) := follows.keyword trailing
  have within := optionalText_of_false
    (keywords_of_keyword (missing "WITHIN" (by decide)) ["GROUP"])
  have neither : (Rule.keywordOf? ["RESPECT", "IGNORE"]).run? rest = some (none, rest) :=
    keywordOf?_of_forall fun word among => missing word (by revert word; decide)
  have nulls : Rule.nullTreatment.run? rest = some ("", rest) := by
    rw [Rule.nullTreatment, run?_bind_of neither]
    rfl
  have windowed := after?_of_false (missing "OVER" (by decide)) (Rule.window g)
  rw [Rule.call, run?_bind_of read]
  dsimp only
  rw [run?_bind_of (within _ _), run?_bind_of nulls, run?_bind_of windowed]
  rfl

theorem arguments_of_commas {first : Token} {tail : List Token} {arguments : List Argument}
    (open' : first ≠ .symbol ")")
    (all : (Rule.keyword "ALL").run? (first :: tail) = some (false, first :: tail))
    (distinct : (Rule.keyword "DISTINCT").run? (first :: tail) = some (false, first :: tail))
    (read : (Rule.commas (Rule.argument g)).run? (first :: tail) =
      some (arguments, .symbol ")" :: rest)) :
    (Rule.arguments g).run? (.symbol "(" :: first :: tail) = some ((arguments, none, ""), rest) := by
  have opens : (Rule.requireSymbol "(").run? (.symbol "(" :: first :: tail) =
      some ((), first :: tail) := rfl
  have clauses : (Rule.argumentClauses g).run? (.symbol ")" :: rest) =
      some ("", .symbol ")" :: rest) := rfl
  have closes : (Rule.requireSymbol ")").run? (.symbol ")" :: rest) = some ((), rest) := rfl
  rw [Rule.arguments, run?_bind_of opens, run?_bind_of (symbol_of_head (by simpa using open'))]
  simp only [Bool.false_eq_true, if_false]
  rw [run?_bind_of all, run?_bind_of distinct]
  simp only [Bool.and_self, Bool.false_eq_true, if_false]
  rw [run?_bind_of read, run?_bind_of clauses, run?_bind_of closes]
  rfl

theorem leading_count {n : Name} (plain : n.isPlain = true) (follows : Follows strength rest) :
    (Rule.leading g).run? (.word n :: .symbol "(" :: .symbol "*" :: .symbol ")" :: rest) =
      some (.call [n] (some [.wildcard]) {}, rest) := by
  refine leading_word plain (fun text left => ?_) (named_call (call_of_arguments ?_ follows)) follows
  · refine customType_left (by simp) (by simp) fun more opens => ?_
    obtain ⟨_, rfl⟩ := List.cons.inj opens
    exact ⟨[.symbol "*"], rest, rfl, by simp, follows.head_ne rfl⟩
  · exact arguments_of_commas (by simp) rfl rfl (separated_one rfl rfl)

theorem argument_of_written {depth bound : Nat} {tokens : List Token} {e : Expr}
    (written : e.Written depth limit bound tokens) (reads : ReadsAs g.expr tokens e)
    (follows : Follows 0 rest) :
    (Rule.argument g).run? (tokens ++ rest) = some (.expr e, rest) := by
  obtain ⟨first, more, rfl, leads⟩ := written.leads
  have second : (ahead? 1).run? (first :: (more ++ rest)) =
      some ((more ++ rest).head?, first :: (more ++ rest)) :=
    congrArg (fun token? => some (token?, first :: (more ++ rest))) List.head?_eq_getElem?.symm
  have unnamed : ((more ++ rest).head? == some (.symbol "=>")) = false :=
    beq_eq_false_iff_ne.mpr (written.second_ne follows rfl rfl)
  have unqualified : (more ++ rest).head? ≠ some (.symbol ".") := written.second_ne follows rfl rfl
  rw [List.cons_append, Rule.argument, run?_bind_of second]
  simp only [unnamed, Bool.false_eq_true, if_false]
  rw [Rule.argumentValue, run?_bind_of (wildcard?_of_leads leads unqualified)]
  exact (run?_bind_of (reads rest follows)).trans rfl

theorem leading_call {depth : Nat} {n : Name} {arguments : List (List Token × Expr)}
    (plain : n.isPlain = true) (nonempty : arguments ≠ [])
    (written : ∀ argument ∈ arguments, argument.2.Written depth 0 0 argument.1)
    (reads : ∀ argument ∈ arguments, ReadsAs g.expr argument.1 argument.2)
    (follows : Follows strength rest) :
    (Rule.leading g).run?
        (.word n :: .symbol "(" :: (commaTokens (arguments.map Prod.fst) ++ .symbol ")" :: rest)) =
      some (.call [n] (some (arguments.map fun argument => .expr argument.2)) {}, rest) := by
  have usual : ∀ token ∈ commaTokens (arguments.map Prod.fst), token.isUsual = true :=
    isUsual_commaTokens (List.forall_mem_map.mpr fun argument given => (written argument given).usual)
  have listed : (Rule.commas (Rule.argument g)).run?
      (commaTokens (arguments.map Prod.fst) ++ .symbol ")" :: rest) =
        some (arguments.map fun argument => .expr argument.2, .symbol ")" :: rest) := by
    have items := run?_commas (Rule.argument g) (.close rest) (by simp)
      (arguments.map fun argument => (argument.1, .expr argument.2)) (by simpa using nonempty)
      (List.forall_mem_map.mpr fun argument given rest follows =>
        argument_of_written (written argument given) (reads argument given) follows)
    simpa [Function.comp_def] using items
  obtain ⟨first, more, start, leads⟩ : ∃ first more,
      commaTokens (arguments.map Prod.fst) = first :: more ∧ first.leads = true := by
    obtain ⟨argument, others, rfl⟩ := List.exists_cons_of_ne_nil nonempty
    obtain ⟨first, more, start, leads⟩ := (written argument List.mem_cons_self).leads
    obtain ⟨tail, split⟩ := exists_commaTokens argument.1 (others.map Prod.fst)
    exact ⟨first, more ++ tail, by rw [List.map_cons, split, start, List.cons_append], leads⟩
  refine leading_word plain (fun text left => ?_) (named_call (call_of_arguments ?_ follows)) follows
  · refine customType_left (by simp) (by simp) fun more opens => ?_
    obtain ⟨_, rfl⟩ := List.cons.inj opens
    exact ⟨_, rest, rfl, fun unusual => absurd (usual _ unusual) (by decide), follows.head_ne rfl⟩
  · rw [start, List.cons_append] at listed ⊢
    refine arguments_of_commas ?_ (keyword_of_leads leads (by decide) _)
      (keyword_of_leads leads (by decide) _) listed
    rintro rfl
    cases leads

/-! ## Operators -/

/-- After the leading form the operators of the expression are read one by one, and the same loop goes
on with what follows. -/
def Extends (g : Nesting) (limit : Nat) (tokens rest : List Token) (e : Expr) : Prop :=
  ∃ first more, (Rule.leading g).run? (tokens ++ rest) = some (first, more ++ rest) ∧
    ∀ fuel, more.length ≤ fuel → ∃ left, fuel ≤ left + more.length ∧
      (Rule.extendWithin g Rule.strengthAhead limit fuel first).run? (more ++ rest) =
        (Rule.extendWithin g Rule.strengthAhead limit left e).run? rest

theorem extendWithin_ends (follows : Follows strength rest) (ends : strength ≤ limit) (fuel : Nat)
    (e : Expr) :
    (Rule.extendWithin g Rule.strengthAhead limit fuel e).run? rest = some (e, rest) := by
  cases fuel with
  | zero => rfl
  | succ fuel =>
    rw [Rule.extendWithin, run?_bind_of follows.ahead, if_pos ends]
    rfl

namespace Extends

theorem leading {tokens : List Token} {e : Expr}
    (leads : (Rule.leading g).run? (tokens ++ rest) = some (e, rest)) :
    Extends g limit tokens rest e :=
  ⟨e, [], leads, fun fuel _ => ⟨fuel, Nat.le_refl _, rfl⟩⟩

theorem operand {tokens : List Token} {e : Expr} (h : Extends g limit tokens rest e)
    (follows : Follows strength rest) (ends : strength ≤ limit) :
    (Rule.operand g limit).run? (tokens ++ rest) = some (e, rest) := by
  obtain ⟨first, more, leads, loop⟩ := h
  obtain ⟨left, _, same⟩ := loop ((more ++ rest).length + 1) (by rw [List.length_append]; omega)
  rw [Rule.operand, run?_bind_of leads, Rule.extend, run?_sized, same]
  exact extendWithin_ends follows ends left e

theorem binary {left right : List Token} {token : Token} {op : Operator} {x y : Expr}
    (h : Extends g limit left (token :: (right ++ rest)) x)
    (reads : Rule.binaryOperator? token = some op)
    (binds : Rule.strengthAhead.run? (token :: (right ++ rest)) =
      some (strength, token :: (right ++ rest))) (tighter : limit < strength)
    (starts : ∃ first more, right = first :: more ∧ first.leads = true)
    (operand : (g.operand strength).run? (right ++ rest) = some (y, rest)) :
    Extends g limit (left ++ token :: right) rest (.binary x op y) := by
  obtain ⟨first, more, leading, loop⟩ := h
  have quantified : (Rule.keywordOf? ["ANY", "ALL"]).run? (right ++ rest) =
      some (none, right ++ rest) := by
    obtain ⟨start, others, rfl, leads⟩ := starts
    refine keywordOf?_of_forall fun word among => ?_
    exact keyword_of_leads leads (by revert word; decide) (others ++ rest)
  have extended : (Rule.extended g strength x).run? (token :: (right ++ rest)) =
      some (.binary x op y, rest) := by
    rw [Rule.extended, run?_bind_of (run?_peek? token (right ++ rest))]
    simp only [Option.bind_some, reads]
    rw [run?_bind_of (run?_next token (right ++ rest)), Rule.binary, run?_bind_of quantified]
    exact (run?_bind_of operand).trans rfl
  refine ⟨first, more ++ token :: right, by simpa using leading, fun fuel enough => ?_⟩
  rw [List.length_append, List.length_cons] at enough
  obtain ⟨remaining, kept, same⟩ := loop fuel (by omega)
  obtain ⟨remaining, rfl⟩ : ∃ n, remaining = n + 1 := ⟨remaining - 1, by omega⟩
  refine ⟨remaining, by rw [List.length_append, List.length_cons]; omega, ?_⟩
  rw [List.append_assoc, List.cons_append, same, Rule.extendWithin, run?_bind_of binds,
    if_neg (by omega), run?_bind_of extended]

end Extends

/-! ## Whole expressions -/

section
variable {depth bound fuel level : Nat} {tokens : List Token} {e : Expr}

/-- A whole expression lies one level deeper than the form that it is part of. -/
theorem Extends.readsAs (h : ∀ rest, Follows 0 rest → Extends (nesting fuel level) 0 tokens rest e) :
    ReadsAs (nesting (fuel + 1) (level + 1)).expr tokens e := by
  intro rest follows
  have whole : (nesting (fuel + 1) (level + 1)).expr.run? (tokens ++ rest) =
      (Rule.operand (nesting fuel level) 0).run? (tokens ++ rest) := rfl
  rw [whole]
  exact (h rest follows).operand follows (Nat.le_refl 0)

theorem run?_operand (fuel level limit : Nat) (tokens : List Token) :
    ((nesting (fuel + 1) level).operand limit).run? tokens =
      (Rule.operand (nesting fuel level) limit).run? tokens :=
  rfl

/-- Every expression is read as it is written, operator by operator. -/
theorem Expr.Written.extends (h : Written depth limit bound tokens e) (enough : tokens.length ≤ fuel)
    (deep : depth ≤ level) (follows : Follows strength rest) (ends : strength ≤ bound) :
    Extends (nesting fuel level) limit tokens rest e := by
  induction h generalizing fuel level strength rest with
  | name plain => exact .leading (leading_name plain follows)
  | literal reads => exact .leading (leading_literal reads follows)
  | nested inner ih =>
    rw [List.length_append, List.length_cons, List.length_singleton] at enough
    obtain ⟨fuel, rfl⟩ := Nat.exists_eq_add_of_le' (Nat.le_of_add_left_le enough)
    obtain ⟨level, rfl⟩ := Nat.exists_eq_add_of_le' (Nat.le_of_add_left_le deep)
    refine .leading ?_
    rw [List.append_assoc, List.cons_append]
    refine leading_nested inner.leads (Extends.readsAs fun rest follows => ?_) follows
    exact ih (by omega) (by omega) follows (Nat.le_refl 0)
  | count plain => exact .leading (leading_count plain follows)
  | call plain nonempty written ih =>
    simp only [List.length_append, List.length_cons, List.length_nil] at enough
    obtain ⟨fuel, rfl⟩ := Nat.exists_eq_add_of_le' (Nat.le_of_add_left_le enough)
    obtain ⟨level, rfl⟩ := Nat.exists_eq_add_of_le' (Nat.le_of_add_left_le deep)
    refine .leading ?_
    rw [List.append_assoc, List.cons_append, List.cons_append]
    refine leading_call plain nonempty written (fun argument given => ?_) follows
    have shorter := length_le_commaTokens (List.mem_map_of_mem (f := Prod.fst) given)
    refine Extends.readsAs fun rest follows => ?_
    exact ih argument given (by omega) (by omega) follows (Nat.le_refl 0)
  | negated weaker inner ih =>
    rw [List.length_cons] at enough
    obtain ⟨fuel, rfl⟩ := Nat.exists_eq_add_of_le' (Nat.le_of_add_left_le enough)
    refine .leading (leading_negated ?_ follows)
    rw [run?_operand]
    exact (ih (by omega) deep follows ends).operand follows (by omega)
  | binary reads binds tighter weaker left right ihLeft ihRight =>
    rw [List.length_append, List.length_cons] at enough
    obtain ⟨fuel, rfl⟩ : ∃ n, fuel = n + 1 := ⟨fuel - 1, by omega⟩
    refine .binary (ihLeft (by omega) deep ⟨binds _, Token.parts_of_operator reads⟩ (Nat.le_refl _))
      reads (binds _) tighter right.leads ?_
    rw [run?_operand]
    exact (ihRight (by omega) deep follows ends).operand follows (by omega)

theorem Expr.Written.readsAs (h : Written depth 0 0 tokens e) (enough : tokens.length ≤ fuel)
    (deep : depth ≤ level) : ReadsAs (nesting (fuel + 1) (level + 1)).expr tokens e :=
  Extends.readsAs fun _ follows => h.extends enough deep follows (Nat.le_refl 0)

end

end Sql

end QueryShapes
