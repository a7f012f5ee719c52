import QueryShapes.Proofs.ParsedQuery

/-!
# Parentheses

- `KeptIf`: what a computation gives, another one gives on a condition, and fails otherwise.
- `Expr.Wraps` and `QueryText.Wraps`: one expression stands in one more pair of parentheses.
- `Query.ofText?_wraps_iff`: parentheses leave a query as it is unless they are put around a call; with
  these it is refused.
-/

namespace QueryShapes

/-! ## Computations that are kept on a condition -/

/-- What the first computation gives, the second gives on the condition, and fails without it. -/
def KeptIf {ε α : Type} (keep : Prop) (x y : Except ε α) : Prop :=
  ∀ a, x = .ok a → (keep → y = .ok a) ∧ (¬keep → ∀ b, y ≠ .ok b)

namespace KeptIf

variable {ε α β : Type} {keep : Prop} {x y : Except ε α}

theorem of_eq (same : y = x) (h : ∀ a, x = .ok a → keep) : KeptIf keep x y :=
  fun a ok => ⟨fun _ => same.trans ok, fun not => absurd (h a ok) not⟩

theorem of_error {e : ε} (h : x = .error e) : KeptIf keep x y := by
  rintro a ok
  cases h.symm.trans ok

/-- The texts of errors in what follows may differ. -/
theorem bind {f g : α → Except ε β} (h : KeptIf keep x y)
    (next : ∀ a b, f a = .ok b → g a = .ok b) : KeptIf keep (x >>= f) (y >>= g) := by
  intro b ok
  obtain ⟨a, first, second⟩ := bind_eq_ok_iff.mp ok
  obtain ⟨kept, fails⟩ := h a first
  refine ⟨fun k => bind_eq_ok_iff.mpr ⟨a, kept k, next a b second⟩, fun k b' ok' => ?_⟩
  obtain ⟨a', first', _⟩ := bind_eq_ok_iff.mp ok'
  exact fails k a' first'

theorem after {f g : α → Except ε β} (h : ∀ a, x = .ok a → KeptIf keep (f a) (g a)) :
    KeptIf keep (x >>= f) (x >>= g) := by
  intro b ok
  obtain ⟨a, first, second⟩ := bind_eq_ok_iff.mp ok
  obtain ⟨kept, fails⟩ := h a first b second
  refine ⟨fun k => bind_eq_ok_iff.mpr ⟨a, first, kept k⟩, fun k b' ok' => ?_⟩
  obtain ⟨a', first', second'⟩ := bind_eq_ok_iff.mp ok'
  cases first.symm.trans first'
  exact fails k b' second'

theorem mapM {f : α → Except ε β} {a a' : α} (h : KeptIf keep (f a) (f a')) (before after : List α) :
    KeptIf keep ((before ++ a :: after).mapM f) ((before ++ a' :: after).mapM f) := by
  rw [List.mapM_append, List.mapM_append, List.mapM_cons, List.mapM_cons]
  exact KeptIf.after fun _ _ => (h.bind fun _ _ => id).bind fun _ _ => id

theorem mapError {ε' : Type} (h : KeptIf keep x y) (f : ε → ε') :
    KeptIf keep (x.mapError f) (y.mapError f) := by
  intro a ok
  obtain ⟨kept, fails⟩ := h a (ok_of_mapError ok)
  refine ⟨fun k => ?_, fun k b ok' => fails k b (ok_of_mapError ok')⟩
  rw [kept k]
  rfl

/-- A part decides the whole, if the rest of the whole stays as it is. -/
theorem decides {ε' : Type} {whole : Except ε' β} {a : α} {b : β} (h : KeptIf keep x y)
    (part : x = .ok a) (kept : y = .ok a → whole = .ok b)
    (needed : ∀ b, whole = .ok b → ∃ a, y = .ok a) :
    (keep → whole = .ok b) ∧ (¬keep → ∀ b, whole ≠ .ok b) := by
  obtain ⟨holds, fails⟩ := h a part
  refine ⟨fun k => kept (holds k), fun k b' ok => ?_⟩
  obtain ⟨a', made⟩ := needed b' ok
  exact fails k a' made

end KeptIf

namespace Sql

/-! ## Expressions -/

def Expr.isCall : Expr → Bool
  | .call .. => true
  | _ => false

/-- The second expression is the first with one more pair of parentheses, around a part `e`. -/
inductive Expr.Wraps (e : Expr) : Expr → Expr → Prop
  | here : Wraps e e (.nested e)
  | nested {x x' : Expr} : Wraps e x x' → Wraps e (.nested x) (.nested x')
  | negated {x x' : Expr} : Wraps e x x' → Wraps e (.negated x) (.negated x')
  | left {x x' : Expr} (op : Operator) (right : Expr) : Wraps e x x' →
    Wraps e (.binary x op right) (.binary x' op right)
  | right {x x' : Expr} (left : Expr) (op : Operator) : Wraps e x x' →
    Wraps e (.binary left op x) (.binary left op x')
  | argument {x x' : Expr} (function : List Name) (before after : List Argument)
    (extras : CallExtras) : Wraps e x x' →
    Wraps e (.call function (some (before ++ .expr x :: after)) extras)
      (.call function (some (before ++ .expr x' :: after)) extras)

namespace Expr.Wraps

variable {e x x' : Expr}

theorem column? (h : Wraps e x x') : KeptIf (e.isCall = false) x.column? x'.column? := by
  induction h with
  | here => exact .of_eq rfl fun c ok => by cases e <;> first | rfl | cases ok
  | nested _ ih => exact ih
  | _ => exact .of_error rfl

theorem literal? (h : Wraps e x x') : KeptIf (e.isCall = false) x.literal? x'.literal? := by
  induction h with
  | here => exact .of_eq rfl fun c ok => by cases e <;> first | rfl | cases ok
  | nested _ ih => exact ih
  | negated _ ih =>
    exact ih.bind fun v b ok => by cases v <;> first | exact ok | cases ok
  | _ => exact .of_error rfl

theorem shifted_left (h : Wraps e x x') (right : Expr) (sign : Int64 → Int64) (whole whole' : Expr) :
    KeptIf (e.isCall = false) (shifted? x right sign whole) (shifted? x' right sign whole') := by
  refine h.column?.bind fun c operand ok => ?_
  obtain ⟨v, amount, ok⟩ := bind_eq_ok_iff.mp ok
  refine bind_eq_ok_iff.mpr ⟨v, amount, ?_⟩
  cases v <;> first | exact ok | cases ok

theorem shifted_right (h : Wraps e x x') (left : Expr) (sign : Int64 → Int64)
    (whole whole' : Expr) :
    KeptIf (e.isCall = false) (shifted? left x sign whole) (shifted? left x' sign whole') :=
  .after fun _ _ => h.literal?.bind fun v b ok => by cases v <;> first | exact ok | cases ok

theorem operand? (h : Wraps e x x') : KeptIf (e.isCall = false) x.operand? x'.operand? := by
  induction h with
  | here => exact .of_eq rfl fun c ok => by cases e <;> first | rfl | cases ok
  | nested _ ih => exact ih
  | negated inner => exact inner.negated.literal?.bind fun _ _ => id
  | left op right inner =>
    cases op with
    | plus => exact inner.shifted_left right id _ _
    | minus => exact inner.shifted_left right (-·) _ _
    | _ => exact .of_error rfl
  | right left op inner =>
    cases op with
    | plus => exact inner.shifted_right left id _ _
    | minus => exact inner.shifted_right left (-·) _ _
    | _ => exact .of_error rfl
  | argument => exact .of_error rfl

theorem predicates? (h : Wraps e x x') : KeptIf (e.isCall = false) x.predicates? x'.predicates? := by
  induction h with
  | here => exact .of_eq rfl fun c ok => by cases e <;> first | rfl | cases ok
  | nested _ ih => exact ih
  | left op right inner ih =>
    cases op with
    | and => exact ih.bind fun _ _ => id
    | _ => exact inner.operand?.bind fun _ _ => id
  | right left op inner ih =>
    cases op with
    | and => exact .after fun _ _ => ih.bind fun _ _ => id
    | _ => exact .after fun _ _ => .after fun _ _ => inner.operand?.bind fun _ _ => id
  | _ => exact .of_error rfl

/-! ## Aggregates -/

theorem placedArguments?_eq_ok_iff {function : List Name} {l args : List Argument}
    {extras : CallExtras} : placedArguments? function (some l) extras = .ok args ↔
      (∀ text, l ≠ [.subquery text]) ∧ extras.quantifier = none ∧ l.all Argument.isPlaced = true ∧
        l = args := by
  unfold placedArguments?
  dsimp only
  split
  · simp_all
  · simp_all
  rename_i lone listed
  cases listed
  split
  · rename_i quantified
    exact iff_of_false (by simp) fun h => by simp [h.2.1] at quantified
  split
  · simp_all
  · rename_i unplaced
    exact iff_of_false (by simp) fun h => unplaced h.2.2.1

theorem placed {function : List Name} {before after : List Argument} {extras : CallExtras}
    {args : List Argument}
    (h : placedArguments? function (some (before ++ .expr x :: after)) extras = .ok args) :
    placedArguments? function (some (before ++ .expr x' :: after)) extras =
      .ok (before ++ .expr x' :: after) := by
  obtain ⟨_, plain, all, _⟩ := placedArguments?_eq_ok_iff.mp h
  refine placedArguments?_eq_ok_iff.mpr ⟨fun text lone => ?_, plain, ?_, rfl⟩
  · have length := congrArg List.length lone
    cases before <;> simp_all
  · simpa [Argument.isPlaced] using all

theorem plainAggregate? (h : Wraps e x x') (name : String) (before after : List Argument)
    (text text' : String) :
    KeptIf (e.isCall = false) (Expr.plainAggregate? name (before ++ .expr x :: after) text)
      (Expr.plainAggregate? name (before ++ .expr x' :: after) text') := by
  unfold Expr.plainAggregate?
  cases AggregateFunction.ofName? name with
  | none => exact .of_error rfl
  | some function =>
    -- Only a lone argument is accepted.
    cases before with
    | nil =>
      cases after with
      | nil => exact h.column?.bind fun _ _ => id
      | cons => exact .of_error rfl
    | cons first before => cases first <;> cases before <;> exact .of_error rfl

/-- Both ways that a call can stand for an aggregate. -/
theorem aggregate?_call_iff {function : List Name} {l : List Argument} {extras : CallExtras}
    {call : Aggregate} : (Expr.call function (some l) extras).aggregate? = .ok call ↔
      extras.windowed = false ∧ placedArguments? function (some l) extras = .ok l ∧
        (pathBinding function ≠ "round" ∧ Expr.plainAggregate? (pathBinding function) l
            (Expr.call function (some l) extras).render = .ok call ∨
          pathBinding function = "round" ∧ ∃ inner rest rounded, l = .expr inner :: rest ∧
            NoDigits rest ∧ inner.aggregate? = .ok rounded ∧
              call = { rounded with rounded := true }) := by
  constructor
  · intro h
    cases aggregate?_eq_ok_iff.mp h with
    | plain windowed placed other told =>
      obtain rfl := (placedArguments?_eq_ok_iff.mp placed).2.2.2
      exact ⟨windowed, placed, .inl ⟨other, told⟩⟩
    | rounded windowed placed round digits read =>
      obtain rfl := (placedArguments?_eq_ok_iff.mp placed).2.2.2
      exact ⟨windowed, placed, .inr ⟨round, _, _, _, rfl, digits, aggregate?_eq_ok_iff.mpr read, rfl⟩⟩
  · rintro ⟨windowed, placed, ⟨other, told⟩ | ⟨round, inner, rest, rounded, rfl, digits, read, rfl⟩⟩
    · exact aggregate?_eq_ok_iff.mpr (.plain windowed placed other told)
    · exact aggregate?_eq_ok_iff.mpr
        (.rounded windowed placed round digits (aggregate?_eq_ok_iff.mp read))

theorem aggregate? (h : Wraps e x x') : KeptIf (e.isCall = false) x.aggregate? x'.aggregate? := by
  induction h with
  | here =>
    intro call ok
    refine ⟨fun plain => ?_, fun _ b ok' => by cases ok'⟩
    cases e with
    | call => cases plain
    | _ => cases ok
  | @argument x x' function before after extras inner ih =>
    intro call ok
    obtain ⟨windowed, given, ⟨other, told⟩ | ⟨round, y, rest, rounded, same, digits, read, rfl⟩⟩ :=
      aggregate?_call_iff.mp ok
    · obtain ⟨kept, fails⟩ := inner.plainAggregate? _ before after _ _ call told
      refine ⟨fun k => aggregate?_call_iff.mpr ⟨windowed, placed given, .inl ⟨other, kept k⟩⟩,
        fun k b ok' => ?_⟩
      obtain ⟨_, _, ⟨_, told'⟩ | ⟨round, _⟩⟩ := aggregate?_call_iff.mp ok'
      · exact fails k b told'
      · exact other round
    cases before with
    | nil =>
      -- The call that is rounded.
      obtain ⟨⟨⟩, rfl⟩ := List.cons.inj same
      obtain ⟨kept, fails⟩ := ih rounded read
      refine ⟨fun k => aggregate?_call_iff.mpr ⟨windowed, placed given,
        .inr ⟨round, x', after, rounded, rfl, digits, kept k, rfl⟩⟩, fun k b ok' => ?_⟩
      obtain ⟨_, _, ⟨other, _⟩ | ⟨_, _, _, rounded', same', _, read', _⟩⟩ := aggregate?_call_iff.mp ok'
      · exact other round
      · cases same'
        exact fails k rounded' read'
    | cons first before =>
      -- The number of digits.
      obtain ⟨rfl, rfl⟩ := List.cons.inj same
      obtain none | ⟨precision, lone, zero⟩ := digits
      · simp at none
      obtain ⟨rfl, rfl, rfl⟩ : before = [] ∧ x = precision ∧ after = [] := by
        cases before <;> simp_all
      obtain ⟨kept, fails⟩ := inner.literal? _ zero
      have given' : placedArguments? function (some ([.expr y] ++ .expr x' :: [])) extras =
          .ok ([.expr y] ++ .expr x' :: []) := placed given
      refine ⟨fun k => aggregate?_call_iff.mpr ⟨windowed, given',
        .inr ⟨round, y, [.expr x'], rounded, rfl, .inr ⟨x', rfl, kept k⟩, read, rfl⟩⟩, fun k b ok' => ?_⟩
      obtain ⟨_, _, ⟨other, _⟩ | ⟨_, _, _, _, same', digits', _, _⟩⟩ := aggregate?_call_iff.mp ok'
      · exact other round
      · cases same'
        obtain none | ⟨_, lone', zero'⟩ := digits'
        · cases none
        · cases lone'
          exact fails k _ zero'
  | _ => exact .of_error rfl

theorem item? (h : Wraps e x x') (label : Option String) :
    KeptIf (e.isCall = false) (x.item? label) (x'.item? label) := by
  cases h with
  | here =>
    cases e with
    | call =>
      intro item ok
      exact ⟨fun plain => (by cases plain), fun _ b ok' => (by cases ok')⟩
    | _ => exact here.column?.bind fun _ _ => id
  | argument function before after extras inner =>
    exact (inner.argument function before after extras).aggregate?.bind fun _ _ => id
  | nested inner => exact inner.nested.column?.bind fun _ _ => id
  | negated inner => exact inner.negated.column?.bind fun _ _ => id
  | left op right inner => exact (inner.left op right).column?.bind fun _ _ => id
  | right left op inner => exact (inner.right left op).column?.bind fun _ _ => id

theorem limit? (h : Wraps e x x') : KeptIf (e.isCall = false) x.limit? x'.limit? := by
  refine h.literal?.bind fun v limit ok => ?_
  cases v with
  | integer n =>
    dsimp only at ok ⊢
    split at ok
    · rename_i positive
      simpa [positive] using ok
    · cases ok
  | _ => cases ok

end Expr.Wraps

/-! ## Queries -/

/-- The second selection is the first with one more pair of parentheses, around a part `e` of an
expression that is selected, of a condition or of what the rows are grouped by. -/
inductive SelectText.Wraps (e : Expr) (s : SelectText) : SelectText → Prop
  | item {x x' : Expr} (before after : List SelectTerm) (label : Option Name) :
    s.items = before ++ .expr x label :: after → Expr.Wraps e x x' →
    Wraps e s { s with items := before ++ .expr x' label :: after }
  | join {x x' : Expr} (before after : List FromTerm) (table : TableTerm)
    (earlier later : List JoinTerm) (join : JoinTerm) : join.constraint = .condition x →
    s.tables = before ++ ⟨table, earlier ++ join :: later⟩ :: after → Expr.Wraps e x x' →
    Wraps e s { s with tables := before ++
      ⟨table, earlier ++ { join with constraint := .condition x' } :: later⟩ :: after }
  | filter {x x' : Expr} : s.filter = some x → Expr.Wraps e x x' →
    Wraps e s { s with filter := some x' }
  | grouping {x x' : Expr} (before after : List Expr) :
    s.grouping = .columns (before ++ x :: after) → Expr.Wraps e x x' →
    Wraps e s { s with grouping := .columns (before ++ x' :: after) }

/-- The same of a query, whose order and limit may have the parentheses too. -/
inductive QueryText.Wraps (e : Expr) (q : QueryText) : QueryText → Prop
  | select {s s' : SelectText} : q.body = .select s → s.Wraps e s' →
    Wraps e q { q with body := .select s' }
  | orderBy {x' : Expr} (before after : List OrderTerm) (term : OrderTerm) :
    q.orderBy = before ++ term :: after → Expr.Wraps e term.expr x' →
    Wraps e q { q with orderBy := before ++ { term with expr := x' } :: after }
  | limit {x x' : Expr} : q.limit = some x → Expr.Wraps e x x' →
    Wraps e q { q with limit := some x' }

section
variable {e x x' : Expr}

theorem Expr.Wraps.source? (h : Expr.Wraps e x x') (join : JoinTerm)
    (condition : join.constraint = .condition x) :
    KeptIf (e.isCall = false) join.source? { join with constraint := .condition x' }.source? := by
  refine .after fun _ _ => .after fun _ _ => ?_
  rw [condition]
  exact h.predicates?.bind fun _ _ => id

theorem FromTerm.sources?_kept {join join' : JoinTerm}
    (h : KeptIf (e.isCall = false) join.source? join'.source?) (kind : JoinKind) (table : TableTerm)
    (earlier later : List JoinTerm) :
    KeptIf (e.isCall = false) (FromTerm.sources? kind ⟨table, earlier ++ join :: later⟩)
      (FromTerm.sources? kind ⟨table, earlier ++ join' :: later⟩) :=
  .after fun _ _ => (h.mapM earlier later).bind fun _ _ => id

theorem sources?_kept {keep : Prop} {term term' : FromTerm}
    (h : ∀ kind, KeptIf keep (term.sources? kind) (term'.sources? kind)) (before after : List FromTerm) :
    KeptIf keep (sources? (before ++ term :: after)) (sources? (before ++ term' :: after)) := by
  cases before with
  | nil => exact (h .base).bind fun _ _ => id
  | cons first before => exact .after fun _ _ => ((h .cross).mapM before after).bind fun _ _ => id

theorem QueryText.Wraps.query? {q q' : QueryText} (h : q.Wraps e q') :
    KeptIf (e.isCall = false) q.query? q'.query? := by
  intro query ok
  cases h with
  | select body wraps =>
    have parts := reads_of_query? body ok
    cases wraps with
    | @item x x' before after label listed inner =>
      have term : KeptIf (e.isCall = false) (SelectTerm.expr x label).item?
        (SelectTerm.expr x' label).item? := inner.item? _
      exact (term.mapM before after).decides (listed ▸ parts.items)
        (fun kept => query?_eq_ok_iff.mpr ⟨_, { parts with body := rfl, items := kept }⟩)
        fun _ ok' => ⟨_, (reads_of_query? rfl ok').items⟩
    | join before after table earlier later join condition listed inner =>
      have tables := sources?_kept (fun kind => FromTerm.sources?_kept
        (inner.source? join condition) kind table earlier later) before after
      exact tables.decides (listed ▸ parts.sources)
        (fun kept => query?_eq_ok_iff.mpr ⟨_, { parts with body := rfl, sources := kept }⟩)
        fun _ ok' => ⟨_, (reads_of_query? rfl ok').sources⟩
    | filter filtered inner =>
      have read := parts.filter
      rw [filtered] at read
      refine inner.predicates?.decides read
        (fun kept => query?_eq_ok_iff.mpr ⟨_, { parts with body := rfl, filter := kept }⟩)
        fun _ ok' => ?_
      have parts' := reads_of_query? rfl ok'
      exact ⟨_, parts'.filter⟩
    | grouping before after grouped inner =>
      have read := parts.groupBy
      rw [grouped] at read
      refine (inner.column?.mapM before after).decides read
        (fun kept => query?_eq_ok_iff.mpr ⟨_, { parts with body := rfl, groupBy := kept }⟩)
        fun _ ok' => ?_
      have parts' := reads_of_query? rfl ok'
      exact ⟨_, parts'.groupBy⟩
  | @orderBy x' before after term listed inner =>
    obtain ⟨s, parts⟩ := query?_eq_ok_iff.mp ok
    have key : KeptIf (e.isCall = false) term.sortKey? { term with expr := x' }.sortKey? :=
      inner.column?.bind fun _ _ => id
    refine (key.mapM before after).decides (listed ▸ parts.orderBy)
      (fun kept => query?_eq_ok_iff.mpr ⟨s, { parts with orderBy := kept }⟩) fun _ ok' => ?_
    obtain ⟨_, parts'⟩ := query?_eq_ok_iff.mp ok'
    exact ⟨_, parts'.orderBy⟩
  | @limit x x' limited inner =>
    obtain ⟨s, parts⟩ := query?_eq_ok_iff.mp ok
    have read := parts.limit
    rw [limited] at read
    have count : KeptIf (e.isCall = false) ((some x).mapM Expr.limit?) ((some x').mapM Expr.limit?) :=
      inner.limit?.bind fun _ _ => id
    refine count.decides read
      (fun kept => query?_eq_ok_iff.mpr ⟨s, { parts with limit := kept }⟩) fun _ ok' => ?_
    obtain ⟨_, parts'⟩ := query?_eq_ok_iff.mp ok'
    exact ⟨_, parts'.limit⟩

end

end Sql

/-- Where the syntax of two texts differs in one pair of parentheses, they are read as one query unless
what stands in the parentheses is a call. Then the text with the parentheses is refused. -/
theorem Query.ofText?_wraps_iff {text text' : String} {q q' : Sql.QueryText} {e : Sql.Expr}
    {query : Query} (reads : Sql.statements? text = some [.query q])
    (reads' : Sql.statements? text' = some [.query q']) (wraps : q.Wraps e q')
    (accepted : Query.ofText? text = .ok query) :
    (Query.ofText? text' = .ok query ↔ e.isCall = false) ∧
      (e.isCall = true → ∃ feature, Query.ofText? text' = .error (.unsupported feature)) := by
  obtain ⟨_, same, told⟩ := Query.ofText?_eq_ok_iff.mp accepted
  cases reads.symm.trans same
  obtain ⟨kept, fails⟩ := wraps.query? query told
  have result : Query.ofText? text' = q'.query?.mapError .unsupported := by
    simp [Query.ofText?, reads', Sql.singleQuery?]
  refine ⟨⟨fun ok => ?_, fun plain => ?_⟩, fun call => ?_⟩
  · cases call : e.isCall with
    | false => rfl
    | true => exact absurd (ok_of_mapError (result ▸ ok)) (fails (by simp [call]) query)
  · rw [result, kept plain]
    rfl
  · cases outcome : q'.query? with
    | ok query' => exact absurd outcome (fails (by simp [call]) query')
    | error feature => exact ⟨feature, by rw [result, outcome]; rfl⟩

/-- What `SELECT item FROM logs` is read as. -/
def ofLogs (item : Sql.Expr) : Sql.QueryText where
  commonTables := none
  body := .select
    ⟨none, [.expr item none], [⟨.table [⟨"logs", none⟩] "" none "", []⟩], none, .columns [], none, {}⟩
  orderBy := []
  limit := none
  offset := none
  after := ""

theorem ofLogs_wraps (item : Sql.Expr) : (ofLogs item).Wraps item (ofLogs (.nested item)) :=
  .select rfl (.item [] [] none rfl .here)

theorem Query.ofText?_wraps_iff_column :
    ∃ query, Query.ofText? "SELECT num FROM logs" = .ok query ∧
      Query.ofText? "SELECT (num) FROM logs" = .ok query := by
  obtain ⟨query, accepted⟩ : ∃ query,
      (Query.ofText? "SELECT num FROM logs").toOption = some query :=
    Option.isSome_iff_exists.mp (by decide +kernel)
  have read := ok_of_toOption accepted
  exact ⟨query, read, (Query.ofText?_wraps_iff (by rfl) (by rfl)
    (ofLogs_wraps (.name ⟨"num", none⟩)) read).1.mpr rfl⟩

/-- Parentheses around a call are not unwrapped: what stands in them is taken for a column. -/
theorem Query.ofText?_wrapped_count :
    let count : Sql.Expr := .call [⟨"COUNT", none⟩] (some [.wildcard]) {}
    ∃ q q', Sql.statements? "SELECT COUNT(*) FROM logs" = some [.query q] ∧
      Sql.statements? "SELECT (COUNT(*)) FROM logs" = some [.query q'] ∧ q.Wraps count q' ∧
      (∃ query, Query.ofText? "SELECT COUNT(*) FROM logs" = .ok query) ∧
      Query.ofText? "SELECT (COUNT(*)) FROM logs" =
        .error (.unsupported (.columnReference "COUNT(*)")) := by
  intro count
  obtain ⟨query, accepted⟩ : ∃ query,
      (Query.ofText? "SELECT COUNT(*) FROM logs").toOption = some query :=
    Option.isSome_iff_exists.mp (by decide +kernel)
  have reads : Sql.statements? "SELECT (COUNT(*)) FROM logs" =
      some [.query (ofLogs (.nested count))] := by rfl
  have refused : Query.ofText? "SELECT (COUNT(*)) FROM logs" =
      .error (.unsupported (.columnReference "COUNT(*)")) := by
    rw [Query.ofText?, reads]
    rfl
  exact ⟨ofLogs count, ofLogs (.nested count), by rfl, reads, ofLogs_wraps count,
    ⟨query, ok_of_toOption accepted⟩, refused⟩

end QueryShapes
