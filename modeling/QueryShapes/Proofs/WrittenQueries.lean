import QueryShapes.Proofs.WrittenExpressions
import Mathlib.Logic.Function.Basic

/-!
# Queries as they are written

Queries of one table, or of two that are joined on a condition, with at most one expression in each
clause.

- `PlainQuery.tokens` and `PlainQuery.query`: how such a query is written, and what it is read as.
- `PlainQuery.tokens_set`: where the tokens of an expression stand among those of the query.
- `Sql.statements?_plain`: a text of such a query is read as that query.
- `PlainQuery.set_wraps`: parentheses that are inserted in the text are parentheses of the syntax.
- `Query.ofText?_set`: one more pair of parentheses in a text leaves the query as it is, unless it
  stands around a call.
- `Query.ofText?_pairs`: so do any number of pairs around what is no call.
-/

namespace QueryShapes

namespace Sql

open Reading

/-! ## Writing -/

/-- An expression with the tokens that write it. -/
structure Piece where
  tokens : List Token
  expr : Expr
  depth : Nat
  written : expr.Written depth 0 0 tokens

namespace Piece

/-- The piece in one more pair of parentheses. -/
def nested (p : Piece) : Piece where
  tokens := .symbol "(" :: p.tokens ++ [.symbol ")"]
  expr := .nested p.expr
  depth := p.depth + 1
  written := .nested p.written

/-- The piece in so many pairs of parentheses. -/
def pairs (p : Piece) : Nat → Piece
  | 0 => p
  | n + 1 => (p.pairs n).nested

theorem depth_pairs (p : Piece) (n : Nat) : (p.pairs n).depth = p.depth + n := by
  induction n with
  | zero => rfl
  | succ n ih => exact congrArg (· + 1) ih

theorem keyword (p : Piece) {word : String} (leading : word ∈ leadingWords) (rest : List Token) :
    (Rule.keyword word).run? (p.tokens ++ rest) = some (false, p.tokens ++ rest) := by
  obtain ⟨first, more, start, leads⟩ := p.written.leads
  rw [start]
  exact keyword_of_leads leads leading _

end Piece

/-- Where an expression may stand in a query. -/
inductive Place
  | item | on | filter | grouping | key | limit
deriving DecidableEq

/-- A query of one table, or of two where there is a condition to join them on. Without an item it
selects everything. -/
structure PlainQuery where
  table : Name
  other : Name
  piece : Place → Option Piece
  named : ∀ n ∈ [table, other], n.keyword ≠ "LATERAL" ∧ n.keyword ≠ "TABLE"

def keyToken (word : String) : Token := .word ⟨word, none⟩

/-- A clause that starts with the words, if there is one. -/
def clauseTokens (words : List String) (piece : Option Piece) : List Token :=
  match piece with
  | some p => words.map keyToken ++ p.tokens
  | none => []

def namedTable (n : Name) : TableTerm := .table [n] "" none ""

namespace PlainQuery

variable (q : PlainQuery)

def limitTokens : List Token := clauseTokens ["LIMIT"] (q.piece .limit)

def keyTokens : List Token := clauseTokens ["ORDER", "BY"] (q.piece .key) ++ q.limitTokens

def groupingTokens : List Token := clauseTokens ["GROUP", "BY"] (q.piece .grouping) ++ q.keyTokens

def filterTokens : List Token := clauseTokens ["WHERE"] (q.piece .filter) ++ q.groupingTokens

def joinTokens : List Token :=
  match q.piece .on with
  | some p => keyToken "JOIN" :: .word q.other :: keyToken "ON" :: p.tokens
  | none => []

/-- The tables and what stands behind them. -/
def tableTokens : List Token := .word q.table :: (q.joinTokens ++ q.filterTokens)

def itemTokens : List Token :=
  match q.piece .item with
  | some p => p.tokens
  | none => [.symbol "*"]

def tokens : List Token :=
  keyToken "SELECT" :: (q.itemTokens ++ keyToken "FROM" :: q.tableTokens)

def join (p : Piece) : JoinTerm where
  operator := .inner
  table := namedTable q.other
  constraint := .condition p.expr

def tables : FromTerm := ⟨namedTable q.table, ((q.piece .on).map q.join).toList⟩

def item : SelectTerm :=
  match q.piece .item with
  | some p => .expr p.expr none
  | none => .wildcard []

def select : SelectText where
  distinct := none
  items := [q.item]
  tables := [q.tables]
  filter := (q.piece .filter).map Piece.expr
  grouping := .columns ((q.piece .grouping).map Piece.expr).toList
  having := none
  extras := {}

def query : QueryText where
  commonTables := none
  body := .select q.select
  orderBy := ((q.piece .key).map fun p => ⟨p.expr, none, ""⟩).toList
  limit := (q.piece .limit).map Piece.expr
  offset := none
  after := ""

/-! ### Other expressions in a place -/

/-- The query with another expression in one place. -/
def set (place : Place) (p : Piece) : PlainQuery :=
  { q with piece := Function.update q.piece place (some p) }

variable {q}

theorem piece_set (place : Place) (p : Piece) : (q.set place p).piece place = some p := by
  simp [set]

theorem piece_set_of_ne {place other : Place} (differ : other ≠ place) (p : Piece) :
    (q.set place p).piece other = q.piece other := by
  simp [set, differ]

theorem set_set (place : Place) (p p' : Piece) : (q.set place p).set place p' = q.set place p' := by
  simp [set]

theorem set_eq_self {place : Place} {p : Piece} (here : q.piece place = some p) :
    q.set place p = q := by
  simp [set, ← here]

variable (q)

/-- The items and the tables. -/
def front : List Token := q.itemTokens ++ keyToken "FROM" :: .word q.table :: q.joinTokens

/-- What stands between the first word and the expression in a place. -/
def before : Place → List Token
  | .item => []
  | .on => q.itemTokens ++
      [keyToken "FROM", .word q.table, keyToken "JOIN", .word q.other, keyToken "ON"]
  | .filter => q.front ++ [keyToken "WHERE"]
  | .grouping => q.front ++ clauseTokens ["WHERE"] (q.piece .filter) ++
      [keyToken "GROUP", keyToken "BY"]
  | .key => q.front ++ clauseTokens ["WHERE"] (q.piece .filter) ++
      clauseTokens ["GROUP", "BY"] (q.piece .grouping) ++ [keyToken "ORDER", keyToken "BY"]
  | .limit => q.front ++ clauseTokens ["WHERE"] (q.piece .filter) ++
      clauseTokens ["GROUP", "BY"] (q.piece .grouping) ++
      clauseTokens ["ORDER", "BY"] (q.piece .key) ++ [keyToken "LIMIT"]

/-- What stands behind the expression in a place. -/
def behind : Place → List Token
  | .item => keyToken "FROM" :: q.tableTokens
  | .on => q.filterTokens
  | .filter => q.groupingTokens
  | .grouping => q.keyTokens
  | .key => q.limitTokens
  | .limit => []

/-- The expression in a place is written between tokens that do not depend on it. -/
theorem tokens_set (place : Place) (p : Piece) : (q.set place p).tokens =
    keyToken "SELECT" :: (q.before place ++ (p.tokens ++ q.behind place)) := by
  cases place <;>
    simp [tokens, itemTokens, tableTokens, joinTokens, filterTokens, groupingTokens, keyTokens,
      limitTokens, clauseTokens, front, before, behind, set]

theorem length_lt_tokens {place : Place} {p : Piece} (here : q.piece place = some p) :
    p.tokens.length < q.tokens.length := by
  have split := q.tokens_set place p
  rw [set_eq_self here] at split
  rw [split, List.length_cons, List.length_append, List.length_append]
  omega

end PlainQuery

/-! ## Clauses that are not there -/

/-- The words that may stand behind a table. -/
def clauseWords : List String := ["JOIN", "ON", "WHERE", "GROUP", "ORDER", "LIMIT"]

/-- The tokens are over, or go on with one of the words. -/
def Opens (words : List String) (tokens : List Token) : Prop :=
  tokens = [] ∨ ∃ word ∈ words, ∃ rest, tokens = keyToken word :: rest

namespace Opens

variable {words : List String} {tokens : List Token}

theorem keyword (opens : Opens words tokens) {word : String} (other : ∀ w ∈ words, upper w ≠ word) :
    (Rule.keyword word).run? tokens = some (false, tokens) := by
  obtain rfl | ⟨w, among, rest, rfl⟩ := opens
  · rfl
  · exact keyword_of_head (keyToken w) (other w among) rest

theorem symbol (opens : Opens words tokens) (text : String) :
    (Rule.symbol text).run? tokens = some (false, tokens) := by
  obtain rfl | ⟨w, among, rest, rfl⟩ := opens
  · rfl
  · exact symbol_of_head (by simp [keyToken])

theorem mono {more : List String} (opens : Opens words tokens) (among : ∀ w ∈ words, w ∈ more) :
    Opens more tokens := by
  obtain ended | ⟨w, member, rest, split⟩ := opens
  · exact .inl ended
  · exact .inr ⟨w, among w member, rest, split⟩

theorem follows (opens : Opens clauseWords tokens) : Follows 0 tokens := by
  obtain rfl | ⟨w, among, rest, rfl⟩ := opens
  · exact .nil
  · simp only [clauseWords, List.mem_cons, List.not_mem_nil, or_false] at among
    obtain rfl | rfl | rfl | rfl | rfl | rfl := among <;> exact ⟨rfl, rfl⟩

theorem clause (opens : Opens words tokens) (word : String) (more : List String)
    (piece : Option Piece) : Opens (word :: words) (clauseTokens (word :: more) piece ++ tokens) := by
  cases piece with
  | some p => exact .inr ⟨word, List.mem_cons_self, _, rfl⟩
  | none => exact opens.mono fun w => List.mem_cons_of_mem word

end Opens

namespace PlainQuery

variable (q : PlainQuery)

theorem opens_limitTokens : Opens ["LIMIT"] q.limitTokens := by
  have last : Opens [] [] := .inl rfl
  simpa [limitTokens] using last.clause "LIMIT" [] (q.piece .limit)

theorem opens_keyTokens : Opens ["ORDER", "LIMIT"] q.keyTokens :=
  q.opens_limitTokens.clause "ORDER" ["BY"] (q.piece .key)

theorem opens_groupingTokens : Opens ["GROUP", "ORDER", "LIMIT"] q.groupingTokens :=
  q.opens_keyTokens.clause "GROUP" ["BY"] (q.piece .grouping)

theorem opens_filterTokens : Opens ["WHERE", "GROUP", "ORDER", "LIMIT"] q.filterTokens :=
  q.opens_groupingTokens.clause "WHERE" [] (q.piece .filter)

theorem opens_joinTokens : Opens clauseWords (q.joinTokens ++ q.filterTokens) := by
  unfold joinTokens
  cases q.piece .on with
  | some p => exact .inr ⟨"JOIN", List.mem_cons_self, _, rfl⟩
  | none => exact q.opens_filterTokens.mono (by decide)

end PlainQuery

/-! ## Reading tables -/

variable {g : Nesting} {rest : List Token} {q : PlainQuery}

theorem namedTable_of_opens {n : Name} (opens : Opens clauseWords rest) :
    (Rule.namedTable g).run? (.word n :: rest) = some (namedTable n, rest) := by
  have path : Rule.path.run? (.word n :: rest) = some ([n], rest) :=
    separated_one rfl (opens.symbol ".")
  rw [Rule.namedTable, run?_bind_of path]
  obtain rfl | ⟨w, among, rest, rfl⟩ := opens
  · rfl
  · simp only [clauseWords, List.mem_cons, List.not_mem_nil, or_false] at among
    obtain rfl | rfl | rfl | rfl | rfl | rfl := among <;> rfl

theorem tableTerm_of_opens {n : Name} (named : n.keyword ≠ "LATERAL" ∧ n.keyword ≠ "TABLE")
    (opens : Opens clauseWords rest) :
    (Rule.tableTerm g).run? (.word n :: rest) = some (namedTable n, rest) := by
  have ahead : (Rule.keywordAhead 0).run? (.word n :: rest) = some (n.keyword, .word n :: rest) := rfl
  have second : (ahead? 1).run? (.word n :: rest) = some (rest[0]?, .word n :: rest) := rfl
  have uncalled : (rest[0]? == some (.symbol "(")) = false := by
    obtain rfl | ⟨w, among, rest, rfl⟩ := opens <;> rfl
  rw [Rule.tableTerm, run?_bind_of (keyword_of_head (.word n) named.1 rest)]
  simp only [Bool.false_eq_true, if_false]
  rw [run?_bind_of (keyword_of_head (.word n) named.2 rest)]
  simp only [Bool.false_eq_true, if_false]
  rw [run?_bind_of (symbol_of_head (by simp))]
  simp only [Bool.false_eq_true, if_false]
  rw [run?_bind_of ahead, run?_bind_of second]
  simp only [uncalled, Bool.and_false, Bool.false_eq_true, if_false]
  exact namedTable_of_opens opens

theorem joinTerm?_of_opens (opens : Opens ["WHERE", "GROUP", "ORDER", "LIMIT"] rest) :
    (Rule.joinTerm? g).run? rest = some (none, rest) := by
  obtain rfl | ⟨w, among, rest, rfl⟩ := opens
  · rfl
  · simp only [List.mem_cons, List.not_mem_nil, or_false] at among
    obtain rfl | rfl | rfl | rfl := among <;> rfl

theorem joinTerm?_plain {p : Piece} (reads : ReadsAs g.expr p.tokens p.expr) :
    (Rule.joinTerm? g).run?
        (keyToken "JOIN" :: .word q.other :: keyToken "ON" :: (p.tokens ++ q.filterTokens)) =
      some (some (q.join p), q.filterTokens) := by
  have joins : Rule.joinOperator?.run?
      (keyToken "JOIN" :: .word q.other :: keyToken "ON" :: (p.tokens ++ q.filterTokens)) =
        some (some .inner, .word q.other :: keyToken "ON" :: (p.tokens ++ q.filterTokens)) := rfl
  have table := tableTerm_of_opens (g := g) (q.named q.other (by simp))
    (.inr ⟨"ON", by decide, p.tokens ++ q.filterTokens, rfl⟩)
  have condition := reads q.filterTokens (q.opens_filterTokens.mono (by decide)).follows
  have constraint : (Rule.joinConstraint g).run? (keyToken "ON" :: (p.tokens ++ q.filterTokens)) =
      some (.condition p.expr, q.filterTokens) := by
    refine (run?_bind_of (a := true) rfl).trans ?_
    exact (run?_bind_of condition).trans rfl
  refine (run?_bind_of (a := false) rfl).trans ((run?_bind_of (a := none) rfl).trans ?_)
  refine (run?_bind_of (a := false) rfl).trans ((run?_bind_of joins).trans ?_)
  exact (run?_bind_of table).trans ((run?_bind_of constraint).trans rfl)

theorem repeated_single {τ α : Type} {rule : Reading τ (Option α)} {first : τ} {items rest : List τ}
    {a : α} (taken : rule.run? (first :: items) = some (some a, rest))
    (refused : rule.run? rest = some (none, rest)) :
    (repeated rule).run? (first :: items) = some ([a], rest) := by
  have last (fuel : Nat) : (repeatWithin rule (fuel + 1)).run? rest = some ([], rest) := by
    rw [repeatWithin, run?_bind_of refused]
    rfl
  rw [repeated, run?_sized, List.length_cons, repeatWithin, run?_bind_of taken]
  exact (run?_bind_of (last items.length)).trans rfl

theorem joined_plain (reads : ∀ p ∈ q.piece .on, ReadsAs g.expr p.tokens p.expr) :
    (Rule.joined g).run? q.tableTokens = some (q.tables, q.filterTokens) := by
  have last := joinTerm?_of_opens (g := g) q.opens_filterTokens
  have joins : (repeated (Rule.joinTerm? g)).run? (q.joinTokens ++ q.filterTokens) =
      some (((q.piece .on).map q.join).toList, q.filterTokens) := by
    unfold PlainQuery.joinTokens
    cases on : q.piece .on with
    | none => exact repeated_of_none last
    | some p => exact repeated_single (joinTerm?_plain (reads p on)) last
  have table := tableTerm_of_opens (g := g) (q.named q.table (by simp)) q.opens_joinTokens
  rw [PlainQuery.tableTokens, Rule.joined, run?_bind_of table]
  exact (run?_bind_of joins).trans rfl

/-! ## Reading clauses -/

theorem keyword_itemTokens {word : String} (leading : word ∈ leadingWords) (rest : List Token) :
    (Rule.keyword word).run? (q.itemTokens ++ rest) = some (false, q.itemTokens ++ rest) := by
  unfold PlainQuery.itemTokens
  cases q.piece .item with
  | some p => exact p.keyword leading rest
  | none =>
    refine keyword_of_head (.symbol "*") ?_ rest
    rintro rfl
    exact absurd leading (by decide)

theorem selectTerm_plain (reads : ∀ p ∈ q.piece .item, ReadsAs g.expr p.tokens p.expr)
    (rest : List Token) :
    (Rule.selectTerm g).run? (q.itemTokens ++ keyToken "FROM" :: rest) =
      some (q.item, keyToken "FROM" :: rest) := by
  unfold PlainQuery.itemTokens PlainQuery.item
  cases item : q.piece .item with
  | none => rfl
  | some p =>
    have follows : Follows 0 (keyToken "FROM" :: rest) := ⟨rfl, rfl⟩
    obtain ⟨first, more, start, leads⟩ := p.written.leads
    have unqualified : (more ++ keyToken "FROM" :: rest).head? ≠ some (.symbol ".") :=
      (start ▸ p.written).second_ne follows rfl rfl
    have read := reads p item _ follows
    have written := p.written
    dsimp only
    rw [start, List.cons_append] at read ⊢
    rw [Rule.selectTerm, run?_bind_of (wildcard?_of_leads leads unqualified)]
    dsimp only
    rw [run?_bind_of read]
    -- Only a name could be a bare `FROM`.
    generalize p.expr = e at written ⊢
    cases e with
    | name n =>
      have other : (n.keyword == "FROM") = false := by
        rw [beq_eq_false_iff_ne]
        intro same
        exact n.keyword_not_mem written.isPlain (by rw [same]; decide)
      simp only [other, Bool.false_eq_true, if_false]
      rfl
    | _ => rfl

theorem filter_plain (reads : ∀ p ∈ q.piece .filter, ReadsAs g.expr p.tokens p.expr) :
    (after? (Rule.keyword "WHERE") g.expr).run? q.filterTokens =
      some ((q.piece .filter).map Piece.expr, q.groupingTokens) := by
  have opens := q.opens_groupingTokens
  unfold PlainQuery.filterTokens
  cases filter : q.piece .filter with
  | none => exact after?_of_false (opens.keyword (by decide)) g.expr
  | some p =>
    refine (run?_bind_of (a := true) rfl).trans ?_
    exact (run?_bind_of (reads p filter _ (opens.mono (by decide)).follows)).trans rfl

theorem grouping_plain (reads : ∀ p ∈ q.piece .grouping, ReadsAs g.expr p.tokens p.expr) :
    (Rule.grouping g).run? q.groupingTokens =
      some (.columns ((q.piece .grouping).map Piece.expr).toList, q.keyTokens) := by
  have opens := q.opens_keyTokens
  unfold PlainQuery.groupingTokens
  cases grouping : q.piece .grouping with
  | none =>
    have missing : (Rule.keyword "GROUP").run? q.keyTokens = some (false, q.keyTokens) :=
      opens.keyword (by decide)
    exact (run?_bind_of (keywords_of_keyword missing ["BY"])).trans rfl
  | some p =>
    have read : (Rule.commas g.expr).run? (p.tokens ++ q.keyTokens) = some ([p.expr], q.keyTokens) :=
      separated_one (reads p grouping _ (opens.mono (by decide)).follows) (opens.symbol ",")
    refine (run?_bind_of (a := true) rfl).trans ?_
    have all : (Rule.keyword "ALL").run? (p.tokens ++ q.keyTokens) =
        some (false, p.tokens ++ q.keyTokens) := p.keyword (by decide) q.keyTokens
    refine (run?_bind_of all).trans ?_
    exact (run?_bind_of read).trans rfl

theorem orderTerm_of_opens {tokens : List Token} {e : Expr}
    (read : g.expr.run? tokens = some (e, rest)) (opens : Opens ["LIMIT"] rest) :
    (Rule.orderTerm g).run? tokens = some (⟨e, none, ""⟩, rest) := by
  rw [Rule.orderTerm, run?_bind_of read]
  obtain rfl | ⟨w, among, rest, rfl⟩ := opens
  · rfl
  · obtain rfl := List.mem_singleton.mp among
    rfl

theorem key_plain (reads : ∀ p ∈ q.piece .key, ReadsAs g.expr p.tokens p.expr) :
    (after? (Rule.keywords ["ORDER", "BY"]) (Rule.orderTerms g)).run? q.keyTokens =
      some ((q.piece .key).map fun p => [⟨p.expr, none, ""⟩], q.limitTokens) := by
  have opens := q.opens_limitTokens
  unfold PlainQuery.keyTokens
  cases key : q.piece .key with
  | none => exact after?_of_false (keywords_of_keyword (opens.keyword (by decide)) ["BY"]) _
  | some p =>
    have term := orderTerm_of_opens (reads p key _ (opens.mono (by decide)).follows) opens
    refine (run?_bind_of (a := true) rfl).trans ?_
    exact (run?_bind_of (separated_one term (opens.symbol ","))).trans rfl

theorem limits_plain (reads : ∀ p ∈ q.piece .limit, ReadsAs g.expr p.tokens p.expr) :
    (Rule.limits g (none, none)).run? q.limitTokens =
      some (((q.piece .limit).map Piece.expr, none), []) := by
  unfold PlainQuery.limitTokens
  cases limit : q.piece .limit with
  | none => rfl
  | some p =>
    have read := reads p limit [] .nil
    have all : (Rule.keyword "ALL").run? (p.tokens ++ []) = some (false, p.tokens ++ []) :=
      p.keyword (by decide) []
    rw [List.append_nil] at read all
    have value : (Rule.limitValue g).run? p.tokens = some (some p.expr, []) := by
      rw [Rule.limitValue, run?_bind_of all]
      exact (run?_bind_of read).trans rfl
    have clause : (after? (Rule.keyword "LIMIT") (Rule.limitValue g)).run?
        (keyToken "LIMIT" :: p.tokens) = some (some (some p.expr), []) := by
      refine (run?_bind_of (a := true) rfl).trans ?_
      exact (run?_bind_of value).trans rfl
    exact (run?_bind_of clause).trans rfl

/-! ## Reading queries -/

/-- The rules for parts read the parts of the query. -/
structure PlainQuery.ReadBy (q : PlainQuery) (g : Nesting) : Prop where
  joined : g.joined.run? q.tableTokens = some (q.tables, q.filterTokens)
  pieces : ∀ place, ∀ p ∈ q.piece place, ReadsAs g.expr p.tokens p.expr

theorem select_plain (reads : q.ReadBy g) :
    (Rule.select g).run? q.tokens = some (q.select, q.keyTokens) := by
  have distinct (rest : List Token) : (Rule.distinct g).run? (q.itemTokens ++ rest) =
      some (none, q.itemTokens ++ rest) := by
    rw [Rule.distinct, run?_bind_of (keyword_itemTokens (by decide) rest),
      run?_bind_of (keyword_itemTokens (by decide) rest)]
    rfl
  have top (rest : List Token) :
      (Rule.optionalText " TOP " (Rule.keyword "TOP") (Rule.top g)).run? (q.itemTokens ++ rest) =
        some ("", q.itemTokens ++ rest) :=
    optionalText_of_false (keyword_itemTokens (by decide) rest) " TOP " (Rule.top g)
  have items (rest : List Token) : (Rule.selectTerms g).run?
      (q.itemTokens ++ keyToken "FROM" :: rest) = some ([q.item], keyToken "FROM" :: rest) :=
    separated_one (selectTerm_plain (reads.pieces .item) rest) rfl
  have tables : (after? (Rule.keyword "FROM") (Rule.commas g.joined)).run?
      (keyToken "FROM" :: q.tableTokens) = some (some [q.tables], q.filterTokens) := by
    refine (run?_bind_of (a := true) rfl).trans ?_
    exact (run?_bind_of (separated_one reads.joined (q.opens_filterTokens.symbol ","))).trans rfl
  have views : (repeated (Rule.lateralView? g)).run? q.filterTokens = some ([], q.filterTokens) :=
    repeated_of_none (after?_of_false
      (keywords_of_keyword (q.opens_filterTokens.keyword (by decide)) ["VIEW"]) _)
  have opens := q.opens_keyTokens
  rw [Rule.select, PlainQuery.tokens]
  refine (run?_bind_of (a := ()) rfl).trans ?_
  rw [run?_bind_of (distinct _), run?_bind_of (top _), run?_bind_of (items _)]
  refine (run?_bind_of (a := "") rfl).trans ?_
  rw [run?_bind_of tables, run?_bind_of views, run?_bind_of (filter_plain (reads.pieces .filter)),
    run?_bind_of (grouping_plain (reads.pieces .grouping))]
  -- None of the clauses between grouping and ordering is there.
  generalize q.keyTokens = rest at opens ⊢
  obtain rfl | ⟨w, among, rest, rfl⟩ := opens
  · rfl
  · simp only [List.mem_cons, List.not_mem_nil, or_false] at among
    obtain rfl | rfl := among <;> rfl

theorem query_plain (reads : q.ReadBy g) : (Rule.query g).run? q.tokens = some (q.query, []) := by
  have plain : (Rule.plainBody g).run? q.tokens = some (.select q.select, q.keyTokens) := by
    refine (run?_bind_of (a := "SELECT") rfl).trans ?_
    exact (run?_bind_of (select_plain reads)).trans rfl
  have last : Rule.setOperator?.run? q.keyTokens = some (none, q.keyTokens) :=
    (run?_bind_of (keywordOf?_of_forall fun word among =>
      q.opens_keyTokens.keyword (by revert word; decide))).trans rfl
  have body : (Rule.body g).run? q.tokens = some (.select q.select, q.keyTokens) := by
    rw [Rule.body, run?_bind_of plain,
      run?_bind_of (repeated_of_none ((run?_bind_of last).trans rfl))]
    rfl
  refine (run?_bind_of (a := none) rfl).trans ?_
  refine (run?_bind_of (a := none) rfl).trans ?_
  dsimp only
  refine (run?_bind_of body).trans ?_
  rw [run?_bind_of (key_plain (reads.pieces .key)), run?_bind_of (limits_plain (reads.pieces .limit))]
  unfold PlainQuery.query
  cases q.piece .key <;> cases q.piece .limit <;> rfl

/-! ## Reading texts -/

section
variable (fuel level : Nat) (tokens : List Token)

theorem run?_joined : (nesting (fuel + 1) level).joined.run? tokens =
    (Rule.joined (nesting fuel level)).run? tokens :=
  rfl

theorem run?_query : (nesting (fuel + 1) (level + 1)).query.run? tokens =
    (Rule.query (nesting fuel level)).run? tokens :=
  rfl

theorem run?_statement : (nesting (fuel + 1) (level + 1)).statement.run? tokens =
    (Rule.statement (nesting fuel level)).run? tokens :=
  rfl

end

/-- All its expressions are flat enough for a statement, the query that it is and an expression in it to
lie inside each other. -/
def PlainQuery.Shallow (q : PlainQuery) : Prop :=
  ∀ place, ∀ p ∈ q.piece place, p.depth + 3 ≤ depthLimit

theorem statement_plain {fuel level : Nat} (enough : q.tokens.length ≤ fuel)
    (shallow : ∀ place, ∀ p ∈ q.piece place, p.depth ≤ level) :
    (nesting (fuel + 4) (level + 3)).statement.run? q.tokens = some (.query q.query, []) := by
  have pieces (n : Nat) (more : fuel ≤ n) (place : Place) (p : Piece) (here : p ∈ q.piece place) :
      ReadsAs (nesting (n + 1) (level + 1)).expr p.tokens p.expr := by
    have shorter := q.length_lt_tokens here
    exact p.written.readsAs (by omega) (shallow place p here)
  have joined : (nesting (fuel + 2) (level + 1)).joined.run? q.tableTokens =
      some (q.tables, q.filterTokens) := by
    rw [run?_joined]
    exact joined_plain (pieces fuel (Nat.le_refl fuel) .on)
  have read := query_plain ⟨joined, pieces (fuel + 1) (Nat.le_succ fuel)⟩
  have ahead : peek?.run? q.tokens = some (some (keyToken "SELECT"), q.tokens) := rfl
  rw [run?_statement]
  refine (run?_bind_of (a := "SELECT") rfl).trans ?_
  rw [run?_bind_of ahead, if_pos (by decide)]
  rw [← run?_query] at read
  rw [run?_bind_of read]
  rfl

/-- A text of one statement without separators. -/
theorem statements_single {statement : Rule Statement} (mark : Token) {tokens : List Token}
    {s : Statement} (other : mark ≠ .symbol ";")
    (read : statement.run? (mark :: tokens) = some (s, [])) :
    (Rule.statements statement).run? (mark :: tokens) = some ([s], []) := by
  have separators : (repeated do return if ← Rule.symbol ";" then some () else none).run?
      (mark :: tokens) = some ([], mark :: tokens) :=
    repeated_of_none ((run?_bind_of (symbol_of_head (by simpa using other))).trans rfl)
  have first : (Rule.statement? statement true).run? (mark :: tokens) = some (some s, []) := by
    rw [Rule.statement?, run?_bind_of (run?_peek? mark tokens)]
    exact (run?_bind_of read).trans rfl
  rw [Rule.statements, run?_sized, List.length_cons, Rule.statementsWithin, run?_bind_of separators]
  exact (run?_bind_of first).trans rfl

theorem statements?_plain {text : String} (split : tokens? text = some q.tokens)
    (shallow : q.Shallow) : statements? text = some [.query q.query] := by
  obtain ⟨level, limit⟩ : ∃ level, depthLimit = level + 3 := ⟨47, rfl⟩
  have long : 2 ≤ q.tokens.length := by
    rw [PlainQuery.tokens, List.length_cons, List.length_append, List.length_cons]
    omega
  obtain ⟨fuel, enough⟩ : ∃ fuel, 2 * q.tokens.length + 2 = fuel + 4 :=
    ⟨2 * q.tokens.length - 2, by omega⟩
  have read : (nesting (2 * q.tokens.length + 2) depthLimit).statement.run? q.tokens =
      some (.query q.query, []) := by
    rw [enough, limit]
    refine statement_plain (by omega) fun place p here => ?_
    have deep := shallow place p here
    omega
  have all : (Rule.statements (nesting (2 * q.tokens.length + 2) depthLimit).statement).run?
      q.tokens = some ([.query q.query], []) :=
    statements_single (keyToken "SELECT") (by decide) read
  simp [statements?, split, all]

/-! ## Parentheses in the text -/

namespace PlainQuery

theorem Shallow.set (shallow : q.Shallow) {p : Piece} (deep : p.depth + 3 ≤ depthLimit)
    (place : Place) : (q.set place p).Shallow := by
  intro place' p' here
  by_cases same : place' = place
  · subst same
    rw [piece_set] at here
    exact Option.some_inj.mp here ▸ deep
  · rw [piece_set_of_ne same] at here
    exact shallow place' p' here

theorem ofText?_eq {text : String} (split : tokens? text = some q.tokens) (shallow : q.Shallow) :
    Query.ofText? text = q.query.query?.mapError .unsupported := by
  simp [Query.ofText?, statements?_plain split shallow, singleQuery?]

/-- Parentheses that are inserted in the text are parentheses of the syntax. -/
theorem set_wraps {place : Place} {p p' : Piece} {e : Expr} (here : q.piece place = some p)
    (wraps : Expr.Wraps e p.expr p'.expr) : q.query.Wraps e (q.set place p').query := by
  cases place with
  | item =>
    have listed : q.select.items = [] ++ .expr p.expr none :: [] := by simp [select, item, here]
    exact .select rfl (.item [] [] none listed wraps)
  | on =>
    have listed : q.select.tables = [] ++ ⟨namedTable q.table, [] ++ q.join p :: []⟩ :: [] := by
      simp [select, tables, here]
    exact .select rfl (.join [] [] (namedTable q.table) [] [] (q.join p) rfl listed wraps)
  | filter =>
    have filtered : q.select.filter = some p.expr := by simp [select, here]
    exact .select rfl (.filter filtered wraps)
  | grouping =>
    have grouped : q.select.grouping = .columns ([] ++ p.expr :: []) := by simp [select, here]
    exact .select rfl (.grouping [] [] grouped wraps)
  | key =>
    have ordered : q.query.orderBy = [] ++ ⟨p.expr, none, ""⟩ :: [] := by simp [query, here]
    exact .orderBy [] [] ⟨p.expr, none, ""⟩ ordered wraps
  | limit =>
    have limited : q.query.limit = some p.expr := by simp [query, here]
    exact .limit limited wraps

theorem query?_pairs {place : Place} {p : Piece} (here : q.piece place = some p)
    (plain : p.expr.isCall = false) {query : Query} (told : q.query.query? = .ok query)
    (pairs : Nat) : (q.set place (p.pairs pairs)).query.query? = .ok query := by
  induction pairs with
  | zero => rwa [Piece.pairs, set_eq_self here]
  | succ pairs ih =>
    have inner : (p.pairs pairs).expr.isCall = false := by
      cases pairs with
      | zero => exact plain
      | succ => rfl
    have wraps : (q.set place (p.pairs pairs)).query.Wraps (p.pairs pairs).expr
        ((q.set place (p.pairs pairs)).set place (p.pairs (pairs + 1))).query :=
      set_wraps (q.piece_set place (p.pairs pairs)) .here
    rw [set_set] at wraps
    exact (wraps.query? query ih).1 inner

end PlainQuery

end Sql

open Sql

section
variable {q : PlainQuery} {p : Piece} {text text' : String} (place : Place)

/-- One more pair of parentheses in the text, around the expression of a clause or a part of it. -/
theorem Query.ofText?_set {p' : Piece} {e : Expr} (here : q.piece place = some p)
    (wraps : Expr.Wraps e p.expr p'.expr) (shallow : q.Shallow) (deep : p'.depth + 3 ≤ depthLimit)
    (split : tokens? text = some q.tokens) (split' : tokens? text' = some (q.set place p').tokens) :
    KeptIf (e.isCall = false) (Query.ofText? text) (Query.ofText? text') := by
  rw [PlainQuery.ofText?_eq split shallow, PlainQuery.ofText?_eq split' (shallow.set deep place)]
  exact KeptIf.mapError (PlainQuery.set_wraps here wraps).query? Rejection.unsupported

/-- Any number of pairs of parentheses in the text, around an expression that is no call. -/
theorem Query.ofText?_pairs (pairs : Nat) {query : Query} (here : q.piece place = some p)
    (plain : p.expr.isCall = false) (shallow : q.Shallow)
    (deep : p.depth + pairs + 3 ≤ depthLimit) (split : tokens? text = some q.tokens)
    (split' : tokens? text' = some (q.set place (p.pairs pairs)).tokens)
    (accepted : Query.ofText? text = .ok query) : Query.ofText? text' = .ok query := by
  rw [← p.depth_pairs] at deep
  rw [PlainQuery.ofText?_eq split shallow] at accepted
  rw [PlainQuery.ofText?_eq split' (shallow.set deep place),
    PlainQuery.query?_pairs here plain (ok_of_mapError accepted)]
  rfl

end

/-- What `SELECT num FROM logs` writes. -/
def Sample.numbers : PlainQuery where
  table := ⟨"logs", none⟩
  other := ⟨"logs", none⟩
  piece
    | .item => some ⟨[keyToken "num"], .name ⟨"num", none⟩, 0, .name (by decide)⟩
    | _ => none
  named := by decide

example {query : Query} (accepted : Query.ofText? "SELECT num FROM logs" = .ok query) :
    Query.ofText? "SELECT (((num))) FROM logs" = .ok query :=
  Query.ofText?_pairs (q := Sample.numbers) .item 3 rfl rfl
    (by rintro ⟨⟩ _ ⟨⟩; decide) (by decide) (by rfl) (by rfl) accepted

end QueryShapes
