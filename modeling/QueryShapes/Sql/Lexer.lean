import QueryShapes.Sql.Escape
import QueryShapes.Sql.Token

/-!
# From text to tokens

- `tokens?`: the tokens of a text, without blanks and comments; `none` for an unterminated literal
  or comment.
- `step?`: takes one token, blank or comment off a text.
-/

namespace QueryShapes.Sql

/-! ## Classes of characters -/

/-- Names start with a letter, `_`, `$` or `@`; up to `U+FFFF` every character beyond ASCII will
do. -/
def startsName (c : Char) : Bool :=
  if c.toNat < 0x80 then c.isAlpha || c == '_' || c == '$' || c == '@'
  else c.toNat ≤ 0xFFFF || Text.isLetter c

def continuesName (c : Char) : Bool := startsName c || c.isDigit

/-- Blanks that names do not take. -/
def isGap (c : Char) : Bool := c == ' ' || ('\x09' ≤ c && c ≤ '\x0d')

/-- The character that a backslash makes of the one after it. -/
def escaped : Char → Char
  | '0' => '\x00'
  | 'a' => '\x07'
  | 'b' => '\x08'
  | 'f' => '\x0c'
  | 'n' => '\n'
  | 'r' => '\r'
  | 't' => '\t'
  | 'Z' => '\x1a'
  | c => c

/-! ## Quoted texts and comments -/

/-- The content of a quoted text up to its closing quote, and the rest. A doubled quote stands for
itself, and so does a character after a backslash where backslashes escape. -/
def takeQuoted? (quote : Char) (escapes : Bool) : List Char → Option (List Char × List Char)
  | [] => none
  | [c] => if c = quote then some ([], []) else none
  | c :: d :: rest =>
    if c = quote then
      if d = quote then (takeQuoted? quote escapes rest).map fun (s, r) => (c :: s, r)
      else some ([], d :: rest)
    else if escapes && c == '\\' then
      (takeQuoted? quote escapes rest).map fun (s, r) => (escaped d :: s, r)
    else (takeQuoted? quote escapes (d :: rest)).map fun (s, r) => (c :: s, r)

/-- What follows a comment of the given depth; comments nest. -/
def afterComment? : Nat → Char → List Char → Option (List Char)
  | _, _, [] => none
  | depth, last, c :: rest =>
    if last = '/' ∧ c = '*' then afterComment? (depth + 1) c rest
    else if last = '*' ∧ c = '/' then
      if depth ≤ 1 then some rest else afterComment? (depth - 1) c rest
    else afterComment? depth c rest

/-! ## Numbers -/

/-- An exponent at the head of a text: its characters and the rest. -/
def takeExponent (text : List Char) : List Char × List Char :=
  match text with
  | e :: rest =>
    if e = 'e' ∨ e = 'E' then
      let (sign, digits) := match rest with
        | '+' :: r => (['+'], r)
        | '-' :: r => (['-'], r)
        | r => ([], r)
      if digits.head?.any Char.isDigit then
        (e :: sign ++ digits.takeWhile Char.isDigit, digits.dropWhile Char.isDigit)
      else ([], text)
    else ([], text)
  | [] => ([], [])

/-- The text starts like an exponent, whether or not digits follow. -/
def startsExponent (text : List Char) : Bool := text.head?.any fun c => c == 'e' || c == 'E'

/-- Digits with the point and the digits that may follow them, and the rest. -/
def takeFraction (whole rest : List Char) : List Char × List Char :=
  match rest with
  | '.' :: r => (whole ++ '.' :: r.takeWhile Char.isDigit, r.dropWhile Char.isDigit)
  | r => (whole, r)

/-- A number, a lone point, or a name that starts with digits. -/
def takeNumber (text : List Char) : Token × List Char :=
  let whole := text.takeWhile Char.isDigit
  let rest := text.dropWhile Char.isDigit
  match whole, rest with
  | ['0'], 'x' :: rest =>
    (.tagged 'X' (String.ofList (rest.takeWhile isHexDigit)), rest.dropWhile isHexDigit)
  | _, _ =>
    let (mantissa, rest) := takeFraction whole rest
    if mantissa = ['.'] then (.symbol ".", rest)
    else
      let (exponent, afterExponent) := takeExponent rest
      let tail := if startsExponent rest then [] else rest.takeWhile continuesName
      if tail.isEmpty then
        let digits := String.ofList (mantissa ++ exponent)
        match afterExponent with
        | 'L' :: r => (.number digits true, r)
        | r => (.number digits false, r)
      else (.word ⟨String.ofList (mantissa ++ tail), none⟩, rest.dropWhile continuesName)

/-! ## Symbols -/

/-- The symbols of more than one character with the spelling they are known by, longer ones
before their beginnings. -/
def longSymbols : List (String × String) :=
  [("<=>", "<=>"), ("->>", "->>"), ("||/", "||/"), ("#>>", "#>>"), ("!~~*", "!~~*"),
    ("!~~", "!~~"), ("!~*", "!~*"), ("~~*", "~~*"), ("==", "=="), ("=>", "=>"), ("!=", "<>"),
    ("<>", "<>"), ("<=", "<="), ("<<", "<<"), ("<@", "<@"), (">=", ">="), (">>", ">>"),
    ("||", "||"), ("|/", "|/"), ("&&", "&&"), ("->", "->"), ("!~", "!~"), ("!!", "!!"),
    ("~*", "~*"), ("~~", "~~"), ("::", "::"), (":=", ":="), ("^@", "^@"), ("#-", "#-"),
    ("#>", "#>"), ("@>", "@>"), ("@?", "@?")]

/-- The longest symbol at the head of a text that does not start otherwise. -/
def takeSymbol (c : Char) (rest : List Char) : Token × List Char :=
  let long? := longSymbols.findSome? fun (spelling, symbol) =>
    (Text.after? spelling.toList (c :: rest)).map fun r => (Token.symbol symbol, r)
  long?.getD (.symbol (String.ofList [c]), rest)

/-! ## Tokens -/

/-- A name that starts with the given characters. -/
def takeName (start rest : List Char) : Token × List Char :=
  (.word ⟨String.ofList (start ++ rest.takeWhile continuesName), none⟩,
    rest.dropWhile continuesName)

/-- An `@` takes the character after it into a name, whatever it is, unless it is an operator. -/
def takeAt (rest : List Char) : Token × List Char :=
  match rest with
  | [] => (.symbol "@", [])
  | '>' :: _ | '?' :: _ => takeSymbol '@' rest
  | ' ' :: _ => (.symbol "@", rest)
  | '@' :: [] => (.symbol "@@", [])
  | '@' :: ' ' :: r => (.symbol "@@", ' ' :: r)
  | '@' :: c :: r => takeName ['@', '@', c] r
  | c :: r => takeName ['@', c] r

/-- The letters that introduce a text in single quotes. -/
def tags : List Char := ['N', 'E', 'X']

/-- The text that a letter introduces, after its opening quote. -/
def takeTagged? (tag : Char) (text : List Char) : Option (Token × List Char) :=
  (if tag = 'E' then takeEscaped? text else takeQuoted? '\'' true text).map fun (s, r) =>
    (.tagged tag (String.ofList s), r)

/-- A token that starts with a character other than a blank; comments give no token. -/
def takeToken? (c : Char) (rest : List Char) : Option (Option Token × List Char) :=
  let single := fun (token, r) => (some token, r)
  if c == '\'' || c == '"' then
    (takeQuoted? c true rest).map fun (s, r) => (some (.string c (String.ofList s)), r)
  else if c == '`' then
    (takeQuoted? c false rest).map fun (s, r) => (some (.word ⟨String.ofList s, some c⟩), r)
  else if c.isDigit || c == '.' then some (single (takeNumber (c :: rest)))
  else if c == '-' && rest.head? == some '-' then
    some (none, (rest.dropWhile (· != '\n')).drop 1)
  else if c == '/' && rest.head? == some '*' then
    (afterComment? 1 ' ' (rest.drop 1)).map fun r => (none, r)
  else if c == '?' then
    some (some (.placeholder (String.ofList (c :: rest.takeWhile Text.isNumeric))),
      rest.dropWhile Text.isNumeric)
  else if c == '@' then some (single (takeAt rest))
  else if startsName c then
    match rest with
    | '\'' :: text =>
      if tags.contains c.toUpper then (takeTagged? c.toUpper text).map single
      else some (single (takeName [c] rest))
    | _ => some (single (takeName [c] rest))
  else some (single (takeSymbol c rest))

/-- Takes one token, blank or comment off a text. -/
def step? (c : Char) (rest : List Char) : Option (Option Token × List Char) :=
  if isGap c then some (none, rest) else takeToken? c rest

/-- The tokens of a text of at most `fuel` characters. -/
def tokensWithin? : Nat → List Char → Option (List Token)
  | _, [] => some []
  | 0, _ :: _ => none
  | fuel + 1, c :: rest => do
    let (token?, remaining) ← step? c rest
    let others ← tokensWithin? fuel remaining
    return token?.toList ++ others

def tokens? (text : String) : Option (List Token) :=
  tokensWithin? text.toList.length text.toList

end QueryShapes.Sql
