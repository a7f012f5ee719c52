import QueryShapes.Reading

/-!
# Texts and keys in TOML

- `text`: a text in one or three quotes of either kind.
- `keyPath`: keys with dots between them.
-/

namespace QueryShapes.Toml

open Reading

abbrev Rule := Reading Char

def char (c : Char) : Rule Bool := takeIf (· == c)

def requireChar (c : Char) : Rule Unit := require (char c)

def isSpace (c : Char) : Bool := c == ' ' || c == '\t'

def spaces : Rule Unit := do
  let _ ← takeWhile isSpace

/-- What may stand in a comment or between single quotes, other than the quote. -/
def isPlain (c : Char) : Bool := c == '\t' || (' ' ≤ c && c != '\x7f')

/-- Takes a text if it stands ahead. -/
def word (text : String) : Rule Bool where
  run? input :=
    if text.toList.isPrefixOf input then some (true, input.drop text.toList.length)
    else some (false, input)
  leaves_suffix {input _ _} h := by
    split at h <;> cases h
    · exact List.drop_suffix _ input
    · exact List.suffix_refl input

/-- Takes the end of a line. -/
def newline : Rule Bool := do
  if ← word "\r\n" then return true else word "\n"

/-! ## Escapes -/

def escapes : List (Char × Char) :=
  [('b', '\x08'), ('t', '\t'), ('n', '\n'), ('f', '\x0c'), ('r', '\r'), ('"', '"'), ('\\', '\\')]

def hexDigit? (c : Char) : Option Nat :=
  if c.isDigit then some (c.toNat - '0'.toNat)
  else if 'a' ≤ c ∧ c ≤ 'f' then some (c.toNat - 'a'.toNat + 10)
  else if 'A' ≤ c ∧ c ≤ 'F' then some (c.toNat - 'A'.toNat + 10)
  else none

/-- The character of a code point in hexadecimal. -/
def codePoint? (digits : List Char) : Option Char := do
  let n ← digits.foldlM (fun n c => (hexDigit? c).map (16 * n + ·)) 0
  if n < 0xD800 ∨ (0xDFFF < n ∧ n < 0x110000) then some (Char.ofNat n) else none

/-! ## Texts on one line -/

/-- A text in double quotes after the first of them. -/
def basicRest? : List Char → Option (List Char × List Char)
  | [] => none
  | '"' :: rest => some ([], rest)
  | '\\' :: 'u' :: a :: b :: c :: d :: rest => do
    let first ← codePoint? [a, b, c, d]
    let (text, rest) ← basicRest? rest
    return (first :: text, rest)
  | '\\' :: 'U' :: a :: b :: c :: d :: e :: f :: g :: h :: rest => do
    let first ← codePoint? [a, b, c, d, e, f, g, h]
    let (text, rest) ← basicRest? rest
    return (first :: text, rest)
  | '\\' :: c :: rest => do
    let first ← escapes.lookup c
    let (text, rest) ← basicRest? rest
    return (first :: text, rest)
  | c :: rest => do
    if !isPlain c then none
    let (text, rest) ← basicRest? rest
    return (c :: text, rest)

theorem basicRest?_suffix {input text rest : List Char}
    (h : basicRest? input = some (text, rest)) : rest <:+ input := by
  fun_induction basicRest? input generalizing text rest with
  | case1 => cases h
  | case2 =>
    cases h
    exact List.suffix_cons _ _
  | case3 a b c d more ih =>
    obtain ⟨_, _, h⟩ := Option.bind_eq_some_iff.mp h
    obtain ⟨_, read, ⟨⟩⟩ := Option.bind_eq_some_iff.mp h
    exact (ih read).trans ⟨['\\', 'u', a, b, c, d], rfl⟩
  | case4 a b c d e f g i more ih =>
    obtain ⟨_, _, h⟩ := Option.bind_eq_some_iff.mp h
    obtain ⟨_, read, ⟨⟩⟩ := Option.bind_eq_some_iff.mp h
    exact (ih read).trans ⟨['\\', 'U', a, b, c, d, e, f, g, i], rfl⟩
  | case5 c more _ _ ih =>
    obtain ⟨_, _, h⟩ := Option.bind_eq_some_iff.mp h
    obtain ⟨_, read, ⟨⟩⟩ := Option.bind_eq_some_iff.mp h
    exact (ih read).trans ⟨['\\', c], rfl⟩
  | case6 => cases h
  | case7 =>
    rename_i ih
    obtain ⟨_, read, ⟨⟩⟩ := Option.bind_eq_some_iff.mp h
    exact (ih read).trans (List.suffix_cons _ _)

/-- What follows the first double quote. -/
def basicRest : Rule (List Char) := ⟨basicRest?, basicRest?_suffix⟩

/-- A text in single quotes after the first of them. -/
def literalRest : Rule (List Char) := do
  let text ← takeWhile fun c => isPlain c && c != '\''
  requireChar '\''
  return text

/-! ## Texts on several lines -/

/-- What three quotes start within a text on several lines: its end, before which one or two more
quotes may stand. -/
def closing? (quote : Char) (rest : List Char) : Option (List Char × List Char) :=
  let more := rest.takeWhile (· == quote)
  if more.length ≤ 2 then some (more, rest.drop more.length) else none

theorem closing?_suffix {quote : Char} {input text rest : List Char}
    (h : closing? quote input = some (text, rest)) : rest <:+ input := by
  unfold closing? at h
  dsimp only at h
  split at h <;> cases h
  exact List.drop_suffix _ input

/-- The end of a line is ahead, perhaps after blanks. -/
def endsLine (text : List Char) : Bool :=
  match text.dropWhile isSpace with
  | '\n' :: _ | '\r' :: '\n' :: _ => true
  | _ => false

/-- A text in three double quotes after the first of them. A backslash at the end of a line takes
away all blanks and line ends that follow, which is what `skipping` stands for. -/
def longBasicRest? : (skipping : Bool) → List Char → Option (List Char × List Char)
  | _, [] => none
  | _, '"' :: '"' :: '"' :: rest => closing? '"' rest
  | skipping, '\r' :: '\n' :: rest => do
    let (text, rest) ← longBasicRest? skipping rest
    return (if skipping then text else '\n' :: text, rest)
  | skipping, '\n' :: rest => do
    let (text, rest) ← longBasicRest? skipping rest
    return (if skipping then text else '\n' :: text, rest)
  | _, '\\' :: 'u' :: a :: b :: c :: d :: rest => do
    let first ← codePoint? [a, b, c, d]
    let (text, rest) ← longBasicRest? false rest
    return (first :: text, rest)
  | _, '\\' :: 'U' :: a :: b :: c :: d :: e :: f :: g :: h :: rest => do
    let first ← codePoint? [a, b, c, d, e, f, g, h]
    let (text, rest) ← longBasicRest? false rest
    return (first :: text, rest)
  | _, '\\' :: c :: rest => do
    if endsLine (c :: rest) then longBasicRest? true (c :: rest)
    else
      let first ← escapes.lookup c
      let (text, rest) ← longBasicRest? false rest
      return (first :: text, rest)
  | skipping, c :: rest => do
    if !isPlain c then none
    let blank := skipping && isSpace c
    let (text, rest) ← longBasicRest? blank rest
    return (if blank then text else c :: text, rest)

theorem longBasicRest?_suffix {skipping : Bool} {input text rest : List Char}
    (h : longBasicRest? skipping input = some (text, rest)) : rest <:+ input := by
  fun_induction longBasicRest? skipping input generalizing text rest with
  | case1 => cases h
  | case2 _ more => exact (closing?_suffix h).trans ⟨['"', '"', '"'], rfl⟩
  | case3 skipping more ih =>
    obtain ⟨_, read, ⟨⟩⟩ := Option.bind_eq_some_iff.mp h
    exact (ih read).trans ⟨['\r', '\n'], rfl⟩
  | case4 skipping more ih =>
    obtain ⟨_, read, ⟨⟩⟩ := Option.bind_eq_some_iff.mp h
    exact (ih read).trans (List.suffix_cons _ _)
  | case5 _ a b c d more ih =>
    obtain ⟨_, _, h⟩ := Option.bind_eq_some_iff.mp h
    obtain ⟨_, read, ⟨⟩⟩ := Option.bind_eq_some_iff.mp h
    exact (ih read).trans ⟨['\\', 'u', a, b, c, d], rfl⟩
  | case6 _ a b c d e f g i more ih =>
    obtain ⟨_, _, h⟩ := Option.bind_eq_some_iff.mp h
    obtain ⟨_, read, ⟨⟩⟩ := Option.bind_eq_some_iff.mp h
    exact (ih read).trans ⟨['\\', 'U', a, b, c, d, e, f, g, i], rfl⟩
  | case7 =>
    rename_i ih
    exact (ih h).trans (List.suffix_cons _ _)
  | case8 =>
    rename_i ih
    obtain ⟨_, _, h⟩ := Option.bind_eq_some_iff.mp h
    obtain ⟨_, read, ⟨⟩⟩ := Option.bind_eq_some_iff.mp h
    exact (ih read).trans ⟨['\\', _], rfl⟩
  | case9 => cases h
  | case10 =>
    rename_i ih
    obtain ⟨_, read, ⟨⟩⟩ := Option.bind_eq_some_iff.mp h
    exact (ih read).trans (List.suffix_cons _ _)

/-- A text in three single quotes after the first of them. -/
def longLiteralRest? : List Char → Option (List Char × List Char)
  | [] => none
  | '\'' :: '\'' :: '\'' :: rest => closing? '\'' rest
  | '\r' :: '\n' :: rest | '\n' :: rest => do
    let (text, rest) ← longLiteralRest? rest
    return ('\n' :: text, rest)
  | c :: rest => do
    if !isPlain c then none
    let (text, rest) ← longLiteralRest? rest
    return (c :: text, rest)

theorem longLiteralRest?_suffix {input text rest : List Char}
    (h : longLiteralRest? input = some (text, rest)) : rest <:+ input := by
  fun_induction longLiteralRest? input generalizing text rest with
  | case1 => cases h
  | case2 more => exact (closing?_suffix h).trans ⟨['\'', '\'', '\''], rfl⟩
  | case3 more ih =>
    obtain ⟨_, read, ⟨⟩⟩ := Option.bind_eq_some_iff.mp h
    exact (ih read).trans ⟨['\r', '\n'], rfl⟩
  | case4 more ih =>
    obtain ⟨_, read, ⟨⟩⟩ := Option.bind_eq_some_iff.mp h
    exact (ih read).trans (List.suffix_cons _ _)
  | case5 => cases h
  | case6 =>
    rename_i ih
    obtain ⟨_, read, ⟨⟩⟩ := Option.bind_eq_some_iff.mp h
    exact (ih read).trans (List.suffix_cons _ _)

/-- A text in quotes. The end of a line right after three quotes does not belong to it. -/
def text : Rule (List Char) := do
  if ← word "\"\"\"" then
    let _ ← newline
    ⟨longBasicRest? false, longBasicRest?_suffix⟩
  else if ← word "'''" then
    let _ ← newline
    ⟨longLiteralRest?, longLiteralRest?_suffix⟩
  else if ← char '"' then basicRest
  else
    requireChar '\''
    literalRest

/-! ## Keys -/

def isKeyChar (c : Char) : Bool := c.isAlphanum || c == '_' || c == '-'

def key : Rule String := do
  if ← char '"' then return String.ofList (← basicRest)
  else if ← char '\'' then return String.ofList (← literalRest)
  else
    let bare ← takeWhile isKeyChar
    if bare.isEmpty then refuse else return String.ofList bare

/-- How deep keys and values may lie inside each other. -/
def depthLimit : Nat := 80

def keyPath : Rule (List String) := do
  let dot : Rule Bool := do
    spaces
    let more ← char '.'
    spaces
    return more
  let path ← separated dot key
  if path.length < depthLimit then return path else refuse

end QueryShapes.Toml
