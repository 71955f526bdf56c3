import LineShell.Text.Identifier

/-! # Lexemes of an expression

A host may name a type by a text that is an expression of its language. Such a text is cut into
names, keywords, numbers, texts in quotes and marks; blanks and comments fall away. The end of a
line counts outside of brackets only. What stands inside a text in quotes is not looked at, but for
its end and, in a text of bytes, its characters.
-/
namespace LineShell.Expression

inductive Lexeme where
  | name (s : String)
  | keyword (s : String)
  | number
  /-- A text in quotes, of characters or of bytes. -/
  | quoted (isBytes : Bool)
  | mark (s : String)
  | lineEnd
deriving DecidableEq

def keywords : List String :=
  ["False", "None", "True", "and", "as", "assert", "async", "await", "break", "class", "continue",
   "def", "del", "elif", "else", "except", "finally", "for", "from", "global", "if", "import", "in",
   "is", "lambda", "nonlocal", "not", "or", "pass", "raise", "return", "try", "while", "with",
   "yield"]

/-- The marks, the longer ones first. -/
def marks : List String :=
  ["...", "**=", "//=", "<<=", ">>=", "**", "//", "<<", ">>", "<=", ">=", "==", "!=", ":=", "->",
   "+=", "-=", "*=", "/=", "%=", "&=", "|=", "^=", "@=", "+", "-", "*", "/", "%", "@", "&", "|",
   "^", "~", "<", ">", "(", ")", "[", "]", "\x7b", "\x7d", ",", ":", ".", ";", "="]

def quotePrefixes : List String := ["", "r", "b", "u", "f", "rb", "br", "fr", "rf"]

/-- Words that may follow a number without a blank. -/
def wordsAfterNumber : List String := ["and", "else", "for", "if", "in", "is", "not", "or"]

def isGap (c : Char) : Bool := c = ' ' || c = '\t' || c.toNat = 12

def isLineBreak (c : Char) : Bool := c = '\n' || c = '\r'

/-- A character that names are made of, or that cannot stand anywhere. -/
def isWordCharacter (c : Char) : Bool := c.isAlphanum || c = '_' || 0x80 ≤ c.toNat

/-- The rest after digits, between which single underscores may stand. -/
def digits? (isDigit : Char → Bool) : (seen : Bool) → List Char → Option (List Char)
  | seen, [] => if seen then some [] else none
  | seen, c :: rest =>
    if isDigit c then digits? isDigit true rest
    else if seen then if c = '_' then digits? isDigit false rest else some (c :: rest)
    else none

def isHexDigit (c : Char) : Bool :=
  c.isDigit || ('a' ≤ c && c ≤ 'f') || ('A' ≤ c && c ≤ 'F')

/-- Digits of another base; one underscore may stand before them. -/
def based? (isDigit : Char → Bool) : List Char → Option (List Char)
  | '_' :: rest => digits? isDigit false rest
  | rest => digits? isDigit false rest

def afterExponent? (cs : List Char) : Option (List Char) :=
  match cs with
  | c :: rest =>
    if c = 'e' || c = 'E' then
      match rest with
      | s :: d :: _ =>
        if s.isDigit then digits? Char.isDigit false rest
        else if (s = '+' || s = '-') && d.isDigit then digits? Char.isDigit false (rest.drop 1)
        else some cs
      | [d] => if d.isDigit then some [] else some cs
      | [] => some cs
    else some cs
  | [] => some []

/-- A number with a point, an exponent or an imaginary mark after its whole part. A number without
them does not start with a zero, unless it is zero. -/
def decimal? (cs : List Char) : Option (List Char) := do
  let point := cs.head? = some '.'
  let whole ← if point then some cs else digits? Char.isDigit false cs
  let rest ← match whole with
    | '.' :: d :: rest =>
      if d.isDigit then digits? Char.isDigit false (d :: rest) else some (d :: rest)
    | rest => some (if rest.head? = some '.' then rest.drop 1 else rest)
  let rest ← afterExponent? rest
  let rest := match rest with
    | c :: more => if c = 'j' || c = 'J' then more else rest
    | [] => []
  let zeros := (cs.take (cs.length - whole.length)).filter (· ≠ '_')
  if rest.length = whole.length && zeros.head? = some '0' && zeros.any (· ≠ '0') then none
  else some rest

/-- What follows a number, which no word may touch but a few. -/
def number? (cs : List Char) : Option (List Char) := do
  let rest ← match cs with
    | '0' :: c :: more =>
      if c = 'x' || c = 'X' then based? isHexDigit more
      else if c = 'o' || c = 'O' then based? (fun d => '0' ≤ d && d ≤ '7') more
      else if c = 'b' || c = 'B' then based? (fun d => d = '0' || d = '1') more
      else decimal? cs
    | _ => decimal? cs
  let touching := match rest with
    | c :: _ => isWordCharacter c && !wordsAfterNumber.any fun w => w.toList.isPrefixOf rest
    | [] => false
  if touching then none else some rest

/-- What is inside quotes, and what follows them. A backslash takes the next character with it. -/
def body? (quotes : List Char) : (escaped : Bool) → List Char → Option (List Char × List Char)
  | _, [] => none
  | true, c :: rest => (body? quotes false rest).map fun (inside, after) => (c :: inside, after)
  | false, c :: rest =>
    if quotes.isPrefixOf (c :: rest) then some ([], (c :: rest).drop quotes.length)
    else if isLineBreak c && quotes.length = 1 then none
    else (body? quotes (c = '\\') rest).map fun (inside, after) => (c :: inside, after)

def quoted? (letters : String) : List Char → Option (Lexeme × List Char)
  | [] => none
  | q :: rest => do
    let quotes := if [q, q].isPrefixOf rest then [q, q, q] else [q]
    let (inside, after) ← body? quotes false ((q :: rest).drop quotes.length)
    let isBytes := letters.contains 'b'
    if isBytes && inside.any (0x80 ≤ ·.toNat) then none else some (.quoted isBytes, after)

def isQuote (c : Char) : Bool := c = '"' || c.toNat = 39

def next? (cs : List Char) : Option (Lexeme × List Char) :=
  let (word, rest) := cs.span isWordCharacter
  let letters := String.ofList (word.map Char.toLower)
  if (rest.head?.map isQuote).getD false && quotePrefixes.contains letters then quoted? letters rest
  else if (cs.head?.map Char.isDigit).getD false
      || (cs.head? = some '.' && ((cs.drop 1).head?.map Char.isDigit).getD false) then
    (number? cs).map (.number, ·)
  else if word ≠ [] then
    let s := String.ofList word
    if keywords.contains s then some (.keyword s, rest)
    else if Text.isIdentifier word then some (.name s, rest)
    else none
  else (marks.find? fun m => m.toList.isPrefixOf cs).map fun m => (.mark m, cs.drop m.length)

def nesting (depth : Nat) : Lexeme → Nat
  | .mark s =>
    if ["(", "[", "\x7b"].contains s then depth + 1
    else if [")", "]", "\x7d"].contains s then depth - 1
    else depth
  | _ => depth

/-- The lexemes of a text, at most `fuel` steps of it, or nothing if some part is none. -/
def lexemes? : (fuel depth : Nat) → List Char → Option (List Lexeme)
  | _, _, [] => some []
  | 0, _, _ => none
  | fuel + 1, depth, c :: rest =>
    if isGap c then lexemes? fuel depth rest
    else if c = '#' then lexemes? fuel depth (rest.dropWhile fun d => !isLineBreak d)
    else if isLineBreak c then
      (lexemes? fuel depth rest).map fun after => if depth = 0 then .lineEnd :: after else after
    else if c = '\\' then
      match rest with
      | '\r' :: '\n' :: after | '\n' :: after | '\r' :: after =>
        if after = [] then none else lexemes? fuel depth after
      | _ => none
    else do
      let (lexeme, after) ← next? (c :: rest)
      return lexeme :: (← lexemes? fuel (nesting depth lexeme) after)

/-- The text from its first lexeme on, if no blanks stand before that on its line. -/
def unindented? : (fuel : Nat) → List Char → Option (List Char)
  | 0, _ => none
  | fuel + 1, cs =>
    let (gap, rest) := cs.span isGap
    match rest with
    | [] => none
    | c :: more =>
      if c = '#' then unindented? fuel (more.dropWhile fun d => !isLineBreak d)
      else if isLineBreak c then unindented? fuel more
      else if gap.reverse.takeWhile (·.toNat ≠ 12) = [] then some rest
      else none

def endsIndented (cs : List Char) : Bool :=
  let gap := cs.reverse.takeWhile isGap
  gap.takeWhile (·.toNat ≠ 12) ≠ [] &&
    ((cs.reverse.drop gap.length).head?.map isLineBreak).getD false

/-- The lexemes of an expression; line ends after it fall away. -/
def ofText? (cs : List Char) : Option (List Lexeme) := do
  if endsIndented cs then none
  let cs ← unindented? (cs.length + 1) cs
  let all ← lexemes? (cs.length + 1) 0 cs
  return (all.reverse.dropWhile (· = .lineEnd)).reverse

end LineShell.Expression
