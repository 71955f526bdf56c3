import LineShell.Expression.Lexeme

/-! # The grammar of expressions

Which lists of lexemes are expressions. A rule is tried at the start of a list and gives what
follows the part that it accepts; no rule looks back. Precedence among the operators of one kind
does not matter here, so there is one rule for each kind. Waiting has no place in an expression,
yielding only inside a function, and naming a value none where a generator takes its items from.
-/
namespace LineShell.Expression

inductive ArgumentStage where
  | first
  | positional
  | keyword
  | doubled
deriving DecidableEq

structure ParameterStage where
  names : List String := []
  /-- A parameter with a default was given, and so must those after it. -/
  defaulted : Bool := false
  /-- A slash may stand next. -/
  slash : Bool := false
  slashed : Bool := false
  /-- A star was given; names after it are keywords. -/
  starred : Bool := false
  /-- The star stood alone, and a name has to follow. -/
  lacking : Bool := false
  /-- Nothing may follow. -/
  ended : Bool := false

structure Place where
  inFunction : Bool := false
  /-- Where a generator takes its items from. -/
  inSupply : Bool := false

inductive Rule where
  /-- Expressions with commas between them. -/
  | listing
  | expression
  /-- An expression, or a name that it is given. -/
  | named
  | function (stage : ParameterStage)
  | disjunction
  | inversion
  | comparison
  | arithmetic
  | signed
  | primary
  | trailers
  /-- The arguments of a call, some names having been given. -/
  | arguments (stage : ArgumentStage) (names : List String)
  | slices
  /-- What follows the first item between brackets, up to the closing mark. -/
  | items (closing : String)
  /-- What follows the first entry of a dictionary. -/
  | entries
  | generators
  | conditions
  | targets
  | target
  | atom

def mark? (s : String) : List Lexeme → Option (List Lexeme)
  | .mark t :: rest => if s = t then some rest else none
  | _ => none

def keyword? (s : String) : List Lexeme → Option (List Lexeme)
  | .keyword t :: rest => if s = t then some rest else none
  | _ => none

def operator? : List Lexeme → Option (List Lexeme)
  | .mark s :: rest =>
    if ["|", "^", "&", "<<", ">>", "+", "-", "*", "/", "//", "%", "@", "**"].contains s then
      some rest
    else none
  | _ => none

def relation? : List Lexeme → Option (List Lexeme)
  | .keyword "not" :: .keyword "in" :: rest => some rest
  | .keyword "is" :: .keyword "not" :: rest => some rest
  | .keyword "in" :: rest => some rest
  | .keyword "is" :: rest => some rest
  | .mark s :: rest => if ["==", "!=", "<", "<=", ">", ">="].contains s then some rest else none
  | _ => none

def quotedRun (isBytes : Bool) : List Lexeme → Option (List Lexeme)
  | .quoted b :: rest => if b = isBytes then quotedRun isBytes rest else none
  | rest => some rest

/-- What may be given a value: a name, an attribute or an item, by the last lexeme. -/
def isAssignable (lexemes rest : List Lexeme) : Bool :=
  match (lexemes.take (lexemes.length - rest.length)).getLast? with
  | some (.name _) => true
  | some (.mark "]") => true
  | _ => false

/-- The stage after a name, which is given once only. -/
def ParameterStage.add? (stage : ParameterStage) (name : String) : Option ParameterStage :=
  if stage.names.contains name then none
  else some { stage with names := name :: stage.names, lacking := false, slash := !stage.starred }

/-- The stage after a parameter, whether a default follows, and what follows its name, star or
slash, if it may stand. -/
def parameter? (stage : ParameterStage) : List Lexeme → Option (ParameterStage × Bool × List Lexeme)
  | .mark "/" :: rest =>
    if stage.slash && !stage.slashed then some ({ stage with slashed := true }, false, rest)
    else none
  | .mark "*" :: .name s :: rest =>
    if stage.starred then none
    else ({ stage with starred := true }.add? s).map (·, false, rest)
  | .mark "*" :: rest =>
    if stage.starred then none
    else some ({ stage with starred := true, lacking := true, slash := false }, false, rest)
  | .mark "**" :: .name s :: rest =>
    if stage.lacking then none
    else ({ stage with ended := true }.add? s).map (·, false, rest)
  | .name s :: .mark "=" :: rest =>
    ({ stage with defaulted := stage.defaulted || !stage.starred }.add? s).map (·, true, rest)
  | .name s :: rest =>
    if stage.defaulted && !stage.starred then none else (stage.add? s).map (·, false, rest)
  | _ => none

/-- What follows the part that a rule accepts; `fuel` bounds the depth. -/
def accept? : (fuel : Nat) → Place → Rule → List Lexeme → Option (List Lexeme)
  | 0, _, _, _ => none
  | fuel + 1, place, rule, ls =>
    let go := accept? fuel place
    match rule with
    | .listing => do
      let rest ← go .expression ls
      match mark? "," rest with
      | some after => if after = [] then some [] else go .listing after
      | none => some rest
    | .expression => match ls with
      | .keyword "lambda" :: rest => go (.function {}) rest
      | _ => do
        let rest ← go .disjunction ls
        match keyword? "if" rest with
        | some rest => do
          let rest ← go .disjunction rest
          go .expression (← keyword? "else" rest)
        | none => some rest
    | .named => match ls with
      | .name _ :: .mark ":=" :: rest => if place.inSupply then none else go .expression rest
      | _ => go .expression ls
    | .function stage => match ls with
      | .mark ":" :: rest =>
        if stage.lacking then none
        else accept? fuel { place with inFunction := true } .expression rest
      | _ =>
        if stage.ended then none
        else do
          let (stage, hasDefault, rest) ← parameter? stage ls
          let rest ← if hasDefault then go .expression rest else some rest
          match rest with
          | .mark "," :: rest => go (.function stage) rest
          | .mark ":" :: _ => go (.function stage) rest
          | _ => none
    | .disjunction => do
      let rest ← go .inversion ls
      match rest with
      | .keyword "or" :: rest => go .disjunction rest
      | .keyword "and" :: rest => go .disjunction rest
      | _ => some rest
    | .inversion => match ls with
      | .keyword "not" :: rest => go .inversion rest
      | _ => go .comparison ls
    | .comparison => do
      let rest ← go .arithmetic ls
      match relation? rest with
      | some rest => go .comparison rest
      | none => some rest
    | .arithmetic => do
      let rest ← go .signed ls
      match operator? rest with
      | some rest => go .arithmetic rest
      | none => some rest
    | .signed => match ls with
      | .mark "+" :: rest => go .signed rest
      | .mark "-" :: rest => go .signed rest
      | .mark "~" :: rest => go .signed rest
      | _ => go .primary ls
    | .primary => do go .trailers (← go .atom ls)
    | .trailers => match ls with
      | .mark "." :: .name _ :: rest => go .trailers rest
      | .mark "(" :: rest => do go .trailers (← go (.arguments .first []) rest)
      | .mark "[" :: rest => do go .trailers (← go .slices rest)
      | rest => some rest
    | .arguments stage names =>
      let further (stage : ArgumentStage) (names : List String) (rest : List Lexeme) :
          Option (List Lexeme) :=
        match rest with
        | .mark ")" :: rest => some rest
        | .mark "," :: rest => go (.arguments stage names) rest
        | _ => none
      match ls with
      | .mark ")" :: rest => some rest
      | .mark "*" :: rest => do
        let rest ← go .expression rest
        match stage with
        | .doubled => none
        | .keyword => further .keyword names rest
        | _ => further .positional names rest
      | .mark "**" :: rest => do further .doubled names (← go .expression rest)
      | .name s :: .mark "=" :: rest => do
        if names.contains s then none
        let rest ← go .expression rest
        further (if stage = .doubled then .doubled else .keyword) (s :: names) rest
      | _ => do
        if stage = .keyword || stage = .doubled then none
        let rest ← go .named ls
        match rest with
        | .keyword "for" :: _ =>
          if stage = .first then
            mark? ")" (← accept? fuel { place with inFunction := false } .generators rest)
          else none
        | _ => further .positional names rest
    | .slices => do
      let optional (rest : List Lexeme) : Option (List Lexeme) := match rest with
        | .mark ":" :: _ => some rest
        | .mark "," :: _ => some rest
        | .mark "]" :: _ => some rest
        | _ => go .expression rest
      let bounds (rest : List Lexeme) : Option (List Lexeme) := match rest with
        | .mark ":" :: rest => do
          let rest ← optional rest
          match rest with
          | .mark ":" :: rest => optional rest
          | _ => some rest
        | _ => some rest
      let rest ← match ls with
        | .mark "*" :: rest => go .expression rest
        | .mark ":" :: _ => bounds ls
        | _ => do bounds (← go .named ls)
      match rest with
      | .mark "]" :: rest => some rest
      | .mark "," :: .mark "]" :: rest => some rest
      | .mark "," :: rest => go .slices rest
      | _ => none
    | .items closing => match ls with
      | .mark "," :: rest => match mark? closing rest with
        | some rest => some rest
        | none => match rest with
          | .mark "*" :: rest => do go (.items closing) (← go .arithmetic rest)
          | _ => do go (.items closing) (← go .named rest)
      | _ => mark? closing ls
    | .entries => match ls with
      | .mark "," :: rest => match mark? "\x7d" rest with
        | some rest => some rest
        | none => match rest with
          | .mark "**" :: rest => do go .entries (← go .arithmetic rest)
          | _ => do
            let rest ← go .expression rest
            go .entries (← go .expression (← mark? ":" rest))
      | _ => mark? "\x7d" ls
    | .generators => do
      let rest ← go .targets (← keyword? "for" ls)
      let rest ← keyword? "in" rest
      let rest ← accept? fuel { place with inSupply := true } .disjunction rest
      let rest ← go .conditions rest
      match rest with
      | .keyword "for" :: _ => go .generators rest
      | _ => some rest
    | .conditions => match ls with
      | .keyword "if" :: rest => do go .conditions (← go .disjunction rest)
      | rest => some rest
    | .targets => do
      let rest ← go .target ls
      match rest with
      | .mark "," :: .keyword "in" :: _ => some (rest.drop 1)
      | .mark "," :: .mark ")" :: _ => some (rest.drop 1)
      | .mark "," :: .mark "]" :: _ => some (rest.drop 1)
      | .mark "," :: rest => go .targets rest
      | _ => some rest
    | .target => match ls with
      | .mark "*" :: rest => go .target rest
      | .mark "(" :: .mark ")" :: rest => some rest
      | .mark "[" :: .mark "]" :: rest => some rest
      | .mark "(" :: rest => do mark? ")" (← go .targets rest)
      | .mark "[" :: rest => do mark? "]" (← go .targets rest)
      | .name _ :: _ => do
        let rest ← go .primary ls
        if isAssignable ls rest then some rest else none
      | _ => none
    | .atom => match ls with
      | .name _ :: rest => some rest
      | .number :: rest => some rest
      | .quoted isBytes :: rest => quotedRun isBytes rest
      | .keyword "True" :: rest => some rest
      | .keyword "False" :: rest => some rest
      | .keyword "None" :: rest => some rest
      | .mark "..." :: rest => some rest
      | .mark "(" :: .mark ")" :: rest => some rest
      | .mark "[" :: .mark "]" :: rest => some rest
      | .mark "\x7b" :: .mark "\x7d" :: rest => some rest
      | .mark "(" :: .keyword "yield" :: rest =>
        if !place.inFunction then none
        else match rest with
          | .mark ")" :: rest => some rest
          | .keyword "from" :: rest => do mark? ")" (← go .expression rest)
          | .mark "*" :: rest => do go (.items ")") (← go .arithmetic rest)
          | _ => do go (.items ")") (← go .expression rest)
      | .mark "(" :: .mark "*" :: rest => do
        let rest ← go .arithmetic rest
        match rest with
        | .mark "," :: _ => go (.items ")") rest
        | _ => none
      | .mark "[" :: .mark "*" :: rest => do go (.items "]") (← go .arithmetic rest)
      | .mark "\x7b" :: .mark "*" :: rest => do go (.items "\x7d") (← go .arithmetic rest)
      | .mark "\x7b" :: .mark "**" :: rest => do go .entries (← go .arithmetic rest)
      | .mark opening :: rest =>
        let closing? := match opening with
          | "(" => some ")"
          | "[" => some "]"
          | "\x7b" => some "\x7d"
          | _ => none
        match closing? with
        | none => none
        | some closing => do
          let after ← go .named rest
          match after with
          | .keyword "for" :: _ =>
            mark? closing (← accept? fuel { place with inFunction := false } .generators after)
          | .mark ":" :: after =>
            if closing ≠ "\x7d" then none
            else do
              let after ← go .expression after
              match after with
              | .keyword "for" :: _ =>
                mark? closing (← accept? fuel { place with inFunction := false } .generators after)
              | _ => go .entries after
          | _ => go (.items closing) after
      | _ => none

/-- Enough for any list: no rule passes through twenty others without taking a lexeme. -/
def depthFor (ls : List Lexeme) : Nat := 20 * (ls.length + 1)

def isExpression (s : String) : Bool :=
  match ofText? s.toList with
  | some ls => ls ≠ [] && accept? (depthFor ls) {} .listing ls = some []
  | none => false

/-- The text names a type to be looked up later: an expression, or one that is unpacked. -/
def isForward (s : String) : Bool :=
  if s.toList.head? = some '*' then isExpression ("(" ++ s ++ ",)[0]") else isExpression s

end LineShell.Expression
