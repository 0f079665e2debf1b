import TypeSchema.Expression.Basic
import TypeSchema.Expression.Quotation
/-!
# Reading written expressions

`Expression.parse` reads the expression that a text spells, or says what is wrong with the text.

Each kind of expression has a reader, which takes the expression from the start of the tokens and
returns what follows it. The readers call each other with a budget that `parse` makes large enough
for every text: between two tokens that are read lie at most as many calls as there are kinds.

A reader that cannot go on blames the token it stopped at. A fault in the characters further on
counts before that, and some common slips have faults of their own.
-/

namespace TypeSchema.Expression.Read

/-- What a reader takes from the start of some tokens, and the tokens after it. -/
abbrev Taken (α : Type) := α × List Lexeme

/-- A fault of the order of tokens, unless there is a fault in the characters of those that
follow. -/
def refuse {α : Type} (fault : Fault) (ts : List Lexeme) : Except Fault α :=
  .error ((ts.findSome? fun t =>
    match t.token with
    | .broken f => if f.isLexical then some f else none
    | _ => none).getD fault)

/-- The fault of tokens that mean nothing where they stand. -/
def unexpected {α : Type} (ts : List Lexeme) : Except Fault α :=
  match ts with
  | ⟨.broken fault, _⟩ :: _ => .error fault
  | ⟨.indent, _⟩ :: _ => .error .indented
  | _ => refuse .invalid ts

/-- The tokens after an expected symbol. -/
def expect (sign : String) : List Lexeme → Except Fault (List Lexeme)
  | ⟨.symbol s, d⟩ :: ts => if s = sign then .ok ts else unexpected (⟨.symbol s, d⟩ :: ts)
  | ts => unexpected ts

/-- Whether tokens start with a symbol. -/
def startsWith (sign : String) : List Lexeme → Bool
  | ⟨.symbol s, _⟩ :: _ => s == sign
  | _ => false

/-- Whether tokens start with a keyword. -/
def startsWithWord (word : String) : List Lexeme → Bool
  | ⟨.keyword w, _⟩ :: _ => w == word
  | _ => false

/-- The number of brackets that are open before some tokens. -/
def depthOf (ts : List Lexeme) : Nat := (ts.head?.map Lexeme.depth).getD 0

/-- The operator between two operands that a symbol is. -/
def binaryOperator? (sign : String) : Option BinaryOperator :=
  BinaryOperator.all.find? fun op => op.sign == sign

/-- The comparison that some tokens start with. -/
def comparison? : List Lexeme → Option (Comparison × List Lexeme)
  | ⟨.symbol s, _⟩ :: ts =>
    match s with
    | "==" => some (.equal, ts) | "!=" => some (.notEqual, ts)
    | "<" => some (.less, ts) | "<=" => some (.lessOrEqual, ts)
    | ">" => some (.greater, ts) | ">=" => some (.greaterOrEqual, ts)
    | _ => none
  | ⟨.keyword "is", _⟩ :: ⟨.keyword "not", _⟩ :: ts => some (.notSame, ts)
  | ⟨.keyword "is", _⟩ :: ts => some (.same, ts)
  | ⟨.keyword "not", _⟩ :: ⟨.keyword "in", _⟩ :: ts => some (.notMember, ts)
  | ⟨.keyword "in", _⟩ :: ts => some (.member, ts)
  | _ => none

/-- What texts call an expression that stands where a name is needed. -/
def kindName : Expression → String
  | .name _ => "name"
  | .constant .ellipsis => "ellipsis"
  | .constant .none => "None"
  | .constant (.bool true) => "True"
  | .constant (.bool false) => "False"
  | .constant _ => "literal"
  | .attribute _ _ => "attribute"
  | .index _ _ => "subscript"
  | .call _ _ => "function call"
  | .group .tuple _ => "tuple"
  | .group .list _ => "list"
  | .group .set _ => "set display"
  | .group .dict _ => "dict literal"
  | .starred _ => "starred"
  | .conditional _ _ _ => "conditional expression"
  | .comparison _ _ => "comparison"
  | .lambda _ _ => "lambda"
  | .comprehension (some .list) _ _ => "list comprehension"
  | .comprehension (some .set) _ _ => "set comprehension"
  | .comprehension (some .dict) _ _ => "dict comprehension"
  | .comprehension _ _ _ => "generator expression"
  | .formatted _ => "f-string expression"
  | .binding _ _ => "named expression"
  | _ => "expression"

/-- Whether an expression can be bound to a value. -/
def isTarget : Expression → Bool
  | .name _ | .attribute _ _ | .index _ _ | .group .tuple _ | .group .list _ | .starred _ => true
  | _ => false

/-- Whether an equals sign after an expression is taken for a slip of its own. -/
def mayBeMeantAsName : Expression → Bool
  | .constant .none | .constant (.bool _) | .group .tuple _ | .group .list _
  | .comprehension none _ _ | .comprehension (some .list) _ _ | .lambda _ _ | .conditional _ _ _ | .all _ | .any _ | .unary .not _ | .comparison _ _ => false
  | _ => true

/-- Words that may start other kinds of statements when they stand before a name. -/
def softWords : List String := ["_", "case", "match"]

/-- Whether two expressions side by side are no forgotten comma, by the tokens of the first: a
word before a quote, or the start of a soft word. -/
def mayStandBefore : List Lexeme → Bool
  | ⟨.name n, _⟩ :: next =>
    (match next with
      | ⟨.text _ _, _⟩ :: _ => true
      | _ => false) || softWords.any fun w => n.toList.isPrefixOf w.toList
  | _ => false

/-- What follows an expression at once, if that starts an expression without a sign. -/
def startsAtom : List Lexeme → Bool
  | ⟨.name _, _⟩ :: _ | ⟨.number _, _⟩ :: _ | ⟨.text _ _, _⟩ :: _ => true
  | ⟨.keyword w, _⟩ :: _ => w == "True" || w == "False" || w == "None"
  | ts => startsWith "..." ts

/-- Parts of a text with those beside each other that are plain as one. -/
def mergedParts : List Expression → List Expression
  | [] => []
  | .constant (.string s) :: es =>
    match mergedParts es with
    | .constant (.string t) :: rest => .constant (.string (s ++ t)) :: rest
    | rest => if s = "" then rest else .constant (.string s) :: rest
  | e :: es => e :: mergedParts es

/-- The text that some parts make. -/
def textOf (parts : List Expression) : Expression :=
  match mergedParts parts with
  | [] => .constant (.string "")
  | [.constant (.string s)] => .constant (.string s)
  | parts => .formatted parts

/-- The quoted texts that some tokens start with. -/
def quotedParts : List Lexeme → List (QuoteMarks × List Char) × List Lexeme
  | ⟨.text marks body, _⟩ :: ts =>
    let (parts, rest) := quotedParts ts
    ((marks, body) :: parts, rest)
  | ts => ([], ts)

/-- Check the order of the arguments of a call. -/
def checkArguments : (afterKeyword afterUnpacking : Bool) → (names : List String) →
    List Expression → Option Fault
  | _, _, _, [] => none
  | _, u, names, .keyword n _ :: es =>
    if names.contains n then some (.repeatedKeyword n) else checkArguments true u (n :: names) es
  | k, _, names, .doubleStarred _ :: es => checkArguments k true names es
  | k, u, names, .starred _ :: es =>
    if u then some .starredAfterUnpacking else checkArguments k u names es
  | k, u, names, _ :: es =>
    if u then some .positionalAfterUnpacking
    else if k then some .positionalAfterKeyword
    else checkArguments k u names es

/-- Parameters in their kinds: those before a slash are given by position only, and those after a star
by name only. -/
def settled (list : List Expression) : List Expression :=
  let isSign (kind : ParameterKind) : Expression → Bool
    | .parameter k n _ => k == kind && n == ""
    | _ => false
  let isStar : Expression → Bool
    | .parameter .named "" _ | .parameter .others _ _ => true
    | _ => false
  let change (kind : ParameterKind) : Expression → Expression
    | .parameter .ordinary n default => .parameter kind n default
    | e => e
  let (before, after) := if list.any (isSign .positional) then
      (list.takeWhile (!isSign .positional ·), (list.dropWhile (!isSign .positional ·)).drop 1)
    else ([], list)
  let plain := after.takeWhile (!isStar ·)
  let rest := after.dropWhile (!isStar ·)
  (before.map (change .positional)) ++ plain ++
    (rest.filter (!isSign .named ·)).map (change .named)

mutual

/-- A whole expression. -/
def expression : (budget : Nat) → List Lexeme → Except Fault (Taken Expression)
  | 0, ts => unexpected ts
  | budget + 1, ts =>
    if startsWithWord "lambda" ts then do
      let (list, ts) ← parameters budget (ts.drop 1)
      let (body, ts) ← expression budget ts
      return (.lambda (settled list) body, ts)
    else do
      let (body, rest) ← disjunction budget ts
      if startsWithWord "if" rest then
        let (test, rest) ←
          match disjunction budget (rest.drop 1) with
          | .error .invalid =>
            -- Where at least an operand can be read, what is missing is the alternative.
            match factor budget (rest.drop 1) with
            | .ok (_, after) => refuse .missingAlternative after
            | .error fault => .error fault
          | found => found
        if startsWithWord "else" rest then
          let (alternative, rest) ← expression budget (rest.drop 1)
          return (.conditional test body alternative, rest)
        else
          match rest with
          | ⟨.broken fault, _⟩ :: _ => .error fault
          | ⟨.symbol ":", _⟩ :: _ => unexpected rest
          | _ => refuse .missingAlternative rest
      else do
        checkNeighbour budget ts rest
        return (body, rest)

/-- The parameters of a function without a name, with the colon after them. The signs between kinds of
parameters are parameters without a name. -/
def parameters : (budget : Nat) → List Lexeme → Except Fault (Taken (List Expression))
  | 0, ts => unexpected ts
  | budget + 1, ts =>
    let next (kind : ParameterKind) (name : String) (default : Expression) (ts : List Lexeme) :
        Except Fault (Taken (List Expression)) := do
      let (list, ts) ← if startsWith "," ts then parameters budget (ts.drop 1) else do
        pure ([], ← expect ":" ts)
      return (.parameter kind name default :: list, ts)
    match ts with
    | ⟨.symbol ":", _⟩ :: ts => .ok ([], ts)
    | ⟨.name n, _⟩ :: ⟨.symbol "=", _⟩ :: ts => do
      let (default, ts) ← expression budget ts
      next .ordinary n default ts
    | ⟨.name n, _⟩ :: ts => next .ordinary n .missing ts
    | ⟨.symbol "/", _⟩ :: ts => next .positional "" .missing ts
    | ⟨.symbol "*", _⟩ :: ⟨.name n, _⟩ :: ts => next .others n .missing ts
    | ⟨.symbol "**", _⟩ :: ⟨.name n, _⟩ :: ts => next .otherNames n .missing ts
    | ⟨.symbol "*", _⟩ :: ⟨.symbol ",", d⟩ :: ⟨.name n, e⟩ :: ts =>
      next .named "" .missing (⟨.symbol ",", d⟩ :: ⟨.name n, e⟩ :: ts)
    | ts => unexpected ts

/-- Check that no other expression follows an expression at once. -/
def checkNeighbour : (budget : Nat) → (ts rest : List Lexeme) → Except Fault Unit
  | 0, _, _ => .ok ()
  | budget + 1, ts, rest => do
    if !mayStandBefore ts then
      -- Outside brackets a comma would not help.
      let missed : Fault := if depthOf rest = 0 then .invalid else .forgottenComma
      let isUnary := startsWithWord "not" rest || startsWithWord "lambda" rest ||
        startsWith "~" rest || startsWith "\x7b" rest
      if startsAtom rest || isUnary then
        match disjunction budget rest with
        | .ok (_, ⟨.broken fault, _⟩ :: _) => .error fault
        | .ok _ => checkCall budget ts rest missed
        | .error fault =>
          if fault.isOfCharacters then .error fault
          else if startsAtom rest then checkCall budget ts rest missed
          else .ok ()
      else .ok ()
    else checkCall budget ts rest .invalid

/-- Check that an expression is no call without parentheses; otherwise what follows it has
another fault. -/
def checkCall : (budget : Nat) → (ts rest : List Lexeme) → Fault → Except Fault Unit
  | 0, _, _, _ => .ok ()
  | budget + 1, ts, rest, fault =>
    match ts with
    | ⟨.name f, _⟩ :: argument =>
      if (f = "print" ∨ f = "exec") ∧ !startsWith "(" argument then
        match disjunction budget argument with
        | .ok _ => refuse (.missingParentheses f) rest
        | .error other => if other.isOfCharacters then .error other else .ok ()
      else if fault = .invalid then .ok ()
      else refuse fault rest
    | _ => if fault = .invalid then .ok () else refuse fault rest

/-- Alternatives joined by `or`. -/
def disjunction : (budget : Nat) → List Lexeme → Except Fault (Taken Expression)
  | 0, ts => unexpected ts
  | budget + 1, ts => do
    let (first, ts) ← conjunction budget ts
    let (others, ts) ← moreOperands budget "or" ts
    return (if others.isEmpty then first else .any (first :: others), ts)

/-- Conditions joined by `and`. -/
def conjunction : (budget : Nat) → List Lexeme → Except Fault (Taken Expression)
  | 0, ts => unexpected ts
  | budget + 1, ts => do
    let (first, ts) ← inversion budget ts
    let (others, ts) ← moreOperands budget "and" ts
    return (if others.isEmpty then first else .all (first :: others), ts)

/-- The operands after the first that a word joins. -/
def moreOperands : (budget : Nat) → (word : String) → List Lexeme → Except Fault (Taken (List Expression))
  | 0, _, ts => unexpected ts
  | budget + 1, word, ts =>
    if startsWithWord word ts then do
      let (e, ts) ←
        if word = "or" then conjunction budget (ts.drop 1) else inversion budget (ts.drop 1)
      let (es, ts) ← moreOperands budget word ts
      return (e :: es, ts)
    else .ok ([], ts)

/-- A condition that may be negated. -/
def inversion : (budget : Nat) → List Lexeme → Except Fault (Taken Expression)
  | 0, ts => unexpected ts
  | budget + 1, ts =>
    if startsWithWord "not" ts then do
      let (e, ts) ← inversion budget (ts.drop 1)
      return (.unary .not e, ts)
    else do
      let (first, ts) ← binary budget 0 ts
      let (rest, ts) ← comparisons budget ts
      return (if rest.isEmpty then first else .comparison first rest, ts)

/-- The comparisons after the first operand. -/
def comparisons : (budget : Nat) → List Lexeme → Except Fault (Taken (List (Comparison × Expression)))
  | 0, ts => unexpected ts
  | budget + 1, ts =>
    match comparison? ts with
    | some (op, ts) => do
      let (e, ts) ← binary budget 0 ts
      let (rest, ts) ← comparisons budget ts
      return ((op, e) :: rest, ts)
    | none => .ok ([], ts)

/-- Operands joined by operators that bind at least as tightly as a level. -/
def binary : (budget level : Nat) → List Lexeme → Except Fault (Taken Expression)
  | 0, _, ts => unexpected ts
  | budget + 1, level, ts => do
    let (left, ts) ← factor budget ts
    climb budget level left ts

/-- The rest of operands joined by operators, after the first. -/
def climb : (budget level : Nat) → Expression → List Lexeme → Except Fault (Taken Expression)
  | 0, _, _, ts => unexpected ts
  | budget + 1, level, left, ts =>
    match ts with
    | ⟨.symbol s, _⟩ :: rest =>
      match binaryOperator? s with
      | some op =>
        -- Powers bind to the right, and are read together with their base.
        if op ≠ .power ∧ level ≤ op.level then do
          let (right, ts) ← binary budget (op.level + 1) rest
          climb budget level (.binary op left right) ts
        else .ok (left, ts)
      | none => .ok (left, ts)
    | ts => .ok (left, ts)

/-- An operand with signs before it, or a power. -/
def factor : (budget : Nat) → List Lexeme → Except Fault (Taken Expression)
  | 0, ts => unexpected ts
  | budget + 1, ts => do
    let signed (op : UnaryOperator) : Except Fault (Taken Expression) := do
      let (e, ts) ← factor budget (ts.drop 1)
      return (.unary op e, ts)
    if startsWith "-" ts then signed .minus
    else if startsWith "+" ts then signed .plus
    else if startsWith "~" ts then signed .invert
    else
      let (base, ts) ← atom budget ts
      let (base, ts) ← trailers budget base ts
      if startsWith "**" ts then
        let (exponent, ts) ← factor budget (ts.drop 1)
        return (.binary .power base exponent, ts)
      else return (base, ts)

/-- Attributes, calls and subscriptions after an operand. -/
def trailers : (budget : Nat) → Expression → List Lexeme → Except Fault (Taken Expression)
  | 0, _, ts => unexpected ts
  | budget + 1, value, ts =>
    if startsWith "." ts then
      match ts.drop 1 with
      | ⟨.name n, _⟩ :: ts => trailers budget (.attribute value n) ts
      | ts => unexpected ts
    else if startsWith "(" ts then do
      let (arguments, ts) ← arguments budget (ts.drop 1)
      match checkArguments false false [] arguments with
      | some fault => refuse fault ts
      | none => trailers budget (.call value arguments) ts
    else if startsWith "[" ts then do
      let (keys, comma, rest) ← keys budget (ts.drop 1)
      let ts ← expect "]" rest
      match keys, comma with
      -- A starred key makes a tuple even without a comma.
      | [.starred e], false => trailers budget (.index value (.group .tuple [.starred e])) ts
      | [key], false => trailers budget (.index value key) ts
      | [], _ => unexpected rest
      | keys, _ => trailers budget (.index value (.group .tuple keys)) ts
    else .ok (value, ts)

/-- What follows a star. -/
def starredOperand : (budget : Nat) → List Lexeme → Except Fault (Taken Expression)
  | 0, ts => unexpected ts
  | budget + 1, ts =>
    match binary budget 0 ts with
    | .ok (e, ts) => .ok (.starred e, ts)
    | .error .invalid => refuse .emptyStar ts
    | .error fault => .error fault

/-- A name, a value or something in brackets. -/
def atom : (budget : Nat) → List Lexeme → Except Fault (Taken Expression)
  | 0, ts => unexpected ts
  | budget + 1, ts =>
    match ts with
    | ⟨.name n, _⟩ :: rest => .ok (.name n, rest)
    | ⟨.number v, _⟩ :: rest => .ok (.constant v, rest)
    | ⟨.keyword "None", _⟩ :: rest => .ok (.constant .none, rest)
    | ⟨.keyword "True", _⟩ :: rest => .ok (.constant (.bool true), rest)
    | ⟨.keyword "False", _⟩ :: rest => .ok (.constant (.bool false), rest)
    | ⟨.text _ _, _⟩ :: _ => do
      let (parts, rest) := quotedParts ts
      return (← texts budget parts rest, rest)
    | ⟨.symbol "...", _⟩ :: rest => .ok (.constant .ellipsis, rest)
    | ⟨.symbol "(", _⟩ :: rest => parenthesized budget rest
    | ⟨.symbol "[", _⟩ :: rest => do
      let (items, _, rest) ← items budget "]" rest
      let (made, rest) ← comprehension budget (some .list) items rest
      let rest ← expect "]" rest
      return (made.getD (.group .list items), rest)
    | ⟨.symbol "\x7b", _⟩ :: rest => braced budget rest
    | ts => unexpected ts

/-- What stands in parentheses: a tuple, or one expression. -/
def parenthesized : (budget : Nat) → List Lexeme → Except Fault (Taken Expression)
  | 0, ts => unexpected ts
  | budget + 1, ts =>
    if startsWith "**" ts then do
      let (_, rest) ← expression budget (ts.drop 1)
      if startsWith ")" rest then refuse .doubleStarredGroup rest else unexpected rest
    else do
      let (items, comma, rest) ← items budget ")" ts
      let (made, rest) ← comprehension budget none items rest
      match items, comma with
      | [.starred _], false =>
        if startsWith ")" rest then refuse .starredGroup rest else unexpected rest
      | [e], false =>
        let rest ← expect ")" rest
        return (made.getD e, rest)
      | items, _ =>
        let rest ← expect ")" rest
        return (.group .tuple items, rest)

/-- What stands in braces: a set or a dictionary. -/
def braced : (budget : Nat) → List Lexeme → Except Fault (Taken Expression)
  | 0, ts => unexpected ts
  | budget + 1, ts =>
    if startsWith "\x7d" ts then .ok (.group .dict [], ts.drop 1)
    else do
      -- The first entry tells a dictionary from a set, whose items are then read from the start.
      let (first, rest) ← entry budget false ts
      match first with
      | .entry _ _ | .doubleStarred _ =>
        let (made, rest) ← comprehension budget (some .dict) [first] rest
        match made with
        | some e =>
          let rest ← expect "\x7d" rest
          return (e, rest)
        | none =>
          let (others, rest) ← entries budget rest
          let rest ← expect "\x7d" rest
          return (.group .dict (first :: others), rest)
      | _ =>
        let (items, _, rest) ← items budget "\x7d" ts
        let (made, rest) ← comprehension budget (some .set) items rest
        let rest ← expect "\x7d" rest
        return (made.getD (.group .set items), rest)

/-- One entry in braces; without a value, unless there has to be one. -/
def entry : (budget : Nat) → (needsValue : Bool) → List Lexeme → Except Fault (Taken Expression)
  | 0, _, ts => unexpected ts
  | budget + 1, needsValue, ts =>
    if startsWith "**" ts then do
      let (e, ts) ← binary budget 0 (ts.drop 1)
      return (.doubleStarred e, ts)
    else if startsWith "*" ts then starredOperand budget (ts.drop 1)
    else do
      let (key, rest) ← named budget ts
      if startsWith ":" rest then
        let after := rest.drop 1
        if startsWith "*" after then refuse .starredEntry after
        else if startsWith "\x7d" after || startsWith "," after then refuse .missingEntry after
        else
          let (value, rest) ← expression budget after
          return (.entry key value, rest)
      else if needsValue then
        match rest with
        | ⟨.broken fault, _⟩ :: _ => .error fault
        | _ => refuse .missingColon rest
      else return (key, rest)

/-- The entries of a dictionary after the first. -/
def entries : (budget : Nat) → List Lexeme → Except Fault (Taken (List Expression))
  | 0, ts => unexpected ts
  | budget + 1, ts =>
    if startsWith "," ts && !startsWith "\x7d" (ts.drop 1) then do
      let (e, ts) ← entry budget true (ts.drop 1)
      let (es, ts) ← entries budget ts
      return (e :: es, ts)
    else if startsWith "," ts then .ok ([], ts.drop 1)
    else .ok ([], ts)

/-- An expression that may bind a name, and has no equals sign after it. -/
def named : (budget : Nat) → List Lexeme → Except Fault (Taken Expression)
  | 0, ts => unexpected ts
  | budget + 1, ts =>
    match ts with
    | ⟨.name n, _⟩ :: ⟨.symbol ":=", _⟩ :: rest => do
      let (e, rest) ← expression budget rest
      return (.binding n e, rest)
    | _ => do
      let (e, rest) ← expression budget ts
      if startsWith ":=" rest then
        match expression budget (rest.drop 1) with
        | .ok (_, after) => refuse (.bindingOf (kindName e)) after
        | .error fault => .error fault
      else if startsWith "=" rest then
        if !mayBeMeantAsName e then unexpected rest
        else match binary budget 0 (rest.drop 1) with
          | .ok (_, after) =>
            if startsWith "=" after || startsWith ":=" after then unexpected rest
            else match e with
              | .name _ => refuse .forgottenComparison after
              | e => refuse (.assignmentTo (kindName e)) after
          | .error fault => if fault.isOfCharacters then .error fault else unexpected rest
      else return (e, rest)

/-- Items with commas between them up to a closing bracket, and whether a comma follows the
first. -/
def items : (budget : Nat) → (closing : String) → List Lexeme →
    Except Fault (List Expression × Bool × List Lexeme)
  | 0, _, ts => unexpected ts
  | budget + 1, closing, ts =>
    if startsWith closing ts then .ok ([], false, ts)
    else do
      let (e, ts) ←
        if startsWith "*" ts then starredOperand budget (ts.drop 1) else named budget ts
      if startsWith "," ts then
        let (es, _, ts) ← items budget closing (ts.drop 1)
        return (e :: es, true, ts)
      else return ([e], false, ts)

/-- The keys of a subscription, and whether a comma follows the first. -/
def keys : (budget : Nat) → List Lexeme → Except Fault (List Expression × Bool × List Lexeme)
  | 0, ts => unexpected ts
  | budget + 1, ts =>
    if startsWith "]" ts then .ok ([], false, ts)
    else do
      let (e, ts) ←
        if startsWith "*" ts then starredOperand budget (ts.drop 1) else key budget ts
      if startsWith "," ts then
        let (es, _, ts) ← keys budget (ts.drop 1)
        return (e :: es, true, ts)
      else return ([e], false, ts)

/-- A key of a subscription, which may be a range. -/
def key : (budget : Nat) → List Lexeme → Except Fault (Taken Expression)
  | 0, ts => unexpected ts
  | budget + 1, ts => do
    let (lower, ts) ← bound budget true ts
    if startsWith ":" ts then
      let (upper, ts) ← bound budget false (ts.drop 1)
      if startsWith ":" ts then
        let (step, ts) ← bound budget false (ts.drop 1)
        return (.slice lower upper step, ts)
      else return (.slice lower upper .missing, ts)
    else return (lower, ts)

/-- A bound of a range, which may be left out. -/
def bound : (budget : Nat) → (first : Bool) → List Lexeme → Except Fault (Taken Expression)
  | 0, _, ts => unexpected ts
  | budget + 1, first, ts =>
    if startsWith ":" ts || !first && (startsWith "]" ts || startsWith "," ts) then
      .ok (.missing, ts)
    else if first then named budget ts
    else expression budget ts

/-- The arguments of a call, with the closing parenthesis. -/
def arguments : (budget : Nat) → List Lexeme → Except Fault (Taken (List Expression))
  | 0, ts => unexpected ts
  | budget + 1, ts =>
    if startsWith ")" ts then .ok ([], ts.drop 1)
    else do
      let (e, ts) ← argument budget ts
      let (made, ts) ← comprehension budget none [e] ts
      let e := made.getD e
      if startsWith "," ts then
        let (es, ts) ← arguments budget (ts.drop 1)
        return (e :: es, ts)
      else
        let ts ← expect ")" ts
        return ([e], ts)

/-- One argument of a call. -/
def argument : (budget : Nat) → List Lexeme → Except Fault (Taken Expression)
  | 0, ts => unexpected ts
  | budget + 1, ts =>
    match ts with
    | ⟨.name n, _⟩ :: ⟨.symbol "=", _⟩ :: rest => do
      let (e, ts) ← expression budget rest
      return (.keyword n e, ts)
    | ⟨.keyword w, _⟩ :: ⟨.symbol "=", _⟩ :: rest =>
      if w = "True" ∨ w = "False" ∨ w = "None" then refuse (.constantAsName w) rest
      else unexpected ts
    | ⟨.symbol "*", _⟩ :: rest =>
      match expression budget rest with
      | .ok (e, ts) => .ok (.starred e, ts)
      | .error .invalid => refuse .emptyStar rest
      | .error fault => .error fault
    | ⟨.symbol "**", _⟩ :: rest => do
      let (e, ts) ← expression budget rest
      return (.doubleStarred e, ts)
    | ⟨.name n, _⟩ :: ⟨.symbol ":=", _⟩ :: rest => do
      let (e, rest) ← expression budget rest
      return (.binding n e, rest)
    | ts => do
      let (e, rest) ← expression budget ts
      if startsWith "=" rest then refuse .assignmentInCall rest else return (e, rest)

/-- The comprehension that some items and the clauses after them make, if there are clauses; they
follow one item that is not starred. -/
def comprehension : (budget : Nat) → Option Grouping → List Expression → List Lexeme →
    Except Fault (Taken (Option Expression))
  | 0, _, _, ts => unexpected ts
  | budget + 1, grouping, items, ts =>
    if startsWithWord "for" ts then
      match items with
      | [.starred _] => refuse .starredComprehension ts
      | [item] => do
        let (clauses, ts) ← clauses budget ts
        return (some (.comprehension grouping item clauses), ts)
      | _ => unexpected ts
    else .ok (none, ts)

/-- The clauses of a comprehension. -/
def clauses : (budget : Nat) → List Lexeme → Except Fault (Taken (List Expression))
  | 0, ts => unexpected ts
  | budget + 1, ts =>
    if startsWithWord "for" ts then do
      let (targets, comma, ts) ← targets budget (ts.drop 1)
      if targets.isEmpty || !targets.all isTarget || !startsWithWord "in" ts then unexpected ts
      else
        let target := match targets, comma with
          | [e], false => e
          | es, _ => .group .tuple es
        let (source, ts) ← disjunction budget (ts.drop 1)
        let (conditions, ts) ← conditions budget ts
        let (others, ts) ← clauses budget ts
        return (.clause target source conditions :: others, ts)
    else .ok ([], ts)

/-- What a comprehension binds, up to the word `in`. -/
def targets : (budget : Nat) → List Lexeme →
    Except Fault (List Expression × Bool × List Lexeme)
  | 0, ts => unexpected ts
  | budget + 1, ts =>
    if startsWithWord "in" ts then .ok ([], false, ts)
    else do
      let (e, ts) ←
        if startsWith "*" ts then do
          let (e, ts) ← binary budget 0 (ts.drop 1)
          pure (.starred e, ts)
        else binary budget 0 ts
      if startsWith "," ts then
        let (es, _, ts) ← targets budget (ts.drop 1)
        return (e :: es, true, ts)
      else return ([e], false, ts)

/-- The conditions of a clause. -/
def conditions : (budget : Nat) → List Lexeme → Except Fault (Taken (List Expression))
  | 0, ts => unexpected ts
  | budget + 1, ts =>
    if startsWithWord "if" ts then do
      let (e, ts) ← disjunction budget (ts.drop 1)
      let (es, ts) ← conditions budget ts
      return (e :: es, ts)
    else .ok ([], ts)

/-- Quoted texts side by side, as one. -/
def texts : (budget : Nat) → List (QuoteMarks × List Char) → List Lexeme →
    Except Fault Expression
  | 0, _, ts => unexpected ts
  | budget + 1, parts, ts => do
    let isBytes := parts.map fun p => p.1.bytes
    if isBytes.any (fun b => b) && !isBytes.all (fun b => b) then refuse .mixedBytes ts
    else
      let blamed {α : Type} : Except Fault α → Except Fault α
        | .ok value => .ok value
        | .error fault => refuse fault ts
      let values ← parts.mapM fun (marks, body) =>
        if marks.formatted then do
          let (pieces, _) ← blamed (Quotation.pieces marks.raw (2 * body.length + 2) 0 body)
          fields budget marks.raw pieces
        else do
          return [.constant (← blamed (Quotation.read marks body))]
      if isBytes.any (fun b => b) then
        return .constant (.bytes (values.flatten.flatMap fun
          | .constant (.bytes bs) => bs
          | _ => []))
      else return textOf values.flatten

/-- The parts of a formatted text, with the values of its fields read. -/
def fields : (budget : Nat) → (raw : Bool) → List Quotation.Piece → Except Fault (List Expression)
  | 0, _, _ => .error .invalid
  | budget + 1, raw, pieces =>
    pieces.mapM fun
      | .text cs => do return .constant (.string (← Quotation.plainText raw cs))
      | .field source isShown conversion format => do
        -- Read as if in parentheses, so that the value may go on over lines.
        let ts := Token.ofText ('(' :: source ++ [')'])
        let (e, rest) ← parenthesized budget (ts.drop 1)
        match rest with
        | [⟨.lineEnd, _⟩] =>
          let format ← match format with
            | some inside => do pure (.formatted (← fields budget raw inside))
            | none => pure .missing
          let isPlain := match format with
            | .missing => conversion.isNone
            | _ => false
          return .field e (if isShown && isPlain then some 'r' else conversion) format
        | rest => unexpected rest

end

/-- The expressions of a tuple without parentheses, and whether a comma follows the first. -/
def whole (budget : Nat) : (steps : Nat) → List Lexeme →
    Except Fault (List Expression × Bool × List Lexeme)
  | 0, ts => unexpected ts
  | steps + 1, ts => do
    let (e, ts) ← expression budget ts
    if startsWith "," ts then
      match ts.drop 1 with
      | ⟨.lineEnd, d⟩ :: rest => return ([e], true, ⟨.lineEnd, d⟩ :: rest)
      | rest =>
        let (es, _, ts) ← whole budget steps rest
        return (e :: es, true, ts)
    else return ([e], false, ts)

end Read

/-- The expression that a text spells, or what is wrong with the text. -/
def parse (text : List Char) : Except Fault Expression := do
  let ts := Token.ofText text
  let (items, comma, rest) ← Read.whole (24 * text.length + 48) (ts.length + 1) ts
  match rest with
  | ⟨.lineEnd, _⟩ :: rest =>
    match rest.dropWhile (·.token == .lineEnd), items, comma with
    | [], [e], false => return e
    | [], items, _ => return .group .tuple items
    | rest, _, _ => Read.unexpected rest
  | rest => Read.unexpected rest

end TypeSchema.Expression
