import Bindery.Expr.Formatted

/- Reading expressions. A phrase is a tree with the place where it begins; a call also keeps the
   places of its arguments. All functions take fuel, which only `Expr.parse?` supplies: a chain of
   calls that passes no word is shorter than `Reader.stepsPerWord`. -/
namespace Bindery.Reader

structure Phrase where
  expr : Expr
  start : Place
  argumentStarts : List Place := []
  deriving Repr

/-! ### Single words -/

def mark? (m : String) : List Lexeme → Option (List Lexeme)
  | ⟨.mark x, _⟩ :: ts => if x = m then some ts else none
  | _ => none

def atMark (m : String) (ts : List Lexeme) : Bool := (mark? m ts).isSome

def keyword? (w : String) : List Lexeme → Option (List Lexeme)
  | ⟨.word x, _⟩ :: ts => if x = w then some ts else none
  | _ => none

def atKeyword (w : String) (ts : List Lexeme) : Bool := (keyword? w ts).isSome

/-- A name, in its normal form. -/
def name? : List Lexeme → Option (String × List Lexeme)
  | ⟨.word x, _⟩ :: ts =>
    if Token.keywords.contains x then none else some (Text.normalForm x, ts)
  | _ => none

def place (ts : List Lexeme) : Place := (ts.head?.map Lexeme.start).getD Place.origin

/-- A name with this mark right behind it. -/
def nameBefore? (m : String) (ts : List Lexeme) : Option (String × List Lexeme) := do
  let (name, rest) ← name? ts
  let rest ← mark? m rest
  return (name, rest)

/-! ### Operators -/

/-- The binary operators by rising strength; all group to the left. -/
def binaryLevels : List (List (String × BinaryOp)) :=
  [[("|", .bitOr)], [("^", .bitXor)], [("&", .bitAnd)], [("<<", .lshift), (">>", .rshift)],
   [("+", .add), ("-", .sub)],
   [("*", .mult), ("/", .div), ("//", .floorDiv), ("%", .mod), ("@", .matMult)]]

def operator? (ops : List (String × BinaryOp)) : List Lexeme → Option (BinaryOp × List Lexeme)
  | ⟨.mark x, _⟩ :: ts => (ops.lookup x).map (·, ts)
  | _ => none

def comparison? : List Lexeme → Option (CompareOp × List Lexeme)
  | ⟨.mark "==", _⟩ :: ts => some (.eq, ts)
  | ⟨.mark "!=", _⟩ :: ts => some (.notEq, ts)
  | ⟨.mark "<", _⟩ :: ts => some (.lt, ts)
  | ⟨.mark "<=", _⟩ :: ts => some (.ltE, ts)
  | ⟨.mark ">", _⟩ :: ts => some (.gt, ts)
  | ⟨.mark ">=", _⟩ :: ts => some (.gtE, ts)
  | ⟨.word "in", _⟩ :: ts => some (.isIn, ts)
  | ⟨.word "not", _⟩ :: ⟨.word "in", _⟩ :: ts => some (.notIn, ts)
  | ⟨.word "is", _⟩ :: ⟨.word "not", _⟩ :: ts => some (.isNot, ts)
  | ⟨.word "is", _⟩ :: ts => some (.is, ts)
  | _ => none

def sign? : List Lexeme → Option (UnaryOp × List Lexeme)
  | ⟨.mark "+", _⟩ :: ts => some (.plus, ts)
  | ⟨.mark "-", _⟩ :: ts => some (.minus, ts)
  | ⟨.mark "~", _⟩ :: ts => some (.invert, ts)
  | _ => none

/-! ### Quoted text -/

/-- Adjacent literals of a text are one. -/
inductive Piece where
  | literal (chars : List Char)
  | field (expr : Expr)

def pushLiteral (chars : List Char) : List Piece → List Piece
  | .literal more :: rest => .literal (chars ++ more) :: rest
  | rest => if chars.isEmpty then rest else .literal chars :: rest

def mergePieces : List Piece → List Piece
  | [] => []
  | .literal chars :: rest => pushLiteral chars (mergePieces rest)
  | .field e :: rest => .field e :: mergePieces rest

/-- The tree of a formatted text. -/
def joinPieces (marked : Bool) (pieces : List Piece) : Expr :=
  .joined ((mergePieces pieces).map fun
    | .literal chars => .constant (.text (String.ofList chars) marked)
    | .field e => e)

/-- The text literals at the head. -/
def literals : List Lexeme → List TextLiteral.Written × List Lexeme
  | ⟨.text w, _⟩ :: ts => let (ws, rest) := literals ts; (w :: ws, rest)
  | ts => ([], ts)

/-! ### Targets -/

mutual

/-- What a comprehension may assign to: names, attributes, subscripts, and tuples and lists of
    such, of which one may be starred. -/
def isTarget : Expr → Bool
  | .name _ => true
  | .attribute _ _ => true
  | .subscript _ _ => true
  | .tuple es => areTargets es
  | .list es => areTargets es
  | _ => false

def areTargets : List Expr → Bool
  | [] => true
  | .starred e :: es => isTarget e && areTargets es
  | e :: es => isTarget e && areTargets es

end

/-- Parameters as they are read, before they are sorted by kind. -/
inductive ParameterMark where
  | plain (p : Parameter) (hasDefault : Bool)
  | slash
  | star (name : Option String)
  | doubleStar (name : String)

/-- A list of parameters by kind. -/
structure Parameters where
  positionalOnly : List Parameter := []
  positional : List Parameter := []
  rest : Option String := none
  keywordOnly : List Parameter := []
  extra : Option String := none
  deriving Repr

/-- Sorts the parameters behind a star: only names, then at most one double star, at the end. -/
def sortKeywordOnly (bare : Bool) : List ParameterMark → Option (List Parameter × Option String)
  | [] => if bare then none else some ([], none)
  | .plain p _ :: more => (sortKeywordOnly false more).map fun (ps, extra) => (p :: ps, extra)
  | [.doubleStar name] => if bare then none else some ([], some name)
  | _ => none

/-- Sorts parameters. A parameter without a default may not follow one with a default, the slash
    needs a parameter before it and comes once, and a bare star needs a name behind it. -/
def sortParameters (slashed defaults : Bool) (before : List Parameter) :
    List ParameterMark → Option Parameters
  | [] => some { positional := before.reverse }
  | .plain p hasDefault :: more =>
    if defaults && !hasDefault then none
    else sortParameters slashed (defaults || hasDefault) (p :: before) more
  | .slash :: more =>
    if slashed || before.isEmpty then none
    else (sortParameters true defaults [] more).map fun ps =>
      { ps with positionalOnly := before.reverse }
  | .star name :: more =>
    (sortKeywordOnly name.isNone more).map fun (ps, extra) =>
      { positional := before.reverse, rest := name, keywordOnly := ps, extra }
  | [.doubleStar name] => some { positional := before.reverse, extra := some name }
  | .doubleStar _ :: _ => none

/-! ### The grammar -/

/-- What has been read of an argument list: once a keyword was given no positional argument may
    follow, and once a double star was given no single star either. -/
structure ArgumentState where
  positional : List Expr := []
  keywords : List Keyword := []
  starts : List Place := []
  sawKeyword : Bool := false
  sawDoubleStar : Bool := false

mutual

/-- `expression`, or `name := expression`. -/
def named : Nat → List Lexeme → Option (Phrase × List Lexeme)
  | 0, _ => none
  | fuel + 1, ts =>
    match nameBefore? ":=" ts with
    | some (target, rest) => do
      let (value, rest) ← expression fuel rest
      return ({ expr := .named target value.expr, start := place ts }, rest)
    | none => do
      let (e, rest) ← expression fuel ts
      if atMark ":=" rest then none else return (e, rest)

/-- A lambda, or a disjunction that may be chosen by a condition. -/
def expression : Nat → List Lexeme → Option (Phrase × List Lexeme)
  | 0, _ => none
  | fuel + 1, ts =>
    match keyword? "lambda" ts with
    | some rest => do
      let (marks, rest) ← parameters fuel rest
      let ps ← sortParameters false false [] marks
      let rest ← mark? ":" rest
      let (body, rest) ← expression fuel rest
      return ({ expr := .lambda ps.positionalOnly ps.positional ps.rest ps.keywordOnly ps.extra body.expr,
                start := place ts }, rest)
    | none => do
      let (body, rest) ← disjunction fuel ts
      match keyword? "if" rest with
      | none => return (body, rest)
      | some rest => do
        let (test, rest) ← disjunction fuel rest
        let rest ← keyword? "else" rest
        let (orelse, rest) ← expression fuel rest
        return ({ expr := .conditional test.expr body.expr orelse.expr, start := place ts }, rest)

/-- Parameters up to the colon. -/
def parameters : Nat → List Lexeme → Option ((List ParameterMark) × List Lexeme)
  | 0, _ => none
  | fuel + 1, ts =>
    if atMark ":" ts then some ([], ts)
    else do
      let (mark, rest) ← parameter fuel ts
      if atMark ":" rest then return ([mark], rest)
      let rest ← mark? "," rest
      match mark with
      | .star none => if atMark ":" rest then none
      | _ => pure ()
      let (marks, rest) ← parameters fuel rest
      return (mark :: marks, rest)

def parameter : Nat → List Lexeme → Option (ParameterMark × List Lexeme)
  | 0, _ => none
  | fuel + 1, ts =>
    match mark? "/" ts with
    | some rest => some (.slash, rest)
    | none =>
    match mark? "*" ts with
    | some rest =>
      match name? rest with
      | some (name, rest) => some (.star (some name), rest)
      | none => some (.star none, rest)
    | none =>
    match mark? "**" ts with
    | some rest => (name? rest).map fun (name, rest) => (.doubleStar name, rest)
    | none => do
      let (name, rest) ← name? ts
      match mark? "=" rest with
      | none => return (.plain (.mk name none) false, rest)
      | some rest =>
        let (value, rest) ← expression fuel rest
        return (.plain (.mk name (some value.expr)) true, rest)

def disjunction : Nat → List Lexeme → Option (Phrase × List Lexeme)
  | 0, _ => none
  | fuel + 1, ts => do
    let (left, rest) ← conjunction fuel ts
    if atKeyword "or" rest then
      let (more, rest) ← disjunctionTail fuel rest
      return ({ expr := .logical .or (left.expr :: more), start := place ts }, rest)
    return (left, rest)

def disjunctionTail : Nat → List Lexeme → Option ((List Expr) × List Lexeme)
  | 0, _ => none
  | fuel + 1, ts =>
    match keyword? "or" ts with
    | none => some ([], ts)
    | some rest => do
      let (e, rest) ← conjunction fuel rest
      let (more, rest) ← disjunctionTail fuel rest
      return (e.expr :: more, rest)

def conjunction : Nat → List Lexeme → Option (Phrase × List Lexeme)
  | 0, _ => none
  | fuel + 1, ts => do
    let (left, rest) ← inversion fuel ts
    if atKeyword "and" rest then
      let (more, rest) ← conjunctionTail fuel rest
      return ({ expr := .logical .and (left.expr :: more), start := place ts }, rest)
    return (left, rest)

def conjunctionTail : Nat → List Lexeme → Option ((List Expr) × List Lexeme)
  | 0, _ => none
  | fuel + 1, ts =>
    match keyword? "and" ts with
    | none => some ([], ts)
    | some rest => do
      let (e, rest) ← inversion fuel rest
      let (more, rest) ← conjunctionTail fuel rest
      return (e.expr :: more, rest)

def inversion : Nat → List Lexeme → Option (Phrase × List Lexeme)
  | 0, _ => none
  | fuel + 1, ts =>
    match keyword? "not" ts with
    | some rest => do
      let (e, rest) ← inversion fuel rest
      return ({ expr := .unary .not e.expr, start := place ts }, rest)
    | none => do
      let (left, rest) ← binary fuel binaryLevels ts
      if (comparison? rest).isSome then
        let (more, rest) ← comparisonTail fuel rest
        return ({ expr := .compare left.expr more, start := place ts }, rest)
      return (left, rest)

def comparisonTail : Nat → List Lexeme → Option ((List Comparison) × List Lexeme)
  | 0, _ => none
  | fuel + 1, ts =>
    match comparison? ts with
    | none => some ([], ts)
    | some (op, rest) => do
      let (e, rest) ← binary fuel binaryLevels rest
      let (more, rest) ← comparisonTail fuel rest
      return (.mk op e.expr :: more, rest)

/-- An operand of the given levels of binary operators, which group to the left. -/
def binary : Nat → List (List (String × BinaryOp)) → List Lexeme → Option (Phrase × List Lexeme)
  | 0, _, _ => none
  | fuel + 1, [], ts => factor fuel ts
  | fuel + 1, ops :: levels, ts => do
    let (left, rest) ← binary fuel levels ts
    binaryTail fuel ops levels left (place ts) rest

def binaryTail : Nat → List (String × BinaryOp) → List (List (String × BinaryOp)) → Phrase →
    Place → List Lexeme → Option (Phrase × List Lexeme)
  | 0, _, _, _, _, _ => none
  | fuel + 1, ops, levels, left, start, ts =>
    match operator? ops ts with
    | none => some (left, ts)
    | some (op, rest) => do
      let (right, rest) ← binary fuel levels rest
      binaryTail fuel ops levels { expr := .binary left.expr op right.expr, start } start rest

def factor : Nat → List Lexeme → Option (Phrase × List Lexeme)
  | 0, _ => none
  | fuel + 1, ts =>
    match sign? ts with
    | some (op, rest) => do
      let (e, rest) ← factor fuel rest
      return ({ expr := .unary op e.expr, start := place ts }, rest)
    | none => do
      let (base, rest) ← awaited fuel ts
      match mark? "**" rest with
      | none => return (base, rest)
      | some rest => do
        let (exponent, rest) ← factor fuel rest
        return ({ expr := .binary base.expr .pow exponent.expr, start := place ts }, rest)

def awaited : Nat → List Lexeme → Option (Phrase × List Lexeme)
  | 0, _ => none
  | fuel + 1, ts =>
    match keyword? "await" ts with
    | some rest => do
      let (e, rest) ← primary fuel rest
      return ({ expr := .await e.expr, start := place ts }, rest)
    | none => primary fuel ts

def primary : Nat → List Lexeme → Option (Phrase × List Lexeme)
  | 0, _ => none
  | fuel + 1, ts => do
    let (base, rest) ← atom fuel ts
    trailers fuel base (place ts) rest

/-- Attributes, calls and subscripts behind an atom. -/
def trailers : Nat → Phrase → Place → List Lexeme → Option (Phrase × List Lexeme)
  | 0, _, _, _ => none
  | fuel + 1, base, start, ts =>
    match mark? "." ts with
    | some rest => do
      let (attr, rest) ← name? rest
      trailers fuel { expr := .attribute base.expr attr, start } start rest
    | none =>
    match mark? "(" ts with
    | some rest => do
      let (state, rest) ← arguments fuel (place ts) {} rest
      let rest ← mark? ")" rest
      trailers fuel
        { expr := .call base.expr state.positional.reverse state.keywords.reverse, start,
          argumentStarts := state.starts.reverse } start rest
    | none =>
    match mark? "[" ts with
    | some rest => do
      let (index, rest) ← slices fuel rest
      let rest ← mark? "]" rest
      trailers fuel { expr := .subscript base.expr index, start } start rest
    | none => some (base, ts)

/-- Arguments up to the closing bracket; `opening` is the place of the opening one. A generator
    needs no brackets of its own when it is the only argument. -/
def arguments : Nat → Place → ArgumentState → List Lexeme → Option (ArgumentState × List Lexeme)
  | 0, _, _, _ => none
  | fuel + 1, opening, state, ts =>
    if atMark ")" ts then some (state, ts)
    else do
      let (next, rest) ← argument fuel opening state ts
      if atMark ")" rest then return (next, rest)
      let rest ← mark? "," rest
      arguments fuel opening next rest

def argument : Nat → Place → ArgumentState → List Lexeme → Option (ArgumentState × List Lexeme)
  | 0, _, _, _ => none
  | fuel + 1, opening, state, ts =>
    let start := place ts
    match mark? "*" ts with
    | some rest => do
      if state.sawDoubleStar then none
      let (e, rest) ← expression fuel rest
      return ({ state with positional := .starred e.expr :: state.positional,
                           starts := start :: state.starts }, rest)
    | none =>
    match mark? "**" ts with
    | some rest => do
      let (e, rest) ← expression fuel rest
      return ({ state with keywords := .mk none e.expr :: state.keywords,
                           starts := start :: state.starts,
                           sawKeyword := true, sawDoubleStar := true }, rest)
    | none =>
    match nameBefore? "=" ts with
    | some (name, rest) => do
      let (e, rest) ← expression fuel rest
      return ({ state with keywords := .mk (some name) e.expr :: state.keywords,
                           starts := start :: state.starts, sawKeyword := true }, rest)
    | none => do
      if state.sawKeyword then none
      let (e, rest) ← named fuel ts
      if atKeyword "for" rest || atKeyword "async" rest then
        if !state.starts.isEmpty then none
        let (gens, rest) ← generators fuel rest
        if !atMark ")" rest then none
        return ({ state with positional := [.generatorExp e.expr gens], starts := [opening] }, rest)
      if atMark "=" rest then none
      return ({ state with positional := e.expr :: state.positional,
                           starts := e.start :: state.starts }, rest)

/-- The index of a subscript: one slice, or a tuple when there is a comma or a star. -/
def slices : Nat → List Lexeme → Option (Expr × List Lexeme)
  | 0, _ => none
  | fuel + 1, ts => do
    let (first, starred, rest) ← sliceItem fuel ts
    if atMark "," rest || starred then
      let (more, rest) ← sliceTail fuel rest
      return (.tuple (first :: more), rest)
    return (first, rest)

def sliceTail : Nat → List Lexeme → Option ((List Expr) × List Lexeme)
  | 0, _ => none
  | fuel + 1, ts =>
    match mark? "," ts with
    | none => some ([], ts)
    | some rest =>
      if atMark "]" rest then some ([], rest)
      else do
        let (e, _, rest) ← sliceItem fuel rest
        let (more, rest) ← sliceTail fuel rest
        return (e :: more, rest)

def sliceItem : Nat → List Lexeme → Option (Expr × Bool × List Lexeme)
  | 0, _ => none
  | fuel + 1, ts =>
    match mark? "*" ts with
    | some rest => (expression fuel rest).map fun (e, rest) => (.starred e.expr, true, rest)
    | none =>
      if atMark ":" ts then
        (sliceBounds fuel none ts).map fun (e, rest) => (e, false, rest)
      else do
        let isNamed := (nameBefore? ":=" ts).isSome
        let (lower, rest) ← named fuel ts
        if atMark ":" rest then
          if isNamed then none
          let (e, rest) ← sliceBounds fuel (some lower.expr) rest
          return (e, false, rest)
        return (lower.expr, false, rest)

/-- The bounds behind the first colon. -/
def sliceBounds : Nat → Option Expr → List Lexeme → Option (Expr × List Lexeme)
  | 0, _, _ => none
  | fuel + 1, lower, ts => do
    let rest ← mark? ":" ts
    let (upper, rest) ← sliceBound fuel rest
    match mark? ":" rest with
    | none => return (.slice lower upper none, rest)
    | some rest =>
      let (step, rest) ← sliceBound fuel rest
      return (.slice lower upper step, rest)

def sliceBound : Nat → List Lexeme → Option ((Option Expr) × List Lexeme)
  | 0, _ => none
  | fuel + 1, ts =>
    if atMark ":" ts || atMark "," ts || atMark "]" ts then some (none, ts)
    else (expression fuel ts).map fun (e, rest) => (some e.expr, rest)

def atom : Nat → List Lexeme → Option (Phrase × List Lexeme)
  | 0, _ => none
  | fuel + 1, ts =>
    let start := place ts
    match ts with
    | ⟨.word "None", _⟩ :: rest => some ({ expr := .constant .none, start }, rest)
    | ⟨.word "True", _⟩ :: rest => some ({ expr := .constant .true, start }, rest)
    | ⟨.word "False", _⟩ :: rest => some ({ expr := .constant .false, start }, rest)
    | ⟨.word _, _⟩ :: _ => (name? ts).map fun (id, rest) => ({ expr := .name id, start }, rest)
    | ⟨.number c, _⟩ :: rest => some ({ expr := .constant c, start }, rest)
    | ⟨.text _, _⟩ :: _ => do
      let (written, rest) := literals ts
      let e ← textLiteral fuel written
      return ({ expr := e, start }, rest)
    | ⟨.mark "...", _⟩ :: rest => some ({ expr := .constant .ellipsis, start }, rest)
    | ⟨.mark "(", _⟩ :: rest => parenthesized fuel start rest
    | ⟨.mark "[", _⟩ :: rest => bracketed fuel start rest
    | ⟨.mark "\x7b", _⟩ :: rest => braced fuel start rest
    | _ => none

/-- Adjacent literals: all of bytes, or none. -/
def textLiteral : Nat → List TextLiteral.Written → Option Expr
  | 0, _ => none
  | fuel + 1, written =>
    let marked := (written.head?.map (·.marked)).getD false
    if written.any (·.isBytes) then
      if written.all (·.isBytes) then
        (written.mapM TextLiteral.bytesValue).map fun parts => .constant (.bytes parts.flatten)
      else none
    else do
      let pieces ← literalPieces fuel marked written
      if written.any (·.isFormatted) then return joinPieces marked pieces
      let chars := pieces.flatMap fun
        | .literal chars => chars
        | .field _ => []
      return .constant (.text (String.ofList chars) marked)

def literalPieces : Nat → Bool → List TextLiteral.Written → Option (List Piece)
  | 0, _, _ => none
  | _, _, [] => some []
  | fuel + 1, marked, w :: ws => do
    let here ←
      if w.isFormatted then do
        let segments ← Formatted.segments w.isRaw w.body
        segmentPieces fuel marked segments
      else (TextLiteral.textValue w.isRaw w.body).map fun chars => [.literal chars]
    let more ← literalPieces fuel marked ws
    return here ++ more

def segmentPieces : Nat → Bool → List Formatted.Segment → Option (List Piece)
  | 0, _, _ => none
  | _, _, [] => some []
  | fuel + 1, marked, .literal chars :: more => do
    let rest ← segmentPieces fuel marked more
    return .literal chars :: rest
  | fuel + 1, marked, .field source shown conversion format :: more => do
    let ts ← Token.scanAll ('(' :: source ++ [')'])
    let (value, _) ← starExpressions fuel ts
    let spec ← match format with
      | none => some none
      | some inner => (segmentPieces fuel marked inner).map (some ∘ joinPieces marked)
    let conversion :=
      if conversion.isNone && shown.isSome && format.isNone then some 'r' else conversion
    let rest ← segmentPieces fuel marked more
    return .literal (shown.getD []) :: .field (.formatted value.expr conversion spec) :: rest

/-- Expressions apart by commas, starred ones too: a tuple when there is a comma. -/
def starExpressions : Nat → List Lexeme → Option (Phrase × List Lexeme)
  | 0, _ => none
  | fuel + 1, ts => do
    let (first, rest) ← starExpression fuel ts
    if atMark "," rest then
      let (more, rest) ← starExpressionTail fuel rest
      return ({ expr := .tuple (first.expr :: more), start := place ts }, rest)
    return (first, rest)

def starExpressionTail : Nat → List Lexeme → Option ((List Expr) × List Lexeme)
  | 0, _ => none
  | fuel + 1, ts =>
    match mark? "," ts with
    | none => some ([], ts)
    | some rest =>
      match starExpression fuel rest with
      | none => some ([], rest)
      | some (e, rest) => do
        let (more, rest) ← starExpressionTail fuel rest
        return (e.expr :: more, rest)

def starExpression : Nat → List Lexeme → Option (Phrase × List Lexeme)
  | 0, _ => none
  | fuel + 1, ts =>
    match mark? "*" ts with
    | some rest => do
      let (e, rest) ← binary fuel binaryLevels rest
      return ({ expr := .starred e.expr, start := place ts }, rest)
    | none => expression fuel ts

/-- An element of a tuple, list or set. -/
def element : Nat → List Lexeme → Option (Phrase × List Lexeme)
  | 0, _ => none
  | fuel + 1, ts =>
    match mark? "*" ts with
    | some rest => do
      let (e, rest) ← binary fuel binaryLevels rest
      return ({ expr := .starred e.expr, start := place ts }, rest)
    | none => named fuel ts

/-- The elements behind the first one, up to the closing mark. -/
def elementTail : Nat → String → List Lexeme → Option ((List Expr) × List Lexeme)
  | 0, _, _ => none
  | fuel + 1, closing, ts =>
    match mark? closing ts with
    | some rest => some ([], rest)
    | none => do
      let rest ← mark? "," ts
      match mark? closing rest with
      | some rest => return ([], rest)
      | none =>
        let (e, rest) ← element fuel rest
        let (more, rest) ← elementTail fuel closing rest
        return (e.expr :: more, rest)

/-- Behind an opening parenthesis: a tuple, a generator, a yield, or one expression in brackets,
    which keeps its own place. -/
def parenthesized : Nat → Place → List Lexeme → Option (Phrase × List Lexeme)
  | 0, _, _ => none
  | fuel + 1, start, ts =>
    match mark? ")" ts with
    | some rest => some ({ expr := .tuple [], start }, rest)
    | none =>
    match keyword? "yield" ts with
    | some rest => do
      let (e, rest) ← yielded fuel rest
      let rest ← mark? ")" rest
      return ({ expr := e, start := place ts }, rest)
    | none => do
      let isStarred := atMark "*" ts
      let (first, rest) ← element fuel ts
      if atMark "," rest then
        let (more, rest) ← elementTail fuel ")" rest
        return ({ expr := .tuple (first.expr :: more), start }, rest)
      if isStarred then none
      if atKeyword "for" rest || atKeyword "async" rest then
        let (gens, rest) ← generators fuel rest
        let rest ← mark? ")" rest
        return ({ expr := .generatorExp first.expr gens, start }, rest)
      let rest ← mark? ")" rest
      return (first, rest)

def yielded : Nat → List Lexeme → Option (Expr × List Lexeme)
  | 0, _ => none
  | fuel + 1, ts =>
    match keyword? "from" ts with
    | some rest => (expression fuel rest).map fun (e, rest) => (.yieldFrom e.expr, rest)
    | none =>
      if atMark ")" ts then some (.yield none, ts)
      else (starExpressions fuel ts).map fun (e, rest) => (.yield (some e.expr), rest)

def bracketed : Nat → Place → List Lexeme → Option (Phrase × List Lexeme)
  | 0, _, _ => none
  | fuel + 1, start, ts =>
    match mark? "]" ts with
    | some rest => some ({ expr := .list [], start }, rest)
    | none => do
      let isStarred := atMark "*" ts
      let (first, rest) ← element fuel ts
      if !isStarred && (atKeyword "for" rest || atKeyword "async" rest) then
        let (gens, rest) ← generators fuel rest
        let rest ← mark? "]" rest
        return ({ expr := .listComp first.expr gens, start }, rest)
      let (more, rest) ← elementTail fuel "]" rest
      return ({ expr := .list (first.expr :: more), start }, rest)

def braced : Nat → Place → List Lexeme → Option (Phrase × List Lexeme)
  | 0, _, _ => none
  | fuel + 1, start, ts =>
    match mark? "\x7d" ts with
    | some rest => some ({ expr := .dict [], start }, rest)
    | none =>
      if atMark "**" ts then do
        let (items, rest) ← dictItems fuel ts
        return ({ expr := .dict items, start }, rest)
      else do
        let isStarred := atMark "*" ts
        let isNamed := (nameBefore? ":=" ts).isSome
        let (first, rest) ← element fuel ts
        if !isStarred && !isNamed && atMark ":" rest then
          let rest ← mark? ":" rest
          let (value, rest) ← expression fuel rest
          if atKeyword "for" rest || atKeyword "async" rest then
            let (gens, rest) ← generators fuel rest
            let rest ← mark? "\x7d" rest
            return ({ expr := .dictComp first.expr value.expr gens, start }, rest)
          let (items, rest) ← dictTail fuel rest
          return ({ expr := .dict (.pair first.expr value.expr :: items), start }, rest)
        if !isStarred && (atKeyword "for" rest || atKeyword "async" rest) then
          let (gens, rest) ← generators fuel rest
          let rest ← mark? "\x7d" rest
          return ({ expr := .setComp first.expr gens, start }, rest)
        let (more, rest) ← elementTail fuel "\x7d" rest
        return ({ expr := .set (first.expr :: more), start }, rest)

def dictItems : Nat → List Lexeme → Option ((List DictItem) × List Lexeme)
  | 0, _ => none
  | fuel + 1, ts => do
    let (item, rest) ← dictItem fuel ts
    let (items, rest) ← dictTail fuel rest
    return (item :: items, rest)

def dictTail : Nat → List Lexeme → Option ((List DictItem) × List Lexeme)
  | 0, _ => none
  | fuel + 1, ts =>
    match mark? "\x7d" ts with
    | some rest => some ([], rest)
    | none => do
      let rest ← mark? "," ts
      match mark? "\x7d" rest with
      | some rest => return ([], rest)
      | none => dictItems fuel rest

def dictItem : Nat → List Lexeme → Option (DictItem × List Lexeme)
  | 0, _ => none
  | fuel + 1, ts =>
    match mark? "**" ts with
    | some rest => (binary fuel binaryLevels rest).map fun (e, rest) => (.spread e.expr, rest)
    | none => do
      let (key, rest) ← expression fuel ts
      let rest ← mark? ":" rest
      let (value, rest) ← expression fuel rest
      return (.pair key.expr value.expr, rest)

/-- One or more `for` clauses. -/
def generators : Nat → List Lexeme → Option ((List Generator) × List Lexeme)
  | 0, _ => none
  | fuel + 1, ts => do
    let isAsync := atKeyword "async" ts
    let rest := (keyword? "async" ts).getD ts
    let rest ← keyword? "for" rest
    let (target, rest) ← targets fuel rest
    let rest ← keyword? "in" rest
    let (source, rest) ← disjunction fuel rest
    let (conditions, rest) ← conditions fuel rest
    let g := Generator.mk isAsync target source.expr conditions
    if atKeyword "for" rest || atKeyword "async" rest then
      let (more, rest) ← generators fuel rest
      return (g :: more, rest)
    return ([g], rest)

def conditions : Nat → List Lexeme → Option ((List Expr) × List Lexeme)
  | 0, _ => none
  | fuel + 1, ts =>
    match keyword? "if" ts with
    | none => some ([], ts)
    | some rest => do
      let (e, rest) ← disjunction fuel rest
      let (more, rest) ← conditions fuel rest
      return (e.expr :: more, rest)

/-- The target of a `for`: one target, or a tuple when there is a comma. -/
def targets : Nat → List Lexeme → Option (Expr × List Lexeme)
  | 0, _ => none
  | fuel + 1, ts => do
    let (first, rest) ← target fuel ts
    if atMark "," rest then
      let (more, rest) ← targetTail fuel rest
      return (.tuple (first :: more), rest)
    return (first, rest)

def targetTail : Nat → List Lexeme → Option ((List Expr) × List Lexeme)
  | 0, _ => none
  | fuel + 1, ts =>
    match mark? "," ts with
    | none => some ([], ts)
    | some rest =>
      if atKeyword "in" rest then some ([], rest)
      else do
        let (e, rest) ← target fuel rest
        let (more, rest) ← targetTail fuel rest
        return (e :: more, rest)

def target : Nat → List Lexeme → Option (Expr × List Lexeme)
  | 0, _ => none
  | fuel + 1, ts => do
    let (isStarred, rest) := match mark? "*" ts with
      | some rest => (true, rest)
      | none => (false, ts)
    let (e, rest) ← primary fuel rest
    if !isTarget e.expr then none
    return (if isStarred then .starred e.expr else e.expr, rest)

end

/-- More calls than can happen between two words. -/
def stepsPerWord : Nat := 32

/-- Only line breaks are left. -/
def isDone (ts : List Lexeme) : Bool := ts.all fun t => t.token == .newline

/-- The expressions behind the first one; a comma may end the list. -/
def expressionTail : Nat → List Lexeme → Option (List Expr × List Lexeme)
  | 0, _ => none
  | fuel + 1, ts =>
    match mark? "," ts with
    | none => some ([], ts)
    | some rest =>
      if isDone rest then some ([], rest)
      else do
        let (e, rest) ← expression fuel rest
        let (more, rest) ← expressionTail fuel rest
        return (e.expr :: more, rest)

/-- The expression that fills the whole text, or the tuple of several apart by commas. -/
def phrase? (cs : List Char) : Option Phrase := do
  let ts ← Token.scanAll cs
  let fuel := stepsPerWord * (cs.length + 4)
  let (first, rest) ← expression fuel ts
  if atMark "," rest then
    let (more, rest) ← expressionTail fuel rest
    if isDone rest then return { expr := .tuple (first.expr :: more), start := place ts } else none
  if isDone rest then return first else none

end Bindery.Reader
