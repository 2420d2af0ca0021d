import Bindery.Body.Basic

/- The grammar of a module body. It accepts every current program and some that are out of date or
   not quite programs: what matters is where definitions begin, not whether the code would run. An
   error is the place where no reading goes on. All functions take fuel, which only `Body.read`
   supplies. -/
namespace Bindery.Body.Reader

/-! ### Operators and first characters -/

def binaryMarks : List String :=
  ["**", "//", "<<", ">>", "*", "/", "%", "@", "+", "-", "|", "&", "^"]

def comparisonMarks : List String := ["<=", ">=", "==", "!=", "<>", "<", ">"]

def assigningMarks : List String :=
  ["+=", "-=", "*=", "/=", "@=", "//=", "%=", "**=", ">>=", "<<=", "&=", "^=", "|="]

def markIn? (marks : List String) (c : Cursor) : Option Cursor := marks.findSome? fun m => c.mark? m

/-- An operator that does not also assign. -/
def binaryMark? (c : Cursor) : Option Cursor :=
  match markIn? binaryMarks c with
  | some d => if d.atMark "=" then none else some d
  | none => none

/-- `in`, `not in`, `is` and `is not`. -/
def membershipWord? (c : Cursor) : Option Cursor :=
  match c.word? with
  | some ("in", c) => some c
  | some ("not", c) =>
    match c.visible? .nothing with
    | some c => if c.atWord "in" then some (c.skip 2) else none
    | none => none
  | some ("is", c) =>
    match c.visible? .operand with
    | some d => if d.atWord "not" then some (d.skip 3) else some c
    | none => some c
  | _ => none

/-- An operator between two operands. -/
def operator? (c : Cursor) : Option Cursor :=
  match binaryMark? c with
  | some c => some c
  | none =>
    match markIn? comparisonMarks c with
    | some c => some c
    | none => membershipWord? c

def isAssignment (c : Cursor) : Bool := c.atMark "=" && !c.atMark "=="

/-- Words that begin an expression though they name nothing. -/
def openingWords : List String := ["True", "False", "None", "not", "lambda"]

/-- Whether an expression can begin here. -/
def opens (c : Cursor) : Bool :=
  c.quotation?.isSome || c.number?.isSome || c.atMark "..." ||
    (match c.word? with
     | some (w, _) => openingWords.contains w || !reserved.contains w
     | none => ['(', '[', '\x7b', '+', '-', '~', '*'].any fun m => c.rest.head? == some m)

/-- Whether the operand of `await` follows, and not an operator behind a name. -/
def opensAwaited (c : Cursor) : Bool :=
  opens c && !c.atMark "+" && !c.atMark "-" && !c.atMark "*" &&
    !c.atWord "not" && !c.atWord "lambda"

def atClause (c : Cursor) : Bool := c.atWord "for" || c.atWord "async"

/-! ### Dotted names -/

/-- The rest of a dotted name, whose last part ends here. -/
def dottedRest (t : Tail) : Nat → Cursor → Except Cursor Cursor
  | 0, c => .error c
  | fuel + 1, c =>
    match c.visible? t.expect with
    | none => .ok c
    | some d =>
      if d.atMark "." then do
        let e ← d.step.see .nothing
        let (_, e) ← e.passName
        dottedRest t fuel e
      else .ok c

def dottedName (t : Tail) (fuel : Nat) (c : Cursor) : Except Cursor Cursor := do
  let (_, c) ← c.passName
  dottedRest t fuel c

/-! ### Words that decide -/

/-- The operand behind `await`. -/
def awaited? (t : Tail) (c : Cursor) : Option Cursor :=
  if c.atWord "await" then
    match (c.skip 5).visible? t.expectMore with
    | some d => if opensAwaited d then some d else none
    | none => none
  else none

/-- The place behind a name and an equals sign. -/
def named? (x : Expect) (c : Cursor) : Option Cursor :=
  if c.quotation?.isSome then none
  else match c.name? with
    | some (_, d) =>
      match d.visible? x with
      | some d => if isAssignment d then some d.step else none
      | none => none
    | none => none

/-- The numbers of a pattern: an optional sign, a number, and the imaginary part of a sum. -/
def caseNumber (t : Tail) (c : Cursor) : Except Cursor Cursor := do
  let c ← if c.atMark "-" then c.step.see .nothing else .ok c
  match c.number? with
  | none => .error c
  | some c =>
    match c.visible? t.expect with
    | none => .ok c
    | some d =>
      if d.atMark "+" || d.atMark "-" then
        let e ← d.step.see .nothing
        match e.number? with
        | some e => .ok e
        | none => .error e
      else .ok c

mutual

/-- A whole expression. -/
def expression (t : Tail) : Nat → Cursor → Except Cursor (Shape × Cursor)
  | 0, c => .error c
  | fuel + 1, c =>
    if c.atWord "not" then do
      let c ← (c.skip 3).see .operand
      let (_, c) ← expression t fuel c
      return (.other, c)
    else if c.atWord "lambda" then do
      let c ← (c.skip 6).see .nothing
      let c ← if c.atMark ":" then .ok c else parameters false fuel c
      let c ← c.see .nothing
      let c ← c.pass ":"
      let c ← c.see .operand
      let (_, c) ← expression t fuel c
      return (.other, c)
    else do
      let (shape, c) ← operand t fuel c
      let (shape, c) ← chain t fuel shape c
      continuation t fuel shape c

/-- What may follow an expression and make a larger one of it. -/
def continuation (t : Tail) : Nat → Shape → Cursor → Except Cursor (Shape × Cursor)
  | 0, _, c => .error c
  | fuel + 1, shape, c =>
    match c.visible? t.expect with
    | none => .ok (shape, c)
    | some d =>
      let larger (d : Cursor) : Except Cursor (Shape × Cursor) := do
        let d ← d.see .operand
        let (_, d) ← expression t fuel d
        return (.other, d)
      if shape = .name && d.atMark ":=" then larger (d.skip 2)
      else if d.atWord "and" then larger (d.skip 3)
      else if d.atWord "or" || d.atWord "as" then larger (d.skip 2)
      else if t.conditional && d.atWord "if" then do
        let d ← (d.skip 2).see .operand
        let (_, d) ← expression {} fuel d
        let d ← d.see .nothing
        let d ← d.passWord "else"
        larger d
      else .ok (shape, c)

/-- Further operands behind operators. -/
def chain (t : Tail) : Nat → Shape → Cursor → Except Cursor (Shape × Cursor)
  | 0, _, c => .error c
  | fuel + 1, shape, c =>
    match (c.visible? t.expect).bind operator? with
    | none => .ok (shape, c)
    | some d => do
      let d ← d.see .operand
      let (_, d) ← operand t fuel d
      chain t fuel .other d

/-- An operand with its signs and all that is attached to it. -/
def operand (t : Tail) : Nat → Cursor → Except Cursor (Shape × Cursor)
  | 0, c => .error c
  | fuel + 1, c =>
    if c.quotation?.isNone && (c.atMark "+" || c.atMark "-" || c.atMark "~") then do
      let c ← c.step.see .operand
      let (_, c) ← operand t fuel c
      return (.other, c)
    else if c.atMark "*" then do
      let d ← c.step.see .operand
      let (shape, d) ← operand t fuel d
      if shape.isSimpleTarget then return (.targets, d) else .error d
    else match awaited? t c with
    | some d => do
      let (_, d) ← operand t fuel d
      return (.other, d)
    | none => do
      let (shape, c) ← atom t fuel c
      attachments t fuel shape c

def atom (t : Tail) : Nat → Cursor → Except Cursor (Shape × Cursor)
  | 0, c => .error c
  | fuel + 1, c =>
    match c.quotation? with
    | some (q, d) => do
      let d ← quoted q fuel d
      let d ← moreQuoted t fuel d
      return (.other, d)
    | none =>
    match c.number? with
    | some d => .ok (.other, d)
    | none =>
    match c.word? with
    | some (w, d) =>
      if w = "True" || w = "False" || w = "None" then .ok (.other, d)
      else if reserved.contains w then .error c
      else .ok (.name, d)
    | none =>
    match c.rest with
    | '.' :: '.' :: '.' :: _ => .ok (.other, c.skip 3)
    | '(' :: _ => do
      let d ← c.step.see .element
      bracketed ")" fuel d
    | '[' :: _ => do
      let d ← c.step.see .element
      bracketed "]" fuel d
    | '\x7b' :: _ => do
      let d ← c.step.see .element
      braced fuel d
    | _ => .error c

/-- Attributes, subscripts and calls behind an atom. -/
def attachments (t : Tail) : Nat → Shape → Cursor → Except Cursor (Shape × Cursor)
  | 0, _, c => .error c
  | fuel + 1, shape, c =>
    match c.visible? t.expect with
    | none => .ok (shape, c)
    | some d =>
      match d.rest with
      | '.' :: _ => do
        let e ← d.step.see .nothing
        let (_, e) ← e.passName
        attachments t fuel .attribute e
      | '[' :: _ => do
        let e ← d.step.see .operand
        let e ← subscripts fuel e
        attachments t fuel (.subscript c.offset) e
      | '(' :: _ => do
        let e ← d.step.see .element
        let (_, e) ← arguments true fuel e
        attachments t fuel .other e
      | _ => .ok (shape, c)

/-- The rest of a quoted text. -/
def quoted (q : Quotation) : Nat → Cursor → Except Cursor Cursor
  | 0, c => .error c
  | fuel + 1, c =>
    match c.piece q with
    | .more d => quoted q fuel d
    | .ended d => .ok d
    | .stuck => .error c
    | .field d => do
      let d ← field fuel d.step
      quoted q fuel d

/-- Quoted texts that follow one another are one. -/
def moreQuoted (t : Tail) : Nat → Cursor → Except Cursor Cursor
  | 0, c => .error c
  | fuel + 1, c =>
    match (c.visible? t.expectMore).bind Cursor.quotation? with
    | none => .ok c
    | some (q, d) => do
      let d ← quoted q fuel d
      moreQuoted t fuel d

/-- A field of formatted text, from behind its opening brace. -/
def field : Nat → Cursor → Except Cursor Cursor
  | 0, c => .error c
  | fuel + 1, c => do
    let c ← c.see .operand
    let c ← if c.atWord "yield" then yielded .inBrackets fuel (c.skip 5)
      else (·.2) <$> expressions .inBrackets fuel c
    let c ← c.see .element
    let c ← if isAssignment c then c.step.see .element else .ok c
    let c ← match c.rest with
      | '!' :: x :: _ => if x.isLower then (c.skip 2).see .element else .error c
      | _ => .ok c
    let c ← if c.atMark ":" then format fuel c.step else .ok c
    c.pass "\x7d"

/-- The format of a field, up to the closing brace. -/
def format : Nat → Cursor → Except Cursor Cursor
  | 0, c => .error c
  | fuel + 1, c =>
    match c.rest with
    | [] => .error c
    | x :: _ =>
      if x = '\x7d' then .ok c
      else if x = '\x7b' then do
        let c ← field fuel c.step
        format fuel c
      else format fuel c.step

/-- One element of brackets. -/
def element : Nat → Cursor → Except Cursor (Shape × Cursor)
  | 0, c => .error c
  | fuel + 1, c =>
    if c.atWord "yield" then do
      let c ← yielded .inBrackets fuel (c.skip 5)
      return (.starred, c)
    else if c.atMark "*" && !c.atMark "**" then do
      let c ← c.step.see .operand
      let (shape, c) ← expression .inBrackets fuel c
      return (shape.afterStar, c)
    else expression .inBrackets fuel c

/-- The inside of round or square brackets, and the closing one. -/
def bracketed (close : String) : Nat → Cursor → Except Cursor (Shape × Cursor)
  | 0, c => .error c
  | fuel + 1, c =>
    if c.atMark close then .ok (.targets, c.step)
    else do
      let (shape, c) ← element fuel c
      let c ← c.see .element
      if shape ≠ .starred && atClause c then
        let c ← clauses fuel c
        let c ← c.pass close
        return (.other, c)
      else
        let (all, c) ← elements close fuel c
        return (.ofElements (shape.isTarget && all), c)

/-- Further elements, from behind an element on, and the closing bracket. -/
def elements (close : String) : Nat → Cursor → Except Cursor (Bool × Cursor)
  | 0, c => .error c
  | fuel + 1, c =>
    if c.atMark close then .ok (true, c.step)
    else do
      let c ← c.pass ","
      let c ← c.see .element
      if c.atMark close then return (true, c.step)
      let (shape, c) ← element fuel c
      let c ← c.see .element
      let (all, c) ← elements close fuel c
      return (shape.isTarget && all, c)

/-- The inside of braces, and the closing one: a dictionary or a set. -/
def braced : Nat → Cursor → Except Cursor (Shape × Cursor)
  | 0, c => .error c
  | fuel + 1, c =>
    if c.atMark "\x7d" then .ok (.other, c.step)
    else if c.atMark "," then do
      let c ← c.step.see .element
      let c ← c.pass "\x7d"
      return (.other, c)
    else if c.atMark "**" then do
      let c ← entry fuel c
      let c ← c.see .element
      let c ← entries fuel c
      return (.other, c)
    else do
      let (shape, c) ← element fuel c
      let c ← c.see .element
      if shape ≠ .starred && c.atMark ":" then
        let c ← c.step.see .operand
        let (_, c) ← expression .inBrackets fuel c
        let c ← c.see .element
        if atClause c then
          let c ← clauses fuel c
          let c ← c.pass "\x7d"
          return (.other, c)
        else
          let c ← entries fuel c
          return (.other, c)
      else if shape ≠ .starred && atClause c then
        let c ← clauses fuel c
        let c ← c.pass "\x7d"
        return (.other, c)
      else
        let (_, c) ← elements "\x7d" fuel c
        return (.other, c)

/-- One entry of a dictionary. -/
def entry : Nat → Cursor → Except Cursor Cursor
  | 0, c => .error c
  | fuel + 1, c =>
    if c.atMark "**" then do
      let c ← (c.skip 2).see .operand
      (·.2) <$> expression .inBrackets fuel c
    else do
      let (_, c) ← expression {} fuel c
      let c ← c.see .nothing
      let c ← c.pass ":"
      let c ← c.see .operand
      (·.2) <$> expression .inBrackets fuel c

/-- Further entries, and the closing brace. -/
def entries : Nat → Cursor → Except Cursor Cursor
  | 0, c => .error c
  | fuel + 1, c =>
    if c.atMark "\x7d" then .ok c.step
    else do
      let c ← c.pass ","
      let c ← c.see .element
      if c.atMark "\x7d" then return c.step
      let c ← entry fuel c
      let c ← c.see .element
      entries fuel c

/-- The clauses of a comprehension, up to what follows them. -/
def clauses : Nat → Cursor → Except Cursor Cursor
  | 0, c => .error c
  | fuel + 1, c =>
    if atClause c then do
      let c ← if c.atWord "async" then (c.skip 5).see .nothing else .ok c
      let c ← c.passWord "for"
      let c ← c.see .nothing
      let c ← targetList fuel c
      let c ← c.see .nothing
      let c ← c.passWord "in"
      let c ← c.see .operand
      let (_, c) ← expression .inClause fuel c
      let c ← c.see .element
      let c ← clauseSources fuel c
      clauses fuel c
    else if c.atWord "if" then do
      let c ← (c.skip 2).see .operand
      let (_, c) ← expression .inClause fuel c
      let c ← c.see .element
      clauses fuel c
    else .ok c

/-- Further expressions to run through, in one clause. -/
def clauseSources : Nat → Cursor → Except Cursor Cursor
  | 0, c => .error c
  | fuel + 1, c =>
    if c.atMark "," then do
      let c ← c.step.see .element
      if opens c && !atClause c then
        let (_, c) ← expression .inClause fuel c
        let c ← c.see .element
        clauseSources fuel c
      else return c
    else .ok c

/-- The inside of a subscript, and the closing bracket. -/
def subscripts : Nat → Cursor → Except Cursor Cursor
  | 0, c => .error c
  | fuel + 1, c => do
    let c ← slice fuel c
    if c.atMark "]" then return c.step
    let c ← c.pass ","
    let c ← c.see .element
    if c.atMark "]" then return c.step
    subscripts fuel c

/-- An expression, or up to three that are optional and parted by colons. -/
def slice : Nat → Cursor → Except Cursor Cursor
  | 0, c => .error c
  | fuel + 1, c => do
    let c ← if c.atMark ":" then .ok c else slicePart fuel c
    if !c.atMark ":" then return c
    let c ← c.step.see .element
    let c ← if opens c then slicePart fuel c else .ok c
    if !c.atMark ":" then return c
    let c ← c.step.see .element
    if opens c then slicePart fuel c else return c

def slicePart : Nat → Cursor → Except Cursor Cursor
  | 0, c => .error c
  | fuel + 1, c => do
    let (_, c) ← expression .inBrackets fuel c
    c.see .element

/-- The inside of the brackets of a call or a list of bases, and the closing bracket. The arguments
    come with the places where they begin and end. -/
def arguments (generator : Bool) :
    Nat → Cursor → Except Cursor (List (Shape × Cursor × Nat) × Cursor)
  | 0, c => .error c
  | fuel + 1, c =>
    if c.atMark ")" then .ok ([], c.step)
    else if c.atMark "," then do
      let c ← c.step.see .element
      let c ← c.pass ")"
      return ([], c)
    else do
      let (shape, d) ← argument fuel c
      let e ← d.see .element
      if generator && shape ≠ .starred && atClause e then
        let e ← clauses fuel e
        let e ← e.pass ")"
        return ([], e)
      else
        let (more, e) ← moreArguments fuel e
        return ((shape, c, d.offset) :: more, e)

def moreArguments : Nat → Cursor → Except Cursor (List (Shape × Cursor × Nat) × Cursor)
  | 0, c => .error c
  | fuel + 1, c =>
    if c.atMark ")" then .ok ([], c.step)
    else do
      let c ← c.pass ","
      let c ← c.see .element
      if c.atMark ")" then return ([], c.step)
      let (shape, d) ← argument fuel c
      let e ← d.see .element
      let (more, e) ← moreArguments fuel e
      return ((shape, c, d.offset) :: more, e)

/-- One argument. With a name or a star it is no base. -/
def argument : Nat → Cursor → Except Cursor (Shape × Cursor)
  | 0, c => .error c
  | fuel + 1, c =>
    if c.atMark "*" then do
      let c ← (c.skip (if c.atMark "**" then 2 else 1)).see .operand
      let (_, c) ← expression .inBrackets fuel c
      return (.starred, c)
    else match named? .element c with
    | some d => do
      let d ← d.see .operand
      let (_, d) ← expression .inBrackets fuel d
      return (.starred, d)
    | none => expression .inBrackets fuel c

/-- What follows `yield`. -/
def yielded (t : Tail) : Nat → Cursor → Except Cursor Cursor
  | 0, c => .error c
  | fuel + 1, c =>
    match c.visible? t.expectMore with
    | none => .ok c
    | some d =>
      if d.atWord "from" then do
        let d ← (d.skip 4).see .operand
        (·.2) <$> expression t fuel d
      else if opens d then (·.2) <$> expressions t fuel d
      else .ok c

/-- One or more expressions with commas between them and perhaps one behind. The flag says whether
    all are targets. -/
def expressions (t : Tail) : Nat → Cursor → Except Cursor (Bool × Cursor)
  | 0, c => .error c
  | fuel + 1, c => do
    let (shape, c) ← expression t fuel c
    let (all, c) ← moreExpressions t fuel c
    return (shape.isTarget && all, c)

def moreExpressions (t : Tail) : Nat → Cursor → Except Cursor (Bool × Cursor)
  | 0, c => .error c
  | fuel + 1, c =>
    match c.visible? t.expect with
    | none => .ok (true, c)
    | some d =>
      if d.atMark "," then
        match d.step.visible? t.expectMore with
        | none => .ok (true, d.step)
        | some e =>
          if opens e then do
            let (shape, e) ← expression t fuel e
            let (all, e) ← moreExpressions t fuel e
            return (shape.isTarget && all, e)
          else .ok (true, d.step)
      else .ok (true, c)

/-- One or more targets. -/
def targetList : Nat → Cursor → Except Cursor Cursor
  | 0, c => .error c
  | fuel + 1, c => do
    let (shape, d) ← operand {} fuel c
    if !shape.isTarget then .error c
    else
      let e ← d.see .nothing
      if e.atMark "," then
        let e ← e.step.see .nothing
        if e.atWord "in" then return e else targetList fuel e
      else return d

/-- Parameters with commas between them; the brackets of a function are not part of them. In a
    function they may have types. -/
def parameters (typed : Bool) : Nat → Cursor → Except Cursor Cursor
  | 0, c => .error c
  | fuel + 1, c => do
    let close := if typed then ")" else ":"
    let t : Tail := { closer := typed }
    let c ← parameter typed fuel c
    let d ← c.see t.expect
    if d.atMark "," then
      let d ← d.step.see t.expect
      if d.atMark close then return d else parameters typed fuel d
    else return c

def parameter (typed : Bool) : Nat → Cursor → Except Cursor Cursor
  | 0, c => .error c
  | fuel + 1, c => do
    let t : Tail := { closer := typed }
    let starred (c : Cursor) : Except Cursor Cursor := do
      let (shape, d) ← operand t fuel c
      if shape.isSimpleTarget then annotated typed fuel d else .error c
    if c.atMark "**" then
      let c ← (c.skip 2).see .nothing
      starred c
    else if c.atMark "*" then
      match c.step.visible? t.expect with
      | none => return c.step
      | some d => if opens d then starred d else return c.step
    else if c.atMark "/" then return c.step
    else if c.atMark "(" then
      let (shape, d) ← atom t fuel c
      if shape ≠ .targets then .error c else defaultValue t fuel d
    else
      let (_, d) ← c.passName
      let d ← annotated typed fuel d
      defaultValue t fuel d

/-- The type of a parameter, if one follows. -/
def annotated (typed : Bool) : Nat → Cursor → Except Cursor Cursor
  | 0, c => .error c
  | fuel + 1, c =>
    if !typed then .ok c
    else match c.visible? Tail.inBrackets.expect with
    | none => .ok c
    | some d =>
      if d.atMark ":" then do
        let d ← d.step.see .operand
        typeExpr .inBrackets true fuel d
      else .ok c

/-- The default value of a parameter, if one follows. -/
def defaultValue (t : Tail) : Nat → Cursor → Except Cursor Cursor
  | 0, c => .error c
  | fuel + 1, c =>
    match c.visible? t.expect with
    | none => .ok c
    | some d =>
      if isAssignment d then do
        let d ← d.step.see .operand
        (·.2) <$> expression t fuel d
      else .ok c

/-- A type: an expression, a starred name, or a name with types in brackets. With `constrained` a
    colon and a further type may follow. -/
def typeExpr (t : Tail) (constrained : Bool) : Nat → Cursor → Except Cursor Cursor
  | 0, c => .error c
  | fuel + 1, c => do
    let c ← firstOf ((·.2) <$> expression t fuel c) fun _ => do
      if c.atMark "**" then
        let c ← (c.skip 2).see .nothing
        (·.2) <$> c.passName
      else
        let (_, c) ← c.passName
        let c ← c.see .nothing
        typeList fuel c
    match c.visible? t.expect with
    | none => return c
    | some d =>
      if d.atMark "|" || (constrained && d.atMark ":") then
        let d ← d.step.see .operand
        typeExpr t constrained fuel d
      else return c

/-- Types in square brackets. -/
def typeList : Nat → Cursor → Except Cursor Cursor
  | 0, c => .error c
  | fuel + 1, c => do
    let c ← c.pass "["
    let c ← c.see .operand
    types fuel c

def types : Nat → Cursor → Except Cursor Cursor
  | 0, c => .error c
  | fuel + 1, c => do
    let c ← typeExpr .inBrackets true fuel c
    let c ← c.see .element
    if c.atMark "]" then return c.step
    let c ← c.pass ","
    let c ← c.see .element
    if c.atMark "]" then return c.step
    types fuel c

end

/-! ### Patterns of cases -/

mutual

/-- A pattern with the names it is bound to. -/
def casePattern (t : Tail) : Nat → Cursor → Except Cursor Cursor
  | 0, c => .error c
  | fuel + 1, c => do
    let c ← match named? t.expect c with
      | some d => do
        let d ← d.see .operand
        caseChoice t fuel d
      | none => caseChoice t fuel c
    caseBindings t fuel c

def caseBindings (t : Tail) : Nat → Cursor → Except Cursor Cursor
  | 0, c => .error c
  | fuel + 1, c =>
    match c.visible? t.expect with
    | none => .ok c
    | some d =>
      if d.atWord "as" then do
        let d ← (d.skip 2).see .nothing
        let (_, d) ← d.passName
        caseBindings t fuel d
      else .ok c

/-- Alternatives. -/
def caseChoice (t : Tail) : Nat → Cursor → Except Cursor Cursor
  | 0, c => .error c
  | fuel + 1, c => do
    let c ← caseAtom t fuel c
    match c.visible? t.expect with
    | none => return c
    | some d =>
      if d.atMark "|" then
        let d ← d.step.see .operand
        caseChoice t fuel d
      else return c

def caseAtom (t : Tail) : Nat → Cursor → Except Cursor Cursor
  | 0, c => .error c
  | fuel + 1, c =>
    match c.quotation? with
    | some _ => (·.2) <$> atom t fuel c
    | none =>
    if c.number?.isSome || c.atMark "-" then caseNumber t c
    else if c.atMark "*" then do
      let c ← (c.skip (if c.atMark "**" then 2 else 1)).see .nothing
      (·.2) <$> c.passName
    else if c.atMark "(" then do
      let c ← c.step.see .element
      casePatterns ")" fuel c
    else if c.atMark "[" then do
      let c ← c.step.see .element
      casePatterns "]" fuel c
    else if c.atMark "\x7b" then do
      let c ← c.step.see .element
      caseEntries fuel c
    else if c.atWord "True" || c.atWord "None" then .ok (c.skip 4)
    else if c.atWord "False" then .ok (c.skip 5)
    else do
      let c ← dottedName t fuel c
      match c.visible? t.expect with
      | none => return c
      | some d =>
        if d.atMark "(" then
          let d ← d.step.see .element
          casePatterns ")" fuel d
        else return c

/-- Patterns in brackets, and the closing bracket. -/
def casePatterns (close : String) : Nat → Cursor → Except Cursor Cursor
  | 0, c => .error c
  | fuel + 1, c =>
    if c.atMark close then .ok c.step
    else do
      let c ← casePattern .inBrackets fuel c
      let c ← c.see .element
      if c.atMark close then return c.step
      let c ← c.pass ","
      let c ← c.see .element
      casePatterns close fuel c

/-- Entries in braces, and the closing brace. -/
def caseEntries : Nat → Cursor → Except Cursor Cursor
  | 0, c => .error c
  | fuel + 1, c =>
    if c.atMark "\x7d" then .ok c.step
    else do
      let c ← if c.atMark "*" then caseAtom .inBrackets fuel c
        else do
          let c ← caseChoice {} fuel c
          let c ← c.see .nothing
          let c ← c.pass ":"
          let c ← c.see .operand
          casePattern .inBrackets fuel c
      let c ← c.see .element
      if c.atMark "\x7d" then return c.step
      let c ← c.pass ","
      let c ← c.see .element
      caseEntries fuel c

end

end Bindery.Body.Reader
