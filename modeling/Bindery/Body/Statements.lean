import Bindery.Body.Reader

/- The statements of a module body. A block ends where the indentation falls below its own; a block
   without a line is accepted. -/
namespace Bindery.Body

namespace Reader

/-! ### Layout -/

/-- At the beginning of a statement in a block. -/
def lineStart : Expect := { dedent := true, text := true }

/-- Behind the colon that announces a block. -/
def blockStart : Expect := { newline := true, indent := true, text := true }

/-- Whether a simple statement may end here. -/
def ended (c : Cursor) : Except Cursor Cursor :=
  match c.look { newline := true } with
  | (.newline, _) => .ok c
  | (.visible, d) => if d.atMark ";" then .ok c else .error d
  | (_, _) => .error c

/-- The word that continues a compound statement. -/
def continuesWith (words : List String) (c : Cursor) : Option Cursor :=
  match c.visible? lineStart with
  | some d => if words.any d.atWord then some d else none
  | none => none

/-! ### Simple statements -/

def importNames (t : Tail) : Nat → Cursor → Except Cursor Cursor
  | 0, c => .error c
  | fuel + 1, c => do
    let c ← dottedName t (fuel + 1) c
    let c ← match c.visible? t.expect with
      | some d =>
        if d.atWord "as" then do
          let d ← (d.skip 2).see .nothing
          (·.2) <$> d.passName
        else .ok c
      | none => .ok c
    match c.visible? t.expect with
    | none => return c
    | some d =>
      if d.atMark "," then
        match d.step.visible? t.expect with
        | some e => if e.name?.isSome then importNames t fuel e else return d.step
        | none => return d.step
      else return c

/-- The dots in front of a relative import. -/
def importDots : Nat → Cursor → Except Cursor Cursor
  | 0, c => .error c
  | fuel + 1, c => if c.atMark "." then do importDots fuel (← c.step.see .nothing) else .ok c

def importFrom (fuel : Nat) (c : Cursor) : Except Cursor Cursor := do
  let c ← c.see .nothing
  let d ← importDots (fuel + 1) c
  let c ← if c.offset < d.offset && d.atWord "import" then .ok d
    else do (← dottedName {} (fuel + 1) d).see .nothing
  let c ← c.passWord "import"
  let c ← c.see .nothing
  if c.atMark "*" then return c.step
  if c.atMark "(" then
    let c ← c.step.see .nothing
    let c ← importNames .inBrackets (fuel + 1) c
    let c ← c.see .element
    c.pass ")"
  else importNames .inStatement (fuel + 1) c

/-- Names with commas between them. -/
def nameList : Nat → Cursor → Except Cursor Cursor
  | 0, c => .error c
  | fuel + 1, c => do
    let c ← c.see .nothing
    let (_, c) ← c.passName
    match c.visible? Tail.inStatement.expect with
    | some d => if d.atMark "," then nameList fuel d.step else return c
    | none => return c

/-- Expressions, if any follow. -/
def optionalExpressions (fuel : Nat) (c : Cursor) : Except Cursor Cursor :=
  match c.visible? Tail.inStatement.expectMore with
  | some d => if opens d then (·.2) <$> expressions .inStatement fuel d else .ok c
  | none => .ok c

def raised (fuel : Nat) (c : Cursor) : Except Cursor Cursor := do
  let c ← optionalExpressions fuel c
  match c.visible? Tail.inStatement.expect with
  | some d =>
    if d.atWord "from" then
      let d ← (d.skip 4).see .operand
      (·.2) <$> expression .inStatement fuel d
    else return c
  | none => return c

mutual

/-- What may follow targets and make an assignment of them. -/
def assigned (allTargets : Bool) : Nat → Cursor → Except Cursor Cursor
  | 0, c => .error c
  | fuel + 1, c =>
    match c.visible? Tail.inStatement.expect with
    | none => .ok c
    | some d =>
      if isAssignment d then
        if allTargets then do assignedValue fuel (← d.step.see .operand) else .error d
      else if d.atMark ":" then
        if allTargets then do
          let d ← d.step.see .operand
          let d ← typeExpr .inStatement true fuel d
          match d.visible? Tail.inStatement.expect with
          | some e => if isAssignment e then assignedValue fuel (← e.step.see .operand) else return d
          | none => return d
        else .error d
      else match markIn? assigningMarks d with
        | some e => if allTargets then do assignedValue fuel (← e.see .operand) else .error d
        | none => .ok c

/-- The value of an assignment, which may be an assignment again. -/
def assignedValue : Nat → Cursor → Except Cursor Cursor
  | 0, c => .error c
  | fuel + 1, c =>
    if c.atWord "yield" then yielded .inStatement fuel (c.skip 5)
    else do
      let (all, c) ← expressions .inStatement fuel c
      assigned all fuel c

end

def expressionStatement (fuel : Nat) (c : Cursor) : Except Cursor Cursor := do
  let c ← if c.atWord "yield" then yielded .inStatement fuel (c.skip 5)
    else do
      let (all, c) ← expressions .inStatement fuel c
      assigned all fuel c
  ended c

/-- The statement that writes out expressions, perhaps to a file. -/
def printed (fuel : Nat) (c : Cursor) : Except Cursor Cursor := do
  let c ← c.see .operand
  if c.atMark ">>" then
    let c ← (c.skip 2).see .operand
    let (_, c) ← expression .inStatement fuel c
    (·.2) <$> moreExpressions .inStatement fuel c
  else (·.2) <$> expressions .inStatement fuel c

/-- The statement that runs a text, perhaps with names given for it. -/
def executed (fuel : Nat) (c : Cursor) : Except Cursor Cursor := do
  let c ← c.see .operand
  let c ← if c.quotation?.isSome then (·.2) <$> atom .inStatement fuel c else (·.2) <$> c.passName
  match c.visible? Tail.inStatement.expect with
  | some d =>
    if d.atWord "in" then
      let d ← (d.skip 2).see .operand
      (·.2) <$> expressions .inStatement fuel d
    else return c
  | none => return c

/-- The statement that names a type. -/
def typeAlias (fuel : Nat) (c : Cursor) : Except Cursor Cursor := do
  let c ← c.see .operand
  let c ← typeExpr {} true fuel c
  let c ← c.see .nothing
  if isAssignment c then typeExpr .inStatement true fuel (← c.step.see .operand) else .error c

def simpleStatement (fuel : Nat) (c : Cursor) : Except Cursor Cursor :=
  let free (keyword : Nat → Cursor → Except Cursor Cursor) (width : Nat) : Except Cursor Cursor :=
    firstOf (expressionStatement fuel c) fun _ => do ended (← keyword fuel (c.skip width))
  match c.quotation?, c.word? with
  | none, some (w, d) =>
    match w with
    | "import" => do importNames .inStatement (fuel + 1) (← d.see .nothing)
    | "from" => importFrom fuel d
    | "assert" => do (·.2) <$> expressions .inStatement fuel (← d.see .operand)
    | "del" => do (·.2) <$> expressions .inStatement fuel (← d.see .operand)
    | "return" => optionalExpressions fuel d
    | "raise" => raised fuel d
    | "pass" | "break" | "continue" => .ok d
    | "global" | "nonlocal" => nameList fuel d
    | "print" => free printed 5
    | "exec" => free executed 4
    | "type" => free typeAlias 4
    | _ => expressionStatement fuel c
  | _, _ => expressionStatement fuel c

/-- Simple statements on one line. -/
def simpleStatements : Nat → Cursor → Except Cursor Cursor
  | 0, c => .error c
  | fuel + 1, c => do
    let c ← simpleStatement fuel c
    match c.look { newline := true } with
    | (.newline, _) => return c
    | (.visible, d) =>
      if d.atMark ";" then
        match d.step.look { newline := true, text := true } with
        | (.newline, _) => return d.step
        | (.visible, e) => simpleStatements fuel e
        | (_, _) => .error d.step
      else .error d
    | (_, _) => .error c

/-! ### Compound statements -/

/-- The text by which a base is known: of a subscript, what it subscripts. -/
def baseText (found : Shape × Cursor × Nat) : Option String :=
  let (shape, start, stop) := found
  match shape with
  | .name | .attribute => some (start.textUpTo stop)
  | .subscript valueEnd => some (start.textUpTo valueEnd)
  | _ => none

/-- Type parameters, if any follow. -/
def typeParameters (fuel : Nat) (c : Cursor) : Except Cursor Cursor := do
  let d ← c.see .nothing
  if d.atMark "[" then typeList fuel d else return c

/-- From the name of a function up to the colon. -/
def functionHead (fuel : Nat) (c : Cursor) : Except Cursor (String × Cursor) := do
  let c ← c.see .nothing
  let (name, c) ← c.passName
  let c ← typeParameters fuel c
  let c ← c.see .nothing
  let c ← c.pass "("
  let c ← c.see Tail.inBrackets.expect
  let c ← if c.atMark ")" then .ok c else parameters true fuel c
  let c ← c.see Tail.inBrackets.expect
  let c ← c.pass ")"
  let c ← c.see .nothing
  let c ← if c.atMark "->" then do
      let c ← (c.skip 2).see .operand
      let c ← typeExpr {} false fuel c
      c.see .nothing
    else .ok c
  let c ← c.pass ":"
  return (name, c)

/-- From the name of a class up to the colon. -/
def classHead (fuel : Nat) (c : Cursor) : Except Cursor (String × List String × Cursor) := do
  let c ← c.see .nothing
  let (name, c) ← c.passName
  let c ← typeParameters fuel c
  let c ← c.see .nothing
  let (bases, c) ← if c.atMark "(" then do
      let d ← c.step.see .element
      let (found, d) ← arguments false fuel d
      let d ← d.see .nothing
      pure (found.filterMap baseText, d)
    else .ok ([], c)
  let c ← c.pass ":"
  return (name, bases, c)

/-- The patterns and the condition of a case, up to the colon. -/
def caseHead : Nat → Cursor → Except Cursor Cursor
  | 0, c => .error c
  | fuel + 1, c => do
    let c ← casePattern {} fuel c
    let c ← c.see .nothing
    if c.atMark "," then
      let c ← c.step.see .operand
      if c.atMark ":" then return c.step
      if !c.atWord "if" then return ← caseHead fuel c
    let c ← if c.atWord "if" then do
        let c ← (c.skip 2).see .operand
        let (_, c) ← expression {} fuel c
        c.see .nothing
      else .ok c
    c.pass ":"

/-- A condition and the colon behind it. -/
def condition (fuel : Nat) (c : Cursor) : Except Cursor Cursor := do
  let c ← c.see .operand
  let (_, c) ← expression {} fuel c
  let c ← c.see .nothing
  c.pass ":"

/-- Expressions and the colon behind them. -/
def subjects (fuel : Nat) (c : Cursor) : Except Cursor Cursor := do
  let c ← c.see .operand
  let (_, c) ← expressions {} fuel c
  let c ← c.see .nothing
  c.pass ":"

/-- Targets, what they run through, and the colon. -/
def loopHead (fuel : Nat) (c : Cursor) : Except Cursor Cursor := do
  let c ← c.see .nothing
  let c ← targetList fuel c
  let c ← c.see .nothing
  let c ← c.passWord "in"
  subjects fuel c

/-- What an `except` clause handles, and the colon. -/
def handlerHead (fuel : Nat) (c : Cursor) : Except Cursor Cursor := do
  let c ← c.see .operand
  let c ← if c.atMark "*" then c.step.see .operand else .ok c
  if c.atMark ":" then return c.step
  let (_, c) ← expressions {} fuel c
  let c ← c.see .nothing
  c.pass ":"

/-- The colon behind a word. -/
def colon (c : Cursor) : Except Cursor Cursor := do (← c.see .nothing).pass ":"

mutual

def statement : Nat → Cursor → Except Cursor (Statement × Cursor)
  | 0, c => .error c
  | fuel + 1, c =>
    let simple (_ : Unit) : Except Cursor (Statement × Cursor) := do
      return (.other, ← simpleStatements fuel c)
    let other (r : Except Cursor Cursor) : Except Cursor (Statement × Cursor) :=
      r.map fun c => (.other, c)
    if c.atMark "@" then do
      let (decorators, c) ← decorated fuel c
      let (found, c) ← definition fuel c
      return (.definition decorators found, c)
    else match c.quotation?, c.word? with
    | none, some (w, d) =>
      match w with
      | "def" | "class" => do
        let (found, c) ← definition fuel c
        return (.definition [] found, c)
      | "async" =>
        match d.visible? Tail.inStatement.expectMore with
        | some e =>
          if e.atWord "def" then do
            let (found, c) ← definition fuel c
            return (.definition [] found, c)
          else if e.atWord "for" then other (forStatement fuel (e.skip 3))
          else if e.atWord "with" then other (withStatement fuel (e.skip 4))
          else simple ()
        | none => simple ()
      | "if" => other (ifStatement fuel d)
      | "for" => other (forStatement fuel d)
      | "while" => other (whileStatement fuel d)
      | "try" => other (tryStatement fuel d)
      | "with" => other (withStatement fuel d)
      | "match" => firstOf (other (matchStatement fuel d)) simple
      | _ => simple ()
    | _, _ => simple ()

/-- Decorators, each on lines of its own, up to the definition below them. A line that is joined in
    front of the expression is taken for the expression. -/
def decorated : Nat → Cursor → Except Cursor (List Decorator × Cursor)
  | 0, c => .error c
  | fuel + 1, c => do
    let d ← c.step.see .operand
    let (_, e) ← expression .inStatement fuel d
    match e.look { newline := true } with
    | (.newline, _) =>
      let (first, last) := c.step.join?.getD (d, e)
      let found : Decorator :=
        { start := c.place, source := first.textUpTo last.offset, sourceStart := first.place,
          sourceEnd := last.place }
      let f ← e.see .nothing
      if f.atMark "@" then
        let (more, f) ← decorated fuel f
        return (found :: more, f)
      else return ([found], f)
    | (.visible, d) => .error d
    | (_, _) => .error e

/-- A function or a class with its body. -/
def definition : Nat → Cursor → Except Cursor (Definition × Cursor)
  | 0, c => .error c
  | fuel + 1, c =>
    if c.atWord "class" then do
      let (name, bases, d) ← classHead fuel (c.skip 5)
      let d ← suite fuel d
      return ({ isClass := true, name, start := c.place, bases }, d)
    else do
      let d ← if c.atWord "async" then (c.skip 5).see .nothing else .ok c
      let d ← d.passWord "def"
      let (name, d) ← functionHead fuel d
      let d ← suite fuel d
      return ({ isClass := false, name, start := c.place }, d)

/-- What follows a colon: statements on the same line, an indented block, or nothing. -/
def suite : Nat → Cursor → Except Cursor Cursor
  | 0, c => .error c
  | fuel + 1, c =>
    match c.look blockStart with
    | (.indent, d) => block fuel d
    | (.newline, _) => .ok c
    | (.visible, d) => simpleStatements fuel d
    | (.dedent, _) => .error c

/-- Statements up to the end of their indentation. -/
def block : Nat → Cursor → Except Cursor Cursor
  | 0, c => .error c
  | fuel + 1, c =>
    match c.look lineStart with
    | (.dedent, d) => .ok d
    | (.visible, d) => do
      let (_, d) ← statement fuel d
      block fuel d
    | (_, _) => .error c

def ifStatement : Nat → Cursor → Except Cursor Cursor
  | 0, c => .error c
  | fuel + 1, c => do
    let c ← condition fuel c
    let c ← suite fuel c
    match continuesWith ["elif"] c with
    | some d => ifStatement fuel (d.skip 4)
    | none => elseClause fuel c

/-- The `else` of a compound statement, if it follows. -/
def elseClause : Nat → Cursor → Except Cursor Cursor
  | 0, c => .error c
  | fuel + 1, c =>
    match continuesWith ["else"] c with
    | some d => do suite fuel (← colon (d.skip 4))
    | none => .ok c

def forStatement : Nat → Cursor → Except Cursor Cursor
  | 0, c => .error c
  | fuel + 1, c => do
    let c ← loopHead fuel c
    let c ← suite fuel c
    elseClause fuel c

def whileStatement : Nat → Cursor → Except Cursor Cursor
  | 0, c => .error c
  | fuel + 1, c => do
    let c ← condition fuel c
    let c ← suite fuel c
    elseClause fuel c

def withStatement : Nat → Cursor → Except Cursor Cursor
  | 0, c => .error c
  | fuel + 1, c => do
    let c ← subjects fuel c
    suite fuel c

/-- A body that is watched over, and at least one clause. -/
def tryStatement : Nat → Cursor → Except Cursor Cursor
  | 0, c => .error c
  | fuel + 1, c => do
    let c ← suite fuel (← colon c)
    match continuesWith ["except", "finally"] c with
    | some _ =>
      let d ← handlers fuel c
      let d ← if c.offset < d.offset then elseClause fuel d else .ok d
      match continuesWith ["finally"] d with
      | some d => suite fuel (← colon (d.skip 7))
      | none => return d
    | none =>
      match c.look lineStart with
      | (_, d) => .error d

def handlers : Nat → Cursor → Except Cursor Cursor
  | 0, c => .error c
  | fuel + 1, c =>
    match continuesWith ["except"] c with
    | some d => do
      let d ← handlerHead fuel (d.skip 6)
      let d ← suite fuel d
      handlers fuel d
    | none => .ok c

def matchStatement : Nat → Cursor → Except Cursor Cursor
  | 0, c => .error c
  | fuel + 1, c => do
    let c ← subjects fuel c
    match c.look { newline := true, indent := true } with
    | (.indent, d) => cases fuel d
    | (.newline, _) => return c
    | (_, d) => .error d

def cases : Nat → Cursor → Except Cursor Cursor
  | 0, c => .error c
  | fuel + 1, c =>
    match c.look { dedent := true } with
    | (.dedent, d) => .ok d
    | (_, d) =>
      if d.atWord "case" then do
        let d ← caseHead fuel (← (d.skip 4).see .operand)
        let d ← suite fuel d
        cases fuel d
      else .error d

end

/-- The statements of a whole body. -/
def statements : Nat → Cursor → Except Cursor (List Statement)
  | 0, c => .error c
  | fuel + 1, c =>
    match c.look lineStart with
    | (.visible, c) =>
      if c.isEnd then .ok []
      else do
        let (found, c) ← statement fuel c
        let more ← statements fuel c
        return found :: more
    | (_, _) => .error c

/-- A chain of calls that passes no character is shorter than this. -/
def stepsPerCharacter : Nat := 32

end Reader

/-- The statements of a body, or the place where no reading of it goes on. -/
def statements (source : String) : Except Cursor (List Statement) :=
  let cs := source.toList
  Reader.statements (Reader.stepsPerCharacter * (cs.length + 2)) (.start cs)

end Bindery.Body
