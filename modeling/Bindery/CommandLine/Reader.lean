import Bindery.CommandLine.Form

/- The reading of words by a form. Words that begin with a dash are flags, also when they are only
   the beginning of one flag's long spelling; all behind a double dash are operands. -/
namespace Bindery.CommandLine

/-- What is wrong with a command line. -/
inductive Mistake where
  | required (name : String)
  | invalidChoice (argument value : String) (choices : List String)
  | noValue (argument : String)
  | ignoredValue (argument value : String)
  | ambiguous (word : String) (spellings : List String)
  | unknown (words : List String)
  deriving DecidableEq, Repr

def Mistake.message : Mistake → String
  | .required name => "the following arguments are required: " ++ name
  | .invalidChoice argument value choices =>
    "argument " ++ argument ++ ": invalid choice: " ++ Text.quoted value ++ " (choose from " ++
      ", ".intercalate (choices.map Text.quoted) ++ ")"
  | .noValue argument => "argument " ++ argument ++ ": expected one argument"
  | .ignoredValue argument value =>
    "argument " ++ argument ++ ": ignored explicit argument " ++ Text.quoted value
  | .ambiguous word spellings =>
    "ambiguous option: " ++ word ++ " could match " ++ ", ".intercalate spellings
  | .unknown words => "unrecognized arguments: " ++ " ".intercalate words

/-- Why the words of a form are read no further. -/
inductive Stop where
  | help (form : Form)
  | mistake (form : Form) (m : Mistake)
  deriving DecidableEq, Repr

/-! ### Words -/

/-- A word that is a flag: the flag, if it is known, the spelling that counts, and the value that is
    part of the word. -/
structure FlagWord where
  flag : Option Flag
  spelling : String
  value : Option String
  deriving DecidableEq, Repr

inductive Word.Kind where
  | operand
  | separator
  | flag (f : FlagWord)
  deriving DecidableEq, Repr

structure Word where
  text : String
  kind : Word.Kind
  deriving DecidableEq, Repr

def Word.isFlag (w : Word) : Bool :=
  match w.kind with
  | .flag _ => true
  | _ => false

/-- A word cut at its first equals sign. -/
def cutAtEquals? (word : String) : Option (String × String) :=
  let cs := word.toList
  if cs.contains '=' then
    some (String.ofList (cs.takeWhile (· ≠ '=')),
      String.ofList ((cs.dropWhile (· ≠ '=')).drop 1))
  else none

/-- The flags that a word may be short for. Behind a single dash, the second character may be a
    whole flag and the others its value. -/
def candidates (f : Form) (word : String) : List FlagWord :=
  match word.toList with
  | '-' :: '-' :: _ =>
    let (start, value) := match cutAtEquals? word with
      | some (start, value) => (start, some value)
      | none => (word, none)
    f.spellings.filterMap fun (name, flag) =>
      if name.startsWith start then some ⟨some flag, name, value⟩ else none
  | '-' :: c :: rest =>
    let short := String.ofList ['-', c]
    f.spellings.filterMap fun (name, flag) =>
      if name = short then some ⟨some flag, name, some (String.ofList rest)⟩
      else if name.startsWith word then some ⟨some flag, name, none⟩
      else none
  | _ => []

def allDigits (cs : List Char) : Bool := cs.all fun c => '0' ≤ c && c ≤ '9'

/-- Whether a word is a negative number, such as `-3` or `-.5`. -/
def isNegativeNumber (word : String) : Bool :=
  match word.toList with
  | '-' :: cs =>
    let behind := (cs.dropWhile (· ≠ '.')).drop 1
    if cs.contains '.' then
      allDigits (cs.takeWhile (· ≠ '.')) && !behind.isEmpty && allDigits behind
    else !cs.isEmpty && allDigits cs
  | _ => false

/-- The flag that a word is by its whole text or by the part before its equals sign. -/
def exactFlag? (f : Form) (word : String) : Option FlagWord :=
  match f.flag? word with
  | some flag => some ⟨some flag, word, none⟩
  | none => do
    let (name, value) ← cutAtEquals? word
    let flag ← f.flag? name
    return ⟨some flag, name, some value⟩

/-- The kind of a word before any double dash. -/
def kindOf (f : Form) (word : String) : Except Mistake Word.Kind :=
  match word.toList with
  | '-' :: _ :: _ =>
    match exactFlag? f word with
    | some found => .ok (.flag found)
    | none =>
      match candidates f word with
      | [found] => .ok (.flag found)
      | [] =>
        if isNegativeNumber word || word.toList.contains ' ' then .ok .operand
        else .ok (.flag ⟨none, word, none⟩)
      | many => .error (.ambiguous word (many.map FlagWord.spelling))
  | _ => .ok .operand

def classify (f : Form) : List String → Except Mistake (List Word)
  | [] => .ok []
  | word :: words =>
    if word = "--" then .ok (⟨word, .separator⟩ :: words.map fun w => ⟨w, .operand⟩)
    else do
      let kind ← kindOf f word
      let more ← classify f words
      return ⟨word, kind⟩ :: more

/-! ### Flags and operands -/

/-- What has been read: values of flags, the latest first, the words of the operand, and the words
    that mean nothing. -/
structure Reading where
  values : List (String × String) := []
  operand : Option (List String) := none
  unknown : List String := []
  deriving DecidableEq, Repr

def checkChoice (argument value : String) (choices : List String) : Except Mistake Unit :=
  if choices.isEmpty || choices.contains value then .ok ()
  else .error (.invalidChoice argument value choices)

/-- Gives a flag its value. -/
def assign (r : Reading) (flag : Flag) (value : String) : Except Mistake Reading := do
  checkChoice flag.shown value flag.choices
  return { r with values := (flag.key, value) :: r.values }

/-- Flags without a value can stand together behind one dash. What is left must be such flags too, or
    one flag with its value. Returns the last of them. -/
def lastOfCluster (f : Form) (flag : Flag) (spelling : String) :
    List Char → Except Mistake (Flag × Option String)
  | [] => .ok (flag, none)
  | c :: rest =>
    let ignored := Mistake.ignoredValue flag.shown (String.ofList (c :: rest))
    if !flag.asksHelp then .ok (flag, some (String.ofList (c :: rest)))
    else if spelling.startsWith "--" then .error ignored
    else
      let name := String.ofList ['-', c]
      match f.flag? name with
      | some next => lastOfCluster f next name rest
      | none => .error ignored

/-- The flag of a word, with the value that is part of the word. An empty value is one, too. -/
def resolveFlag (f : Form) (flag : Flag) (w : FlagWord) : Except Mistake (Flag × Option String) :=
  match w.value with
  | none => .ok (flag, none)
  | some value =>
    if value.isEmpty then
      if flag.asksHelp then .error (.ignoredValue flag.shown "") else .ok (flag, some "")
    else lastOfCluster f flag w.spelling value.toList

/-- The value of a flag: the one that is part of its word, or the next word. -/
def readValue (f : Form) (flag : Flag) (value : Option String) (rest : List Word) :
    Except Stop (String × List Word) :=
  match value with
  | some value => .ok (value, rest)
  | none =>
    if flag.asksHelp then .ok ("", rest)
    else match rest with
      | ⟨next, .operand⟩ :: rest => .ok (next, rest)
      | _ => .error (.mistake f (.noValue flag.shown))

/-- Reads a flag and its value. -/
def readFlag (f : Form) (r : Reading) (text : String) (w : FlagWord) (rest : List Word) :
    Except Stop (Reading × List Word) :=
  match w.flag with
  | none => .ok ({ r with unknown := r.unknown ++ [text] }, rest)
  | some flag => do
    let (last, value) ← (resolveFlag f flag w).mapError (.mistake f)
    let (value, rest) ← readValue f last value rest
    if flag.asksHelp then .error (.help f)
    return (← (assign r last value).mapError (.mistake f), rest)

/-- The words that an operand takes from the beginning of a list; `none` when it cannot be there. A
    double dash may stand on either side of a single word. -/
def takeOperand (arity : Arity) (ws : List Word) : Option (List Word × List Word) :=
  let lead := ws.takeWhile (·.kind = .separator)
  let rest := ws.drop lead.length
  match arity, rest with
  | .rest, w :: rest => if w.isFlag then none else some (lead ++ w :: rest, [])
  | .rest, [] => none
  | _, ⟨text, .operand⟩ :: rest =>
    let trail := rest.takeWhile (·.kind = .separator)
    some (lead ++ ⟨text, .operand⟩ :: trail, rest.drop trail.length)
  | .atMostOne, rest => some (lead, rest)
  | .one, _ => none

/-- The words of an operand, without the double dash if they are not passed on. -/
def operandTexts (arity : Arity) (ws : List Word) : List String :=
  let texts := ws.map Word.text
  if arity = .rest then texts else texts.erase "--"

/-- Takes the operand, if it is still missing and can be here. -/
def readOperand (f : Form) (r : Reading) (ws : List Word) : Except Mistake (Reading × List Word) :=
  if r.operand.isSome then .ok (r, ws)
  else match takeOperand f.operand.arity ws with
    | none => .ok (r, ws)
    | some (taken, rest) => do
      let texts := operandTexts f.operand.arity taken
      checkChoice f.operand.name (texts.headD "") (f.operand.choices.map Prod.fst)
      return ({ r with operand := some texts }, rest)

/-- Reads words one after the other. Operands in front of a flag that find no place mean nothing. -/
def readWords (f : Form) : Nat → Reading → List Word → Except Stop Reading
  | 0, r, _ => .ok r
  | fuel + 1, r, ws =>
    if ws.any Word.isFlag then
      match ws with
      | ⟨text, .flag w⟩ :: rest => do
        let (r, rest) ← readFlag f r text w rest
        readWords f fuel r rest
      | ws => do
        let (r, rest) ← (readOperand f r ws).mapError (.mistake f)
        if rest.length < ws.length then readWords f fuel r rest
        else
          let skipped := rest.takeWhile (!·.isFlag)
          let r := { r with unknown := r.unknown ++ skipped.map Word.text }
          readWords f fuel r (rest.drop skipped.length)
    else do
      let (r, rest) ← (readOperand f r ws).mapError (.mistake f)
      return { r with unknown := r.unknown ++ rest.map Word.text }

/-- Reads the words of a form. -/
def Form.read (f : Form) (words : List String) : Except Stop Reading := do
  let ws ← (classify f words).mapError (.mistake f)
  let r ← readWords f (ws.length + 1) {} ws
  if r.operand.isNone then .error (.mistake f (.required f.operand.name))
  return r

def Reading.value? (r : Reading) (flag : Flag) : Option String := r.values.lookup flag.key

/-! ### Requests -/

/-- What a command line asks for. -/
inductive Request where
  | expand (file : String) (name output : Option String)
  | generate (root : String) (out : Option String)
  | verify (root : String) (artifacts : Option String)
  deriving DecidableEq, Repr

structure Invocation where
  level : Log.Level := .warning
  request : Request
  deriving DecidableEq, Repr

def defaultRoot : String := "."

def rootOf (r : Reading) : String := ((r.operand.getD []).head?).getD defaultRoot

/-- Reads the words behind a command. Those that mean nothing come with the request. -/
def readCommand (command : String) (words : List String) :
    Except Stop (Request × List String) := do
  if command = "expand" then
    let r ← expandForm.read words
    return (.expand ((r.operand.getD []).headD "") (r.value? nameFlag) (r.value? outputFlag),
      r.unknown)
  else if command = "generate" then
    let r ← generateForm.read words
    return (.generate (rootOf r) (r.value? outDirectoryFlag), r.unknown)
  else
    let r ← verifyForm.read words
    return (.verify (rootOf r) (r.value? artifactsFlag), r.unknown)

/-- Reads a whole command line. -/
def Invocation.ofWords (words : List String) : Except Stop Invocation := do
  let r ← mainForm.read words
  let operand := r.operand.getD []
  let (request, unknown) ← readCommand (operand.headD "") (operand.drop 1)
  let unknown := r.unknown ++ unknown
  if !unknown.isEmpty then .error (.mistake mainForm (.unknown unknown))
  let level := ((r.value? levelFlag).bind Log.Level.ofName?).getD .warning
  return { level, request }

end Bindery.CommandLine
