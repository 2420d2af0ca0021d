import Bindery.Body.Statements
import Bindery.Body.SyntaxTree

/- Where the problem of a body lies that cannot be read. A repair sets passages aside and supplies
   missing marks until the rest can be read; the problem lies where the cheapest repair first
   touches the text. Reading sticks at one part of the text. Parts are skipped from there on until
   one of them could follow an earlier place at which reading was still open; what lies between
   that place and the part is the passage set aside. -/
namespace Bindery.Body.Repair

/-- A text of which passages may be missing: every character with its offset in the whole. -/
abbrev Excerpt := List (Char × Nat)

def Excerpt.ofText (cs : List Char) : Excerpt := cs.zipIdx

def chars (t : Excerpt) : List Char := t.map Prod.fst

/-- The offset in the whole of a place in the excerpt; `size` is the size of the whole. -/
def offsetAt (size : Nat) (t : Excerpt) (i : Nat) : Nat := (t[i]?.map Prod.snd).getD size

/-- The place in a text where no reading goes on. -/
def stuckAt? (cs : List Char) : Option Nat :=
  match statements (String.ofList cs) with
  | .ok _ => none
  | .error c => some c.offset

/-! ### Costs -/

/-- What a repair costs. -/
structure Prices where
  passage : Nat := 500
  part : Nat := 100
  byte : Nat := 1
  line : Nat := 30
  supplement : Nat := 610

def prices : Prices := {}

def sizePrice (cs : List Char) : Nat :=
  prices.byte * cs.foldl (fun size c => size + c.utf8Size) 0 + prices.line * cs.count '\n'

/-! ### Parts -/

/-- A word, number, mark or quoted text of an excerpt. -/
structure Part where
  start : Nat
  stop : Nat
  first : Char
  /-- How many brackets are open in front of it. -/
  depth : Nat
  /-- Whether it comes first on its line, with no bracket open. -/
  beginsLine : Bool
  deriving DecidableEq, Repr

namespace Part

def opens (p : Part) : Bool := p.first = '(' || p.first = '[' || p.first = '\x7b'

def closes (p : Part) : Bool := p.first = ')' || p.first = ']' || p.first = '\x7d'

/-- Whether brackets behind it belong to it. -/
def isOperand (p : Part) : Bool :=
  p.closes || Text.isNameContinue p.first || isQuoteMark p.first

end Part

def marks : List String :=
  ["**=", "//=", ">>=", "<<=", "...", "**", "//", ">>", "<<", "<=", ">=", "==", "!=", "<>", "->", ":=",
   "+=", "-=", "*=", "/=", "%=", "&=", "|=", "^=", "@="]

def markLength (cs : List Char) : Nat :=
  ((marks.find? fun m => m.toList.isPrefixOf cs).map String.length).getD 1

/-- How many characters lie up to the end of a quoted text that `closing` ends. -/
def quotedLength? (closing : List Char) : Nat → List Char → Option Nat
  | _, [] => none
  | n, '\\' :: _ :: cs => quotedLength? closing (n + 2) cs
  | n, c :: cs =>
    if closing.isPrefixOf (c :: cs) then some (n + closing.length)
    else if c = '\n' && closing.length = 1 then none
    else quotedLength? closing (n + 1) cs

/-- The length of the part that begins a text. Quoted text counts whole if it ends within the first
    `limit` characters, and else only by its opening; text over lines that never ends goes on up to
    the limit. -/
def partLength (limit : Nat) (cs : List Char) : Nat :=
  let c : Cursor := .start cs
  match c.quotation? with
  | some (q, opened) =>
    let closing := List.replicate (if q.triple then 3 else 1) q.quote
    match quotedLength? closing opened.offset opened.rest with
    | some n => if n ≤ limit then n else opened.offset
    | none => if q.triple then max limit opened.offset else opened.offset
  | none =>
    match c.word? with
    | some (w, _) => w.length
    | none =>
      let n := numberLength cs
      if n = 0 then markLength cs else n

/-- Where the scanning of parts is. -/
structure Scanner where
  position : Nat
  depth : Nat
  beginsLine : Bool

/-- The parts of a text. -/
def partsFrom (limit : Nat) : Nat → Scanner → List Char → List Part
  | 0, _, _ => []
  | fuel + 1, s, cs =>
    match cs with
    | [] => []
    | c :: rest =>
      if c = '\n' then
        partsFrom limit fuel ⟨s.position + 1, s.depth, s.beginsLine || s.depth = 0⟩ rest
      else if c = '#' then
        let n := (rest.takeWhile (· ≠ '\n')).length + 1
        partsFrom limit fuel { s with position := s.position + n } (cs.drop n)
      else if isSeparator c || (c = '\\' && rest.head? = some '\n') then
        let n := if c = '\\' then 2 else 1
        partsFrom limit fuel { s with position := s.position + n } (cs.drop n)
      else
        let n := partLength (limit - s.position) cs
        let p : Part := ⟨s.position, s.position + n, c, s.depth, s.beginsLine⟩
        let depth := if p.opens then s.depth + 1 else if p.closes then s.depth - 1 else s.depth
        p :: partsFrom limit fuel ⟨s.position + n, depth, false⟩ (cs.drop n)

/-- The parts of an excerpt up to a place, where quoted text is whole, and those from there on. -/
def partsAround (t : Excerpt) (place : Nat) : List Part × List Part :=
  let before := partsFrom place (t.length + 1) ⟨0, 0, true⟩ (chars (t.take place))
  let depth := match before.getLast? with
    | some p => if p.opens then p.depth + 1 else if p.closes then p.depth - 1 else p.depth
    | none => 0
  let from_ := (before.getLast?.map Part.stop).getD 0
  let lineBroken := before.isEmpty || (depth = 0 && (chars ((t.take place).drop from_)).contains '\n')
  (before, partsFrom 0 (t.length + 1) ⟨place, depth, lineBroken⟩ (chars (t.drop place)))

/-! ### Open places -/

/-- Text with a part joined to it. -/
def joined (cs part : List Char) : List Char :=
  match cs.getLast? with
  | some c => if isSeparator c then cs ++ part else cs ++ ' ' :: part
  | none => part

/-- Whether a part could be read behind a text. -/
def admits (before part : List Char) : Bool :=
  let text := joined before part
  match stuckAt? text with
  | none => true
  | some n => text.length ≤ n

/-- Whether all before a place can be read as a whole. -/
def isCompleteAt (t : Excerpt) (place : Nat) : Bool := (stuckAt? (chars (t.take place))).isNone

/-- Words that go on with the statement before them. -/
def continuations : List String := ["else", "elif", "except", "finally"]

/-- Whether a part begins a statement outside of all blocks. -/
def Part.headsStatement (t : Excerpt) (p : Part) : Bool :=
  p.beginsLine && (p.start = 0 || (t[p.start - 1]?.map Prod.fst) = some '\n') &&
    !continuations.contains (String.ofList ((chars (t.drop p.start)).takeWhile Text.isNameContinue))

/-- A place that no repair goes back behind: the statement before the one that cannot be read begins
    there. The parts are given from the last one on. -/
def settledPlace (t : Excerpt) (earlier : List Part) : Nat :=
  let heads := (earlier.filter (·.headsStatement t)).map Part.start
  match heads.dropWhile (!isCompleteAt t ·) with
  | [] => 0
  | _ :: more => (more.find? (isCompleteAt t)).getD 0

/-- A place where reading was still open when it stuck. -/
structure OpenPlace where
  position : Nat
  /-- Whether all before it can be read as a whole, so that the text might as well end. -/
  complete : Bool
  deriving DecidableEq, Repr

/-- The open places among parts behind the settled place, nearest first. Places inside of brackets that are closed again are
    not open, and of earlier lines only the beginnings are. The first place with everything
    complete before it is the last one that counts. -/
def openPlaces (t : Excerpt) (settled : Nat) : Nat → Bool → List Part → List OpenPlace
  | _, _, [] => []
  | depth, crossed, p :: earlier =>
    let attached := p.opens && p.depth < depth && earlier.head?.any Part.isOperand
    let closedGroup := depth < p.depth || (p.opens && p.depth = depth && attached)
    let isOpen := !p.closes && !closedGroup && (!crossed || p.beginsLine)
    let complete := p.beginsLine && isCompleteAt (t.drop settled) (p.start - settled)
    let rest (_ : Unit) := openPlaces t settled (min depth p.depth) (crossed || p.beginsLine) earlier
    if !isOpen then rest ()
    else ⟨p.start, complete⟩ :: (if complete then [] else rest ())

/-! ### Repairs -/

/-- A passage set aside, by the offsets in the whole text. -/
structure Passage where
  start : Nat
  /-- Where reading went on. -/
  resume : Nat
  /-- The price of the blanks between its last part and there, which counts once another passage
      joins it. -/
  blanks : Nat

/-- A repair as far as it has come. -/
structure Draft where
  cost : Nat
  /-- The least offset that a visible repair touches. -/
  first : Option Nat
  text : Excerpt
  passages : List Passage

/-- Parts that are being skipped. -/
structure Skip where
  draft : Draft
  /-- Where reading sticks. -/
  stuck : Nat
  /-- The end of the last part before that. -/
  lastStop : Nat
  settled : Nat
  places : List OpenPlace
  skipped : Nat
  /-- The end of the last part skipped. -/
  stop : Nat
  /-- The price of the text skipped. -/
  size : Nat
  parts : List Part

inductive Step where
  | read (d : Draft)
  | skip (s : Skip)

/-- No repair that skips one more part costs less. -/
def Skip.bound (s : Skip) : Nat := s.draft.cost + prices.part * (s.skipped + 1) + s.size

def Step.cost : Step → Nat
  | .read d => d.cost
  | .skip s => s.bound

def Step.first? : Step → Option Nat
  | .read d => d.first
  | .skip s => s.draft.first

/-- Cheaper steps come first; of equally cheap ones, that which touches the text later. -/
def Step.before (a b : Step) : Bool :=
  a.cost < b.cost || (a.cost = b.cost &&
    match a.first?, b.first? with
    | some x, some y => y < x
    | _, _ => false)

/-- Of two complete repairs the cheaper one, and of equally cheap ones that which touches the text
    later. -/
def Draft.better (d : Draft) (best : Option Draft) : Draft :=
  match best with
  | none => d
  | some b => if (Step.read d).before (.read b) then d else b

def insertStep (s : Step) : List Step → List Step
  | [] => [s]
  | t :: ts => if t.before s then t :: insertStep s ts else s :: t :: ts

def least (a : Option Nat) (b : Nat) : Option Nat := some (min (a.getD b) b)

/-- How many pieces a passage falls into: what can be read on its own is one. -/
def pieces (t : Excerpt) : List Part → Nat → Nat
  | [], _ => 0
  | p :: ps, stop =>
    if (stuckAt? (chars ((t.take stop).drop p.start))).isNone then 1 else pieces t ps stop + 1

/-- Sets aside what lies between an open place and the next part, or the end of the text. -/
def Skip.setAside (size : Nat) (s : Skip) (u : Nat) : Draft :=
  let t := s.draft.text
  let next := (s.parts.head?.map Part.start).getD t.length
  let stop := if s.skipped = 0 then s.lastStop else s.stop
  let popped := (partsAround t s.stuck).1.filter fun p => u ≤ p.start
  let start := offsetAt size t u
  let resume := offsetAt size t next
  let own := prices.part * (pieces t popped s.lastStop + s.skipped) +
    sizePrice (chars ((t.take stop).drop u))
  let before := t.take u
  let glue : Excerpt := match before.getLast? with
    | some (c, n) => if isSeparator c then [] else [(' ', n)]
    | none => []
  let adjacent := s.draft.passages.find? fun p => p.resume = start
  let cost := s.draft.cost + own + (adjacent.map Passage.blanks).getD prices.passage
  let start := (adjacent.map Passage.start).getD start
  { cost
    first := least s.draft.first start
    text := before ++ glue ++ t.drop next
    passages := ⟨start, resume, sizePrice (chars ((t.take next).drop stop))⟩ :: s.draft.passages }

/-- The nearest open place that the next part could follow. The end of the text can only follow what
    is complete. -/
def Skip.target? (s : Skip) : Option Nat :=
  let t := s.draft.text
  let places := if s.skipped = 0 then s.places.filter fun p => p.position ≠ s.stuck else s.places
  let fits (p : OpenPlace) : Bool :=
    match s.parts with
    | [] => p.complete
    | next :: _ => admits (chars ((t.take p.position).drop s.settled)) (chars ((t.take next.stop).drop next.start))
  (places.find? fits).map OpenPlace.position

/-- Skips one more part. -/
def Skip.further? (s : Skip) : Option Skip :=
  match s.parts with
  | [] => none
  | p :: ps =>
    let passed := chars ((s.draft.text.take p.stop).drop (max s.stuck s.stop))
    some { s with
      skipped := s.skipped + 1
      stop := p.stop
      size := s.size + sizePrice passed
      parts := ps }

/-! ### Supplements -/

/-- A mark that may be missing, and whether its absence can be seen. -/
structure Supplement where
  text : List Char
  visible : Bool

/-- The blanks that begin the line of a place. -/
def indentation (t : Excerpt) (place : Nat) : List Char :=
  let line := ((chars (t.take place)).reverse.takeWhile (· ≠ '\n')).reverse
  line.takeWhile fun c => c = ' ' || c = '\t'

/-- Marks that may be missing: a name, a closing bracket, or the end of a line. -/
def supplements (t : Excerpt) (place : Nat) : List Supplement :=
  [⟨[' ', '_', ' '], true⟩, ⟨[')', ' '], true⟩, ⟨[']', ' '], true⟩, ⟨['\x7d', ' '], true⟩,
   ⟨'\n' :: indentation t place, false⟩]

/-- Words behind which a name does not stand on its own. -/
def isDefining (word : List Char) : Bool := word = "def".toList || word = "class".toList

/-- Supplies a mark between the last part that was read and the next one, if that can be
    read then. -/
def Skip.supply? (size : Nat) (s : Skip) (m : Supplement) : Option Draft :=
  match s.parts with
  | [] => none
  | next :: _ =>
    let t := s.draft.text
    let before := t.take s.lastStop
    let last := ((chars before).reverse.takeWhile Text.isNameContinue).reverse
    let offset := offsetAt size t s.lastStop
    let text := chars before ++ m.text
    let part := chars ((t.take next.stop).drop next.start)
    if isDefining last && m.text.contains '_' then none
    else if (match stuckAt? (text ++ part) with
      | none => true
      | some n => (text ++ part).length ≤ n) then
      some { s.draft with
        cost := s.draft.cost + prices.supplement
        first := if m.visible then least s.draft.first offset else s.draft.first
        text := before ++ m.text.map (fun c => (c, offset)) ++ t.drop next.start }
    else none

/-! ### The search -/

/-- Begins to skip where reading sticks. -/
def Draft.skip (d : Draft) (stuck : Nat) : Skip :=
  let t := d.text
  let (before, behind) := partsAround t stuck
  let stuck := (behind.head?.map Part.start).getD t.length
  let lastStop := (before.getLast?.map Part.stop).getD 0
  let depth := (behind.head?.map Part.depth).getD 0
  let begins := (behind.head?.map Part.beginsLine).getD false
  let settled := settledPlace t before.reverse
  let complete := (begins || behind.isEmpty) && isCompleteAt t stuck
  let here : OpenPlace := ⟨stuck, complete && begins⟩
  let places := here ::
    if here.complete then [] else openPlaces t settled depth begins before.reverse
  { draft := d, stuck, lastStop, settled, places, skipped := 0, stop := lastStop, size := 0,
    parts := behind }

/-- The steps that follow a step that is not a complete repair, with the places at which drafts
    stuck. Of the drafts that stick at one place only the first counts. -/
def Step.next (size : Nat) (seen : List Nat) (stuck : Nat) : Step → List Nat × List Step
  | .read d =>
    let s := d.skip stuck
    let offset := offsetAt size d.text s.stuck
    if seen.contains offset then (seen, [])
    else
      let supplied := (supplements d.text s.lastStop).filterMap (s.supply? size)
      (offset :: seen, supplied.map .read ++ [.skip s])
  | .skip s =>
    let aside := s.target?.toList.map fun u => .read (s.setAside size u)
    (seen, aside ++ s.further?.toList.map .skip)

/-- Looks for the cheapest repair; `best` is the best complete one so far. -/
def search (size : Nat) : Nat → Option Draft → List Nat → List Step → Option Draft
  | 0, best, _, _ => best
  | _ + 1, best, _, [] => best
  | fuel + 1, best, seen, step :: steps =>
    if best.any fun b => b.cost < step.cost then best
    else
      let stuck? := match step with
        | .read d => stuckAt? (chars d.text)
        | .skip s => some s.stuck
      match step, stuck? with
      | .read d, none => search size fuel (some (d.better best)) seen steps
      | _, stuck? =>
        let (seen, next) := step.next size seen (stuck?.getD 0)
        search size fuel best seen (next.foldl (fun q s => insertStep s q) steps)

/-- More steps than this are not taken. -/
def maxSteps : Nat := 400

/-- Where a text begins, blanks aside. -/
def textStart (cs : List Char) : Nat := (cs.takeWhile isSeparator).length

/-- The offset at which a text shows its problem. A repair may supply a mark that no node shows. -/
def faultOffset? (cs : List Char) : Option Nat :=
  let draft : Draft := ⟨0, none, Excerpt.ofText cs, []⟩
  match search cs.length maxSteps none [] [.read draft] with
  | some d => d.first
  | none => some ((stuckAt? cs).getD 0)

/-- The tree of a text that cannot be read, as far as its problem goes: the module, which begins
    behind the blanks, and the fault below it. -/
def tree (source : String) : SyntaxTree Place :=
  let cs := source.toList
  let placeAt := fun offset => Place.origin.afterAll (cs.take offset)
  let fault := fun offset => .node SyntaxTree.errorKind (placeAt offset) false true []
  .node "module" (placeAt (textStart cs)) false true ((faultOffset? cs).toList.map fault)

/-- The place where the problem of a text lies. -/
def placeOf (source : String) : Place := (tree source).problem.held

end Bindery.Body.Repair
