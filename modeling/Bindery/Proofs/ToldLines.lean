import Bindery.Proofs.DiagnosticLines
import Bindery.Proofs.ExitCodes

/- How many lines the commands write about problems. Each problem ends with a line feed, and unless more than
   warnings is to be logged nothing else is written. So there are as many lines as problems, if and only if no
   line feed gets into one of them. -/
namespace Bindery

open Text

/-- How many lines a text has that ends with a line feed. -/
def Text.lineCount (s : String) : Nat := s.toList.count '\n'

@[simp] theorem Text.lineCount_append (s t : String) : lineCount (s ++ t) = lineCount s + lineCount t := by
  simp [lineCount]

/-! ### Logs -/

namespace Log

variable {least : Level} {lines : List Line}

theorem shown_of_lower (lower : ∀ l ∈ lines, l.level.rank < least.rank) : shown least lines = "" := by
  have none_ : lines.filter (fun l => decide (least.rank ≤ l.level.rank)) = [] :=
    List.filter_eq_nil_iff.mpr fun l member => by simpa using lower l member
  rw [shown, none_]
  rfl

/-- A line that tells how a run goes on. -/
def Line.Plain (l : Line) : Prop := l.level = .debug ∨ l.level = .info

theorem shown_of_plain (quiet : least = .warning ∨ least = .error) (plain : ∀ l ∈ lines, l.Plain) :
    shown least lines = "" := by
  refine shown_of_lower fun l member => ?_
  rcases quiet with rfl | rfl <;> rcases plain l member with level | level <;> rw [level] <;> decide

end Log

namespace Generation

variable {t : FileTree} {s : Surroundings} {root : Path} {out : Option Path} {settings : Settings}

theorem expand_plain {path source : String} {ds : List Declaration} :
    ∀ l ∈ (expand settings path source ds).2, l.Plain := by
  have debug : ∀ found, ∀ l ∈ Log.ofExpansion (some path) ds found, l.Plain :=
    fun found l member => .inl (CommandLine.ofExpansion_debug l member)
  unfold expand
  dsimp only
  split
  · intro l member
    rcases List.mem_append.mp member with earlier | last
    · exact debug _ l earlier
    · exact .inr (List.mem_singleton.mp last ▸ rfl)
  · exact debug _
  · exact debug _

theorem examine_plain {p : Path} : ∀ l ∈ (examine t s root settings p).2, l.Plain := by
  unfold examine
  dsimp only
  repeat' split
  all_goals first | exact expand_plain | exact nofun

theorem Survey.along_plain {v : Survey} {ps : List Path} (plain : ∀ l ∈ v.log, l.Plain) :
    ∀ l ∈ (along t s root settings v ps).1.log, l.Plain := by
  induction ps generalizing v with
  | nil => exact plain
  | cons p ps ih =>
    have behind : ∀ l ∈ v.log ++ (examine t s root settings p).2, l.Plain :=
      fun l member => (List.mem_append.mp member).elim (plain l) (examine_plain l)
    unfold along
    split
    · next log examined =>
      rw [examined] at behind
      exact behind
    · next finding log examined =>
      rw [examined] at behind
      exact ih (by cases finding <;> exact behind)

theorem plan_plain {settings : Option Settings} : ∀ l ∈ (plan t s root out settings).2, l.Plain := by
  unfold plan
  split
  · exact nofun
  · next chosen place sources prepared =>
    have surveyed : ∀ l ∈ (Survey.along t s root chosen {} sources).1.log, l.Plain :=
      Survey.along_plain nofun
    split
    · next v fault stopped =>
      rw [stopped] at surveyed
      exact surveyed
    · next v ended =>
      rw [ended] at surveyed
      split <;> exact surveyed

theorem run_plain {settings : Option Settings} : ∀ l ∈ (run t s root out settings).log, l.Plain := by
  have planned : ∀ l ∈ (plan t s root out settings).2, l.Plain := plan_plain
  unfold run
  split
  · next planned_ => rwa [planned_] at planned
  · next p log planned_ =>
    rw [planned_] at planned
    split <;> exact planned

/-- What a file yields is that it cannot be read, or a problem of its body. -/
theorem problemsOf_cases {path : String} {text : Except String String} {x : Diagnostic}
    (member : x ∈ problemsOf path text) :
    (∃ reason, text = .error reason ∧ x = ⟨unreadableMessage reason, { path := some path }⟩) ∨
      ∃ source, text = .ok source ∧ Declaration.Told source (some path) x := by
  cases text with
  | error reason => exact .inl ⟨reason, rfl, List.mem_singleton.mp member⟩
  | ok source =>
    refine .inr ⟨source, rfl, ?_⟩
    unfold problemsOf at member
    dsimp only at member
    split at member
    · cases member
    · split at member
      · next d unreadable =>
        obtain rfl := List.mem_singleton.mp member
        exact .inl unreadable
      · cases member
      · next ds read =>
        split at member
        · cases member
        · split at member
          · next w walked => exact .inr ⟨ds, w, read, walked, member⟩
          · cases member

/-- The problems of a generation are those of its source files. -/
theorem run_problems {settings : Option Settings} {chosen : Settings} {place : Path} {sources : List Path}
    {batch : Diagnostic.Batch} (prepared : prepare t s root out settings = .ok (chosen, place, sources))
    (refused : (run t s root out settings).result = .error (.problems batch)) :
    ∀ x ∈ batch.toList, ∃ r ∈ sources, x ∈ problemsOf r.text (readSource t s (root.join r)) := by
  obtain ⟨chosen', place', sources', v, prepared', surveyed, told⟩ :=
    plan_problems_iff.mp (run_problems_iff.mp refused)
  rw [prepared] at prepared'
  cases prepared'
  intro x member
  rw [told, Survey.along_diagnostics surveyed] at member
  exact List.mem_flatMap.mp (by simpa using member)

end Generation

namespace CommandLine

open Generation (readSource)

variable {t : FileTree} {s : Surroundings} {level : Log.Level} {batch : Diagnostic.Batch}

/-! ### Problems -/

theorem lineCount_batchLines (batch : Diagnostic.Batch) : lineCount (batchLines batch) =
    batch.toList.length + (batch.toList.map fun x => lineCount x.render).sum := by
  unfold batchLines
  induction batch.toList with
  | nil => rfl
  | cons x xs ih =>
    have last : lineCount "\n" = 1 := by decide
    rw [List.map_cons, String.join_cons, lineCount_append, lineCount_append, last, ih, List.length_cons,
      List.map_cons, List.sum_cons]
    omega

/-- There are as many lines as problems exactly if none of them has a line feed. -/
theorem lineCount_eq_length_iff : lineCount (batchLines batch) = batch.toList.length ↔
    ∀ x ∈ batch.toList, '\n' ∉ x.render.toList := by
  rw [lineCount_batchLines, Nat.add_eq_left, List.sum_eq_zero_iff]
  simp [lineCount, List.count_eq_zero]

/-! ### Commands -/

theorem ofGenerationFault_problems (log : String) : ofGenerationFault t log (.problems batch) =
    .told t problemsFound (log ++ batchLines batch) := rfl

/-- The expansion of a body with problems writes nothing but these. They are as many lines as problems, if and
    only if no line feed comes into a problem from a text that is shown as it is. -/
theorem expand_lines {file source : String} {name output : Option String} (quiet : level ≠ .debug)
    (read : readSource t s (Path.ofText file) = .ok source) (single : OneLine (Path.ofText file).text)
    (refused : Expansion.ofSource source (some (Path.ofText file).text) name = .error (.problems batch)) :
    expand t s level file name output = .told t problemsFound (batchLines batch) ∧
      (lineCount (batchLines batch) = batch.toList.length ↔
        ∀ x ∈ batch.toList, ∀ ds, Declaration.ofSource source (some (Path.ofText file).text) = .ok ds →
          ¬ Declaration.Spreads ds '\n' x) := by
  obtain ⟨lines, debug, told⟩ := expand_problems read level output refused
  have nothing : Log.shown level lines = "" := by
    refine Log.shown_of_lower fun l member => ?_
    rw [debug l member]
    cases level <;> first | exact absurd rfl quiet | decide
  refine ⟨by rw [told, nothing, String.empty_append], lineCount_eq_length_iff.trans ?_⟩
  refine forall₂_congr fun x member => ?_
  rw [(Expansion.problems_told refused x member).mem_render_iff (by simpa using single) (by decide)]
  simp only [not_exists, not_and]

/-- A tree whose one file binds a name with a line feed twice. -/
def reboundTree : FileTree :=
  ⟨[(["m.py"], .file (Text.Utf8.ofString Declaration.reboundBody))]⟩

/-- It has one problem, which takes two lines. -/
theorem reboundTree_lines :
    (expand reboundTree ⟨[], "/home"⟩ .warning "/m.py" none none).errors =
      "/m.py:3:1: error: Duplicate @py* annotation on pymodule: a\nb" ++
        " (already bound to 'f', rebound by 'g')\n" := by
  decide +kernel

/-- A generation of a tree with problems writes nothing but these. When all source files can be read and no
    line ends in their paths, they are as many lines as problems, if and only if no line feed comes into a
    problem from a text of a file that is shown as it is. -/
theorem generate_lines {root directory : Path} {out : Option String} {place : Option Path}
    {chosen : Settings} {sources : List Path} (quiet : level = .warning ∨ level = .error)
    (found : out.mapM (placeOf t s) = .ok place)
    (prepared : Generation.prepare t s root place none = .ok (chosen, directory, sources))
    (legible : ∀ r ∈ sources, Defined (readSource t s (root.join r)))
    (single : ∀ r ∈ sources, OneLine r.text)
    (refused : (Generation.run t s root place).result = .error (.problems batch)) :
    generate t s level root out = .told t problemsFound (batchLines batch) ∧
      (lineCount (batchLines batch) = batch.toList.length ↔
        ∀ x ∈ batch.toList, ∀ r ∈ sources, ∀ source ds, readSource t s (root.join r) = .ok source →
          Declaration.ofSource source (some r.text) = .ok ds → ¬ Declaration.Spreads ds '\n' x) := by
  constructor
  · have same := Generation.tree_of_refused refused nofun
    have nothing : Log.shown level (Generation.run t s root place).log = "" :=
      Log.shown_of_plain quiet Generation.run_plain
    unfold generate
    rw [found]
    dsimp only
    rw [refused]
    exact (ofGenerationFault_problems _).trans (by rw [same, nothing, String.empty_append])
  · rw [lineCount_eq_length_iff]
    constructor
    · intro unbroken x member r _ source ds _ _ spreads
      exact unbroken x member (x.mem_render_of_message spreads.mem_message)
    · intro none_ x member within
      obtain ⟨r, among, own⟩ := Generation.run_problems prepared refused x member
      obtain ⟨source, read⟩ := legible r among
      rcases Generation.problemsOf_cases own with ⟨reason, unread, -⟩ | ⟨source', read', told⟩
      · rw [read] at unread
        cases unread
      · have alone : ∀ p ∈ some r.text, OneLine p := by simpa using single r among
        obtain ⟨ds, parsed, spreads⟩ := (told.mem_render_iff alone (by decide)).mp within
        exact none_ x member r among source' ds read' parsed spreads

end CommandLine
end Bindery
