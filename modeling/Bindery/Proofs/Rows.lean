import Bindery.Glue
import Bindery.Proofs.PathTexts
import Bindery.Proofs.QuotedNames
import Bindery.Proofs.Body.Tiles
import Mathlib.Data.List.DropRight
import Mathlib.Data.List.Infix

/- The rows of a text, which line feeds part, and what stripping keeps of them. The rows that a tile of a
   body occupies hold nothing else but white text. -/
namespace Bindery

namespace Text

variable {sep : Char}

theorem joinWith_cons (sep piece : List Char) {pieces : List (List Char)} (more : pieces ≠ []) :
    joinWith sep (piece :: pieces) = piece ++ sep ++ joinWith sep pieces := by
  cases pieces with
  | nil => exact absurd rfl more
  | cons p ps => rfl

theorem joinWith_append (sep : List Char) {front back : List (List Char)} (some_ : front ≠ [])
    (more : back ≠ []) :
    joinWith sep (front ++ back) = joinWith sep front ++ sep ++ joinWith sep back := by
  induction front with
  | nil => exact absurd rfl some_
  | cons piece front ih =>
    cases front with
    | nil => exact joinWith_cons sep piece more
    | cons p ps =>
      rw [List.cons_append, joinWith_cons sep piece (by simp), ih (by simp),
        joinWith_cons sep piece (by simp)]
      simp

/-- A run of pieces stands together in the joined text. -/
theorem joinWith_infix (sep : List Char) (front back : List (List Char)) {run : List (List Char)}
    (some_ : run ≠ []) : joinWith sep run <:+: joinWith sep (front ++ run ++ back) := by
  have left : joinWith sep run <:+ joinWith sep (front ++ run) := by
    by_cases begins : front = []
    · simp [begins]
    · rw [joinWith_append sep begins some_]
      exact List.suffix_append _ _
  have right : joinWith sep (front ++ run) <+: joinWith sep (front ++ run ++ back) := by
    by_cases ends : back = []
    · simp [ends]
    · rw [joinWith_append sep (by simp [some_]) ends, List.append_assoc]
      exact List.prefix_append _ _
  exact left.isInfix.trans right.isInfix

theorem joinWith_splitAt (sep : Char) (cs : List Char) : joinWith [sep] (splitAt sep cs) = cs := by
  induction cs with
  | nil => rfl
  | cons c cs ih =>
    have some_ := splitAt_ne_nil sep cs
    rw [splitAt]
    split
    · rename_i same
      rw [joinWith_cons _ _ some_, ih, same]
      rfl
    · cases pieces : splitAt sep cs with
      | nil => exact absurd pieces some_
      | cons piece more =>
        rw [pieces] at ih
        cases more with
        | nil => simpa [joinWith] using ih
        | cons p ps => simpa [joinWith] using ih

theorem length_splitAt (sep : Char) (cs : List Char) :
    (splitAt sep cs).length = cs.count sep + 1 := by
  induction cs with
  | nil => rfl
  | cons c cs ih =>
    rw [splitAt]
    split
    · rename_i same
      simp [ih, same]
    · rename_i other
      have some_ := splitAt_ne_nil sep cs
      cases pieces : splitAt sep cs with
      | nil => exact absurd pieces some_
      | cons piece more =>
        rw [pieces] at ih
        simpa [List.count_cons, other] using ih

/-- The last piece of a text is all that stands behind the last separator. -/
theorem getLastD_splitAt (sep : Char) (cs : List Char) :
    (splitAt sep cs).getLastD [] = (cs.reverse.takeWhile (· ≠ sep)).reverse := by
  by_cases member : sep ∈ cs.reverse
  · obtain ⟨last, front, whole, absent⟩ := List.eq_append_cons_of_mem member
    have parted : cs = front.reverse ++ sep :: last.reverse := by
      rw [← List.reverse_reverse cs, whole]
      simp
    have other : ∀ c ∈ last, decide (c ≠ sep) = true :=
      fun c among => decide_eq_true fun same => absent (same ▸ among)
    have single : splitAt sep last.reverse = [last.reverse] := splitAt_of_notMem (by simpa using absent)
    rw [whole, List.takeWhile_append_of_pos other, parted, splitAt_append_sep, single]
    simp
  · have other : ∀ c ∈ cs.reverse, decide (c ≠ sep) = true :=
      fun c among => decide_eq_true fun same => member (same ▸ among)
    rw [splitAt_of_notMem (by simpa using member), List.takeWhile_eq_self_iff.mpr other, List.reverse_reverse]
    rfl

/-- The rows of a passage that begins at the beginning of a row and ends at the end of one. -/
theorem splitAt_passage {front back : List Char} (mid : List Char)
    (begins : front = [] ∨ ∃ lines, front = lines ++ [sep])
    (ends : back = [] ∨ ∃ lines, back = sep :: lines) :
    ∃ above below, splitAt sep (front ++ mid ++ back) = above ++ splitAt sep mid ++ below ∧
      above.length = front.count sep := by
  have behind : ∃ below, splitAt sep (mid ++ back) = splitAt sep mid ++ below := by
    rcases ends with rfl | ⟨lines, rfl⟩
    · exact ⟨[], by simp⟩
    · exact ⟨_, splitAt_append_sep sep mid lines⟩
  obtain ⟨below, rows⟩ := behind
  rcases begins with rfl | ⟨lines, rfl⟩
  · exact ⟨[], below, by simpa using rows, rfl⟩
  · refine ⟨splitAt sep lines, below, ?_, ?_⟩
    · rw [List.append_assoc _ mid, List.append_assoc lines, List.singleton_append,
        splitAt_append_sep, rows, List.append_assoc]
    · simp [length_splitAt]

end Text

/-! ### What is kept of a text -/

namespace Glue

/-- The rows that are kept are those whose numbers lie in no range. -/
theorem keepRows_eq (ranges : List Rows) (row : Nat) (lines : List (List Char)) :
    keepRows ranges row lines =
      ((lines.zipIdx row).filter fun r => !ranges.any (·.has r.2)).map Prod.fst := by
  induction lines generalizing row with
  | nil => rfl
  | cons line rest ih =>
    rw [keepRows, List.zipIdx_cons, List.filter_cons]
    cases covered : ranges.any (·.has row) with
    | true => simp [ih]
    | false => simp [ih]

theorem keepRows_append (ranges : List Rows) (row : Nat) (above below : List (List Char)) :
    keepRows ranges row (above ++ below) =
      keepRows ranges row above ++ keepRows ranges (row + above.length) below := by
  simp [keepRows_eq, List.zipIdx_append]

theorem keepRows_free {ranges : List Rows} {row : Nat} {lines : List (List Char)}
    (free : ∀ n, row ≤ n → n < row + lines.length → ranges.any (·.has n) = false) :
    keepRows ranges row lines = lines := by
  induction lines generalizing row with
  | nil => rfl
  | cons line rest ih =>
    have own := free row (Nat.le_refl row) (by simp)
    rw [keepRows, own, if_neg (by simp), ih fun n above below => ?_]
    exact free n (by omega) (by simp only [List.length_cons]; omega)

/-- When no range is empty stripping keeps the rows outside them. -/
theorem strip_eq {source : String} {ranges : List Rows} (proper : ∀ r ∈ ranges, r.first ≤ r.last) :
    (strip source ranges).toList =
      Text.joinWith ['\n'] (keepRows ranges 0 (Text.splitAt '\n' source.toList)) := by
  unfold strip
  split
  · rename_i allEmpty
    have none_ : ranges = [] := by
      cases ranges with
      | nil => rfl
      | cons r rs =>
        have empty : r.last < r.first := by simpa using List.all_eq_true.mp allEmpty r (by simp)
        have := proper r (by simp)
        omega
    subst none_
    rw [keepRows_free (by simp), Text.joinWith_splitAt]
  · rw [String.toList_ofList]

/-- The body ends up without the line feeds at its end, and two blank lines in front of the tail unless
    nothing is left of it. -/
theorem append_eq (source tail : String) :
    ∃ body n, source.toList = body ++ List.replicate n '\n' ∧ body.getLast? ≠ some '\n' ∧
      (append source tail).toList =
        (if body = [] then [] else body ++ "\n\n\n".toList) ++ tail.toList := by
  have feeds : source.toList.reverse.takeWhile (· = '\n') = List.replicate _ '\n' :=
    List.eq_replicate_iff.mpr ⟨rfl, fun x member => by simpa using List.mem_takeWhile_imp member⟩
  have whole := congrArg List.reverse
    (List.takeWhile_append_dropWhile (p := (· = '\n')) (l := source.toList.reverse))
  rw [List.reverse_append, List.reverse_reverse, feeds, List.reverse_replicate] at whole
  refine ⟨_, _, whole.symm, ?_, ?_⟩
  · rw [List.getLast?_reverse]
    intro last
    have stop := List.head?_dropWhile_not (fun x => decide (x = '\n')) source.toList.reverse
    rw [last] at stop
    simp at stop
  · simp only [append, List.isEmpty_iff]
    split
    · rfl
    · simp

end Glue

/-! ### The rows of tiles -/

namespace Body

/-- What may stand in front of a tile on its first row. -/
def Blank (cs : List Char) : Prop := ∀ x ∈ cs, isSeparator x = true ∧ x ≠ '\n'

/-- What may stand behind a tile on its last row: blanks, and then a comment or the backslash that joins
    the next row. -/
inductive Idle : List Char → Prop where
  | nil : Idle []
  | separator {x : Char} {cs : List Char} : isSeparator x = true → x ≠ '\n' → Idle cs → Idle (x :: cs)
  | comment {words : List Char} : '\n' ∉ words → Idle ('#' :: words)
  | join : Idle ['\\']
  | joinReturn : Idle ['\\', '\r']

theorem Blank.count {cs : List Char} (blank : Blank cs) : cs.count '\n' = 0 :=
  List.count_eq_zero.mpr fun member => (blank _ member).2 rfl

theorem Idle.count {cs : List Char} (idle : Idle cs) : cs.count '\n' = 0 := by
  induction idle with
  | nil => rfl
  | separator _ other _ ih => simp [ih, other]
  | comment single => simp [List.count_eq_zero.mpr single]
  | join => rfl
  | joinReturn => rfl

/-- Behind its last line feed white text is blank. -/
theorem White.lastRow {w : List Char} (white : White w) :
    ∃ pre, Blank pre ∧ (w = pre ∨ ∃ lines, w = lines ++ '\n' :: pre) := by
  induction white with
  | nil => exact ⟨[], by simp [Blank], .inl rfl⟩
  | @separator x cs own _ ih =>
    obtain ⟨pre, blank, rfl | ⟨lines, rfl⟩⟩ := ih
    · by_cases feed : x = '\n'
      · exact ⟨cs, blank, .inr ⟨[], by simp [feed]⟩⟩
      · exact ⟨x :: cs, List.forall_mem_cons.mpr ⟨⟨own, feed⟩, blank⟩, .inl rfl⟩
    · exact ⟨pre, blank, .inr ⟨x :: lines, by simp⟩⟩
  | @comment words cs _ _ ih =>
    obtain ⟨pre, blank, rfl | ⟨lines, rfl⟩⟩ := ih
    · exact ⟨cs, blank, .inr ⟨'#' :: words, by simp⟩⟩
    · exact ⟨pre, blank, .inr ⟨'#' :: (words ++ '\n' :: lines), by simp⟩⟩
  | @joined cs _ ih =>
    obtain ⟨pre, blank, rfl | ⟨lines, rfl⟩⟩ := ih
    · exact ⟨cs, blank, .inr ⟨['\\'], by simp⟩⟩
    · exact ⟨pre, blank, .inr ⟨'\\' :: '\n' :: lines, by simp⟩⟩
  | @joinedReturn cs _ ih =>
    obtain ⟨pre, blank, rfl | ⟨lines, rfl⟩⟩ := ih
    · exact ⟨cs, blank, .inr ⟨['\\', '\r'], by simp⟩⟩
    · exact ⟨pre, blank, .inr ⟨'\\' :: '\r' :: '\n' :: lines, by simp⟩⟩

/-- Up to its first line feed white text is idle. -/
theorem White.firstRow {w : List Char} (white : White w) (breaks : '\n' ∈ w) :
    ∃ post lines, w = post ++ '\n' :: lines ∧ Idle post := by
  induction white with
  | nil => simp at breaks
  | @separator x cs own _ ih =>
    by_cases feed : x = '\n'
    · exact ⟨[], cs, by simp [feed], .nil⟩
    · obtain ⟨post, lines, rfl, idle⟩ := ih (by simpa [Ne.symm feed] using breaks)
      exact ⟨x :: post, lines, by simp, .separator own feed idle⟩
  | @comment words cs single => exact ⟨'#' :: words, cs, by simp, .comment single⟩
  | @joined cs => exact ⟨['\\'], cs, by simp, .join⟩
  | @joinedReturn cs => exact ⟨['\\', '\r'], cs, by simp, .joinReturn⟩

theorem Idle.behind {seps cs : List Char} (blank : Blank seps) (idle : Idle cs) : Idle (seps ++ cs) := by
  induction seps with
  | nil => exact idle
  | cons x xs ih =>
    obtain ⟨⟨own, other⟩, more⟩ := List.forall_mem_cons.mp blank
    exact .separator own other (ih more)

theorem White.blank {w : List Char} (white : White w) (single : '\n' ∉ w) : Blank w :=
  fun x member => ⟨white.separators_of_notMem single x member, fun feed => single (feed ▸ member)⟩

/-- What stands behind the last tile of a body is idle up to the end of its row. -/
theorem Ending.firstRow {w : List Char} (ending : Ending w) :
    ∃ post back, w = post ++ back ∧ Idle post ∧ (back = [] ∨ ∃ lines, back = '\n' :: lines) := by
  cases ending with
  | white white =>
    by_cases breaks : '\n' ∈ w
    · obtain ⟨post, lines, rfl, idle⟩ := white.firstRow breaks
      exact ⟨post, _, rfl, idle, .inr ⟨lines, rfl⟩⟩
    · exact ⟨w, [], by simp, by simpa using Idle.nil.behind (white.blank breaks), .inl rfl⟩
  | @comment w words white single =>
    by_cases breaks : '\n' ∈ w
    · obtain ⟨post, lines, rfl, idle⟩ := white.firstRow breaks
      exact ⟨post, '\n' :: (lines ++ '#' :: words), by simp, idle, .inr ⟨_, rfl⟩⟩
    · exact ⟨w ++ '#' :: words, [], by simp, .behind (white.blank breaks) (.comment single), .inl rfl⟩

section
variable {α : Type} {fits : Tile α → Prop} {ts : List (Tile α)} {before source : List Char}

/-- A tile begins on a row of its own. -/
theorem Tiled.begins (tiled : Tiled fits ts before) :
    ∀ t ∈ ts, ∃ front pre, t.before = front ++ pre ∧ Blank pre ∧
      (front = [] ∨ ∃ lines, front = lines ++ ['\n']) := by
  induction tiled with
  | nil => simp
  | @snoc ts before w text part _ white breaks _ _ ih =>
    refine List.forall_mem_append.mpr ⟨ih, List.forall_mem_singleton.mpr ?_⟩
    obtain ⟨pre, blank, rfl | ⟨lines, rfl⟩⟩ := white.lastRow
    · by_cases begun : before = []
      · exact ⟨[], w, by simp [begun], blank, .inl rfl⟩
      · exact absurd rfl (blank _ (breaks begun)).2
    · exact ⟨before ++ lines ++ ['\n'], pre, by simp, blank, .inr ⟨_, rfl⟩⟩

/-- A tile stands in the text that the tiles cover, and behind it a row ends before anything visible. -/
theorem Tiled.ends (tiled : Tiled fits ts before) :
    ∀ t ∈ ts, ∃ after, before = t.before ++ t.text ++ after ∧
      (after = [] ∨ ∃ post lines, after = post ++ '\n' :: lines ∧ Idle post) := by
  induction tiled with
  | nil => simp
  | @snoc ts before w text part tiled white breaks _ _ ih =>
    refine List.forall_mem_append.mpr ⟨fun t member => ?_,
      List.forall_mem_singleton.mpr ⟨[], by simp, .inl rfl⟩⟩
    obtain ⟨after, covered, rfl | ⟨post, lines, rfl, idle⟩⟩ := ih t member
    · obtain ⟨post, lines, rfl, idle⟩ := white.firstRow (breaks (tiled.begun member))
      exact ⟨post ++ '\n' :: (lines ++ text), by simp [covered], .inr ⟨post, _, rfl, idle⟩⟩
    · exact ⟨post ++ '\n' :: (lines ++ w ++ text), by simp [covered], .inr ⟨post, _, rfl, idle⟩⟩

/-- The rows of a tile hold its text and, in front and behind, nothing visible but a comment. -/
theorem Covered.rows (covered : Covered fits ts source) :
    ∀ t ∈ ts, ∃ above below pre post, Text.splitAt '\n' source =
        above ++ Text.splitAt '\n' (pre ++ t.text ++ post) ++ below ∧
      above.length = t.firstRow ∧
      (Text.splitAt '\n' (pre ++ t.text ++ post)).length = t.lastRow + 1 - t.firstRow ∧
      Blank pre ∧ Idle post := by
  intro t member
  obtain ⟨before, w, tiled, rfl, ending⟩ := covered
  obtain ⟨front, pre, placed, blank, begins⟩ := tiled.begins t member
  have behind : ∃ post back, before ++ w = t.before ++ t.text ++ (post ++ back) ∧ Idle post ∧
      (back = [] ∨ ∃ lines, back = '\n' :: lines) := by
    obtain ⟨after, rfl, rfl | ⟨post, lines, rfl, idle⟩⟩ := tiled.ends t member
    · obtain ⟨post, back, rfl, idle, ends⟩ := ending.firstRow
      exact ⟨post, back, by simp, idle, ends⟩
    · exact ⟨post, '\n' :: (lines ++ w), by simp, idle, .inr ⟨_, rfl⟩⟩
  obtain ⟨post, back, text, idle, ends⟩ := behind
  have whole : before ++ w = front ++ (pre ++ t.text ++ post) ++ back := by
    rw [text, placed]
    simp
  obtain ⟨above, below, rows, length⟩ := Text.splitAt_passage (pre ++ t.text ++ post) begins ends
  refine ⟨above, below, pre, post, by rw [whole, rows], ?_, ?_, blank, idle⟩
  · rw [length, Tile.firstRow, placed, List.count_append, blank.count, Nat.add_zero]
  · rw [Text.length_splitAt, List.count_append, List.count_append, blank.count, idle.count, Tile.lastRow]
    omega

end
end Body
end Bindery
