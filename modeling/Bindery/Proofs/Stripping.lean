import Bindery.Proofs.Rows
import Bindery.Proofs.Walks

/- What expansion drops of a body: the rows of the annotations that it consumes, which hold nothing else
   but white text. Everything that is visible elsewhere stays as it is. -/
namespace Bindery

open Body (Tile Tiled Covered White Blank Idle)

/-- A passage of a body that belongs to a declaration. -/
inductive Passage where
  | decorator (a : Annotation)
  | declaration (d : Declaration)

/-- The annotations of a declaration, and the declaration itself, in the order of the text. -/
def Declaration.passages (d : Declaration) : List Passage :=
  d.annotations.map Passage.decorator ++ [.declaration d]

/-- The rows of an annotation lie in its tile. When it is a binding they are all of its rows, and behind
    the mark stands nothing but its source. -/
structure Annotation.Placed (a : Annotation) (t : Tile (Option Passage)) : Prop where
  first : a.firstRow = t.firstRow
  ordered : a.firstRow ≤ a.lastRow
  within : a.lastRow ≤ t.lastRow
  binding : a.isBinding = true →
    a.lastRow = t.lastRow ∧ ∃ w, White w ∧ t.text = '@' :: (w ++ a.source.toList)

/-- A passage stands where its tile does. -/
def Passage.Fits (t : Tile (Option Passage)) : Prop :=
  match t.part with
  | some (.decorator a) => a.Placed t
  | some (.declaration d) => d.span.line = some (t.firstRow + 1)
  | none => True

/-- What the declarations make of a part of the body. -/
inductive Becomes (path : Option String) : Body.Part → Option Passage → Prop where
  | decorator {d : Body.Decorator} {a : Annotation} :
      Annotation.ofDecorator path d = .ok a → Becomes path (.decorator d) (some (.decorator a))
  | declaration {d : Body.Definition} {x : Declaration} :
      x.span = Span.ofPlace path d.start → Becomes path (.definition d) (some (.declaration x))
  | other : Becomes path .other none

theorem Directive.read_join {source : String} (join : source = "\\\n" ∨ source = "\\\r\n")
    (span : Span) : Directive.read source span = .ok none := by
  rcases join with rfl | rfl <;> rfl

theorem Annotation.placed_of_decorator {path : Option String} {d : Body.Decorator} {a : Annotation}
    {before text : List Char} {p : Body.Part} {q : Option Passage}
    (found : Annotation.ofDecorator path d = .ok a) (fits : d.Fits ⟨p, before, text⟩) :
    a.Placed ⟨q, before, text⟩ := by
  simp only [ofDecorator, bind_eq_ok_iff, pure, Except.pure, Except.ok.injEq] at found
  obtain ⟨directive, read, rfl⟩ := found
  have start := fits.start
  have ordered := fits.ordered
  have within := fits.within
  simp only [Tile.firstRow, Tile.lastRow] at start within
  refine ⟨?_, ?_, ?_, fun binds => ?_⟩
  · simp only [Tile.firstRow]
    omega
  · dsimp only
    omega
  · simp only [Tile.firstRow, Tile.lastRow]
    omega
  · have given : directive ≠ none := by
      rintro rfl
      simp [isBinding, binding?] at binds
    have noJoin : ¬ (d.source = "\\\n" ∨ d.source = "\\\r\n") := by
      intro join
      rw [Directive.read_join join] at read
      exact given (Except.ok.inj read).symm
    rcases fits.source with join | join | ⟨last, text⟩
    · exact absurd (.inl join) noJoin
    · exact absurd (.inr join) noJoin
    · refine ⟨?_, text⟩
      simp only [Tile.firstRow, Tile.lastRow] at last ⊢
      omega

theorem Becomes.fits {path : Option String} {p : Body.Part} {q : Option Passage}
    (becomes : Becomes path p q) (before text : List Char)
    (fits : Body.Part.Fits ⟨p, before, text⟩) : Passage.Fits ⟨q, before, text⟩ := by
  cases becomes with
  | decorator found => exact Annotation.placed_of_decorator found fits
  | declaration span =>
    have start : _ = _ := fits
    simp [Passage.Fits, span, Span.ofPlace, start, Tile.firstRow]
  | other => trivial

namespace Declaration

theorem annotationsOf_becomes {path : Option String} {decorators : List Body.Decorator}
    {as : List Annotation} (found : annotationsOf path decorators = .ok as) :
    List.Forall₂ (Becomes path) (decorators.map Body.Part.decorator)
      (as.map fun a => some (.decorator a)) := by
  induction decorators generalizing as with
  | nil =>
    cases found
    exact .nil
  | cons d ds ih =>
    simp only [annotationsOf, bind_eq_ok_iff, pure, Except.pure, Except.ok.injEq] at found
    obtain ⟨a, here, more, rest, rfl⟩ := found
    exact .cons (.decorator here) (ih rest)

theorem ofStatements_becomes {path : Option String} {found : List Body.Statement}
    {ds : List Declaration} (read : ofStatements path found = .ok ds) :
    ∃ qs, List.Forall₂ (Becomes path) (found.flatMap Body.Statement.parts) qs ∧
      qs.filterMap id = ds.flatMap passages := by
  induction found generalizing ds with
  | nil =>
    cases read
    exact ⟨[], .nil, rfl⟩
  | cons statement rest ih =>
    cases statement with
    | other =>
      obtain ⟨qs, becomes, parts⟩ := ih read
      exact ⟨none :: qs, .cons .other becomes, by simpa using parts⟩
    | definition decorators definition =>
      simp only [ofStatements, bind_eq_ok_iff, pure, Except.pure, Except.ok.injEq] at read
      obtain ⟨d, here, more, rest', rfl⟩ := read
      simp only [ofDefinition, bind_eq_ok_iff, pure, Except.pure, Except.ok.injEq] at here
      obtain ⟨as, annotations, rfl⟩ := here
      obtain ⟨qs, becomes, parts⟩ := ih rest'
      have own : Becomes path (.definition definition) (some (.declaration ⟨.ofDefinition definition,
        definition.name, Span.ofPlace path definition.start, as⟩)) := .declaration rfl
      refine ⟨_, List.rel_append
        (List.rel_append (annotationsOf_becomes annotations) (.cons own .nil)) becomes, ?_⟩
      rw [List.filterMap_append, parts]
      simp [passages, List.filterMap_append]

/-- A body with declarations is covered by tiles for their passages and for what belongs to none. -/
theorem covered_of_source {source : String} {path : Option String} {ds : List Declaration}
    (read : ofSource source path = .ok ds) :
    ∃ ts, ts.filterMap Tile.part = ds.flatMap passages ∧
      Covered Passage.Fits ts source.toList := by
  unfold ofSource at read
  split at read
  · contradiction
  · rename_i found statements
    obtain ⟨ts, parts, before, w, tiled, text, ending⟩ := Body.covered_of_read statements
    obtain ⟨qs, becomes, passages⟩ := ofStatements_becomes (mapError_eq_ok_iff.mp read)
    obtain ⟨ts', rfl, tiled'⟩ : ∃ ts', ts'.map Tile.part = qs ∧ Tiled Passage.Fits ts' before :=
      tiled.relabel (parts ▸ becomes.imp fun p q becomes => becomes.fits)
    refine ⟨ts', ?_, before, w, tiled', text, ending⟩
    rw [← passages, List.filterMap_map]
    rfl

end Declaration

/-! ### Rows of annotations -/

/-- An annotation ends above the row where another passage behind it begins. -/
def Passage.Above : Passage → Passage → Prop
  | .decorator a, .decorator b => a.lastRow < b.firstRow
  | .decorator a, .declaration d => ∃ line, d.span.line = some line ∧ a.lastRow + 1 < line
  | .declaration _, _ => True

def Passage.decorator? : Passage → Option Annotation
  | .decorator a => some a
  | .declaration _ => none

namespace Declaration

/-- The annotations that expansion consumes. -/
def consumed (ds : List Declaration) : List Annotation :=
  ds.flatMap fun d => d.annotations.filter (·.isBinding)

/-- The rows of a body that no consumed annotation covers. -/
def keptRows (ds : List Declaration) (source : List Char) : List (List Char) :=
  ((Text.splitAt '\n' source).zipIdx.filter fun row =>
    !(consumed ds).any fun a => a.firstRow ≤ row.2 && row.2 ≤ a.lastRow).map Prod.fst

theorem keptRows_eq (ds : List Declaration) (source : List Char) :
    keptRows ds source =
      Glue.keepRows (Expansion.rowsOf (consumed ds)) 0 (Text.splitAt '\n' source) := by
  simp [keptRows, Glue.keepRows_eq, Expansion.rowsOf, List.any_map, Function.comp_def, Glue.Rows.has]

theorem mem_consumed {ds : List Declaration} {a : Annotation} :
    a ∈ consumed ds ↔ ∃ d ∈ ds, a ∈ d.annotations ∧ a.isBinding = true := by
  simp [consumed, List.mem_flatMap, List.mem_filter]

theorem removed_of_walk {ds : List Declaration} {w : Walk} (ended : Walk.ofDeclarations ds = .ok w) :
    w.removed = consumed ds := by
  have fits := Walk.fits_of_ok ended
  rw [Walk.ofDeclarations_fits fits, Except.ok.injEq] at ended
  rw [← ended]
  rfl

section
variable {ds : List Declaration} {source : List Char} {ts : List (Tile (Option Passage))}
  (parts : ts.filterMap Tile.part = ds.flatMap passages)
  (covered : Covered Passage.Fits ts source)
include parts

theorem tile_of_annotation {d : Declaration} {a : Annotation} (inBody : d ∈ ds)
    (inDeclaration : a ∈ d.annotations) : ∃ t ∈ ts, t.part = some (.decorator a) := by
  have passage : Passage.decorator a ∈ ds.flatMap passages :=
    List.mem_flatMap.mpr ⟨d, inBody, by simp [passages, inDeclaration]⟩
  rw [← parts] at passage
  exact List.mem_filterMap.mp passage

include covered

theorem passages_above : (ds.flatMap passages).Pairwise Passage.Above := by
  obtain ⟨before, w, tiled, -, -⟩ := covered
  rw [← parts, List.pairwise_filterMap]
  refine tiled.ascending.imp_of_mem fun {t t'} member member' below p part q part' => ?_
  have fits := tiled.fit t member
  have fits' := tiled.fit t' member'
  simp only [Passage.Fits, part, part'] at fits fits'
  cases p with
  | declaration d => trivial
  | decorator a =>
    have within := fits.within
    cases q with
    | decorator b =>
      have first := fits'.first
      show a.lastRow < b.firstRow
      omega
    | declaration d => exact ⟨_, fits', by omega⟩

theorem annotations_ascend :
    (ds.flatMap Declaration.annotations).Pairwise fun a b => a.lastRow < b.firstRow := by
  have only : ds.flatMap Declaration.annotations =
      (ds.flatMap passages).filterMap Passage.decorator? := by
    simp [List.filterMap_flatMap, passages, List.filterMap_append, List.filterMap_map,
      List.filterMap_cons, Function.comp_def, Passage.decorator?]
  rw [only, List.pairwise_filterMap]
  refine (passages_above parts covered).imp fun {p q} above a annotation b annotation' => ?_
  cases p <;> cases q <;> cases annotation <;> cases annotation'
  exact above

theorem declaration_below {d : Declaration} {a : Annotation} (inBody : d ∈ ds)
    (inDeclaration : a ∈ d.annotations) :
    ∃ line, d.span.line = some line ∧ a.lastRow + 1 < line := by
  have own := (List.pairwise_flatMap.mp (passages_above parts covered)).1 d inBody
  obtain ⟨-, -, across⟩ := List.pairwise_append.mp own
  exact across (.decorator a) (List.mem_map_of_mem inDeclaration) (.declaration d) (by simp)

theorem annotation_ordered {d : Declaration} {a : Annotation} (inBody : d ∈ ds)
    (inDeclaration : a ∈ d.annotations) : a.firstRow ≤ a.lastRow := by
  obtain ⟨t, member, part⟩ := tile_of_annotation parts inBody inDeclaration
  obtain ⟨before, w, tiled, -, -⟩ := covered
  have placed : a.Placed t := by simpa [Passage.Fits, part] using tiled.fit t member
  exact placed.ordered

/-- The rows of a consumed annotation are those of its tile. -/
theorem placed_of_consumed {a : Annotation} (taken : a ∈ consumed ds) :
    ∃ t ∈ ts, t.part = some (.decorator a) ∧ a.firstRow = t.firstRow ∧ a.lastRow = t.lastRow ∧
      ∃ w, White w ∧ t.text = '@' :: (w ++ a.source.toList) := by
  obtain ⟨d, inBody, inDeclaration, binds⟩ := mem_consumed.mp taken
  obtain ⟨t, member, part⟩ := tile_of_annotation parts inBody inDeclaration
  obtain ⟨before, w, tiled, -, -⟩ := covered
  have placed : a.Placed t := by simpa [Passage.Fits, part] using tiled.fit t member
  obtain ⟨last, text⟩ := placed.binding binds
  exact ⟨t, member, part, placed.first, last, text⟩

/-- No consumed annotation covers a row of a tile that is not its own. -/
theorem free_of_other {t : Tile (Option Passage)} (member : t ∈ ts)
    (other : ∀ a, t.part = some (.decorator a) → a.isBinding = false) {row : Nat}
    (above : t.firstRow ≤ row) (below : row ≤ t.lastRow) {a : Annotation} (taken : a ∈ consumed ds) :
    ¬ (a.firstRow ≤ row ∧ row ≤ a.lastRow) := by
  obtain ⟨t', member', part, first, last, -⟩ := placed_of_consumed parts covered taken
  obtain ⟨-, -, -, binds⟩ := mem_consumed.mp taken
  have distinct : t ≠ t' := by
    rintro rfl
    simp [other a part] at binds
  obtain ⟨before, w, tiled, -, -⟩ := covered
  have apart := tiled.apart member member' distinct
  omega

/-- The text of a tile that is not consumed stays in one piece. -/
theorem kept_of_other {t : Tile (Option Passage)} (member : t ∈ ts)
    (other : ∀ a, t.part = some (.decorator a) → a.isBinding = false) :
    t.text <:+: Text.joinWith ['\n'] (keptRows ds source) := by
  obtain ⟨above, below, pre, post, rows, length, height, -, -⟩ := covered.rows t member
  have stays : ∀ n, 0 + above.length ≤ n →
      n < 0 + above.length + (Text.splitAt '\n' (pre ++ t.text ++ post)).length →
      (Expansion.rowsOf (consumed ds)).any (·.has n) = false := by
    intro n behind before
    have order : t.firstRow ≤ t.lastRow := Nat.le_add_right _ _
    rw [List.any_eq_false]
    intro r range
    obtain ⟨a, taken, rfl⟩ := List.mem_map.mp range
    have free : ¬ (a.firstRow ≤ n ∧ n ≤ a.lastRow) :=
      free_of_other parts covered member other (by omega) (by omega) taken
    simpa [Glue.Rows.has] using free
  rw [keptRows_eq, rows, Glue.keepRows_append, Glue.keepRows_append, Glue.keepRows_free stays]
  have own : t.text <:+: Text.joinWith ['\n'] (Text.splitAt '\n' (pre ++ t.text ++ post)) := by
    rw [Text.joinWith_splitAt]
    exact ⟨pre, post, rfl⟩
  exact own.trans (Text.joinWith_infix ['\n'] _ _ (Text.splitAt_ne_nil _ _))

/-- The rows of a consumed annotation hold its text and white text. -/
theorem rows_of_consumed {a : Annotation} (taken : a ∈ consumed ds) :
    ∃ above rows below pre w post, Text.splitAt '\n' source = above ++ rows ++ below ∧
      above.length = a.firstRow ∧ rows.length = a.lastRow + 1 - a.firstRow ∧
      Text.joinWith ['\n'] rows = pre ++ '@' :: (w ++ a.source.toList) ++ post ∧
      Blank pre ∧ White w ∧ Idle post := by
  obtain ⟨t, member, -, first, last, w, white, text⟩ := placed_of_consumed parts covered taken
  obtain ⟨above, below, pre, post, rows, length, height, blank, idle⟩ := covered.rows t member
  refine ⟨above, _, below, pre, w, post, rows, by rw [length, first], by rw [height, first, last],
    ?_, blank, white, idle⟩
  rw [Text.joinWith_splitAt, text]

end

/-- An expanded body consists of the rows that are kept, without the line feeds at their end, and a
    tail. -/
theorem expanded_of_kept {source : String} {path moduleName : Option String} {ds : List Declaration}
    {e : Expansion} (ordered : ∀ a ∈ consumed ds, a.firstRow ≤ a.lastRow)
    (expanded : (Expansion.ofDeclarations source path moduleName ds).1 = .ok e) :
    ∃ w statements body n, Walk.ofDeclarations ds = .ok w ∧ w.removed = consumed ds ∧
      Glue.registrations e.registry.entries = .ok statements ∧
      Text.joinWith ['\n'] (keptRows ds source.toList) = body ++ List.replicate n '\n' ∧
      body.getLast? ≠ some '\n' ∧
      e.source.toList = (if body = [] then [] else body ++ "\n\n\n".toList) ++
        (Glue.tail e.moduleName statements).toList := by
  obtain ⟨w, ended, -, registry, -, written⟩ := Expansion.written_of_ok expanded
  have removed := removed_of_walk ended
  obtain ⟨statements, registered, text⟩ := bind_eq_ok_iff.mp written
  have proper : ∀ r ∈ Expansion.rowsOf w.removed, r.first ≤ r.last := by
    rw [removed]
    intro r range
    obtain ⟨a, taken, rfl⟩ := List.mem_map.mp range
    exact ordered a taken
  obtain ⟨body, n, feeds, stripped, whole⟩ :=
    Glue.append_eq (Glue.strip source (Expansion.rowsOf w.removed)) (Glue.tail e.moduleName statements)
  refine ⟨w, statements, body, n, ended, removed, by rw [registry, registered], ?_, stripped, ?_⟩
  · rw [← feeds, Glue.strip_eq proper, keptRows_eq, removed]
  · rw [← whole]
    exact congrArg String.toList (Except.ok.inj text).symm

/- Stripping keeps everything but the consumed annotations. The rows of the annotations of a body ascend in
   the order of the text, no two share a row, and all end above the row of their declaration. An expanded
   body is, up to line feeds at its end, the rows that no consumed annotation covers, in their order. Tiles
   for the passages of all declarations and for what belongs to none cover the whole body with white text
   between them, and each of them that is not consumed stays in one piece. A row that is dropped lies among
   those of a consumed annotation, which hold its text and white text only. -/
theorem stripping_keeps_the_rest {source : String} {path : Option String} {ds : List Declaration}
    (read : ofSource source path = .ok ds) :
    ((ds.flatMap Declaration.annotations).Pairwise (fun a b => a.lastRow < b.firstRow) ∧
      ∀ d ∈ ds, ∀ a ∈ d.annotations,
        a.firstRow ≤ a.lastRow ∧ ∃ line, d.span.line = some line ∧ a.lastRow + 1 < line) ∧
    (∀ path' moduleName e, (Expansion.ofDeclarations source path' moduleName ds).1 = .ok e →
      ∃ w statements body n, Walk.ofDeclarations ds = .ok w ∧ w.removed = consumed ds ∧
        Glue.registrations e.registry.entries = .ok statements ∧
        Text.joinWith ['\n'] (keptRows ds source.toList) = body ++ List.replicate n '\n' ∧
        body.getLast? ≠ some '\n' ∧
        e.source.toList = (if body = [] then [] else body ++ "\n\n\n".toList) ++
          (Glue.tail e.moduleName statements).toList) ∧
    (∃ ts, ts.filterMap Tile.part = ds.flatMap passages ∧
      Covered Passage.Fits ts source.toList ∧
      ∀ t ∈ ts, (∀ a, t.part = some (.decorator a) → a.isBinding = false) →
        t.text <:+: Text.joinWith ['\n'] (keptRows ds source.toList)) ∧
    ∀ a ∈ consumed ds, ∃ above rows below pre w post,
      Text.splitAt '\n' source.toList = above ++ rows ++ below ∧
      above.length = a.firstRow ∧ rows.length = a.lastRow + 1 - a.firstRow ∧
      Text.joinWith ['\n'] rows = pre ++ '@' :: (w ++ a.source.toList) ++ post ∧
      Blank pre ∧ White w ∧ Idle post := by
  obtain ⟨ts, parts, covered⟩ := covered_of_source read
  have taken : ∀ a ∈ consumed ds, a.firstRow ≤ a.lastRow := by
    intro a member
    obtain ⟨d, inBody, inDeclaration, -⟩ := mem_consumed.mp member
    exact annotation_ordered parts covered inBody inDeclaration
  refine ⟨⟨annotations_ascend parts covered, fun d inBody a inDeclaration => ⟨?_, ?_⟩⟩, ?_,
    ⟨ts, parts, covered, ?_⟩, ?_⟩
  · exact annotation_ordered parts covered inBody inDeclaration
  · exact declaration_below parts covered inBody inDeclaration
  · exact fun path' moduleName e expanded => expanded_of_kept taken expanded
  · exact fun t member other => kept_of_other parts covered member other
  · exact fun a member => rows_of_consumed parts covered member

/-- A function behind a joined line, with a binding on two rows and a guard. -/
def dressedBody : String :=
  "\\\n@pyfunction( # over\n  name='g') # and out\n@cfg(unix)\ndef f():\n    pass\n\n\n"

theorem dressedBody_stripped : ∃ ds, ofSource dressedBody none = .ok ds ∧
    (consumed ds).map (fun a => (a.firstRow, a.lastRow)) = [(1, 2)] ∧
    ((ds.flatMap Declaration.annotations).Pairwise fun a b => a.lastRow < b.firstRow) ∧
    ∃ e, (Expansion.ofDeclarations dressedBody none none ds).1 = .ok e ∧ ∃ body n tail,
      "\\\n@cfg(unix)\ndef f():\n    pass\n\n\n".toList = body ++ List.replicate n '\n' ∧
      e.source.toList = (if body = [] then [] else body ++ "\n\n\n".toList) ++ tail := by
  obtain ⟨ds, read, rows, kept, e, expanded⟩ : ∃ ds, ofSource dressedBody none = .ok ds ∧
      (consumed ds).map (fun a => (a.firstRow, a.lastRow)) = [(1, 2)] ∧
      Text.joinWith ['\n'] (keptRows ds dressedBody.toList) =
        "\\\n@cfg(unix)\ndef f():\n    pass\n\n\n".toList ∧
      ∃ e, (Expansion.ofDeclarations dressedBody none none ds).1 = .ok e ∧ True := by decide +kernel
  obtain ⟨⟨ascending, -⟩, written, -⟩ := stripping_keeps_the_rest read
  obtain ⟨w, statements, body, n, -, -, -, stripped, -, text⟩ := written none none e expanded.1
  exact ⟨ds, read, rows, ascending, e, expanded.1, body, n, _, kept ▸ stripped, text⟩

end Declaration
end Bindery
