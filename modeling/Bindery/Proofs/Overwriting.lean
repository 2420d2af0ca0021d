import Bindery.Proofs.Regeneration

/- What a plan leaves behind when it is carried out, wherever its paths lead. Each of its paths leads
   to a file that one of the paths to it has written; and where none leads, nothing has changed but
   that directories were made. -/
namespace Bindery.Generation

open FileTree

abbrev Output := Path × List UInt8

variable {t u u' v w : FileTree} {s : Surroundings} {p : Path} {bytes : List UInt8}
  {fs gs : List Output} {place q : Location}

/-- One of the paths leads to a file at a place. -/
def WrittenAt (u : FileTree) (s : Surroundings) (fs : List Output) (q : Location) : Prop :=
  ∃ f ∈ fs, ∃ bytes, u.status s f.1 = .ok (q, .file bytes)

/-- No two files of a list are written to one place. -/
def Apart (u : FileTree) (s : Surroundings) (fs : List Output) : Prop :=
  ∀ f ∈ fs, ∀ g ∈ fs, ∀ q node, u.status s f.1 = .ok (q, node) → u.status s g.1 = .ok (q, node) → f = g

/-- A tree in which files were written, and the tree before. -/
structure Wrote (t u : FileTree) (s : Surroundings) (fs : List Output) : Prop where
  rooted : u.Rooted
  distinct : t.Distinct → u.Distinct
  rewrites : Rewrites (WrittenAt u s fs) t u
  leads : ∀ f ∈ fs, ∃ q, ∃ g ∈ fs,
    u.status s f.1 = .ok (q, .file g.2) ∧ u.status s g.1 = .ok (q, .file g.2)

namespace Wrote

theorem of_grows (grows : Grows noFile t u) (rooted : u.Rooted) (distinct : t.Distinct → u.Distinct) :
    Wrote t u s [] :=
  ⟨rooted, distinct, grows.rewrites.weaken fun _ => False.elim, by simp⟩

theorem of_made (made : Made t s p (u, none)) : Wrote t u s [] :=
  .of_grows made.grows made.rooted made.distinct

/-- Writing one more file. A path that led to the same place leads to what was written last. -/
theorem write (wrote : Wrote t u s fs) (made : u.ensureDirectory s p.parent = (v, none))
    (written : v.write s p bytes = .ok w) : Wrote t w s (fs ++ [(p, bytes)]) := by
  have grown := ensureDirectory_made wrote.rooted made
  obtain ⟨q, named, open_, rfl, rooted, ways, leads⟩ := write_ok grown.rooted written
  have onto : ∀ f ∈ fs, ∀ r own, u.status s f.1 = .ok (r, .file own) →
      (v.insert q (.file bytes)).status s f.1 =
        .ok (r, .file (if r = q then bytes else own)) := by
    intro f _ r own found
    have before := grown.grows.status_kept found
    refine status_rewritten ways before ?_
    rw [find?_insert _ named]
    split
    · rfl
    · exact holds_of_status before
  refine ⟨rooted, fun distinct => (grown.distinct (wrote.distinct distinct)).insert _ _, ?_, ?_⟩
  · refine ((wrote.rewrites.grow grown.grows).weaken fun r => ?_).insert named
      ⟨(p, bytes), by simp, bytes, leads⟩ open_ bytes
    rintro ⟨f, member, own, found⟩
    exact ⟨f, by simp [member], _, onto f member r own found⟩
  · intro f member
    rcases List.mem_append.mp member with earlier | last
    · -- an earlier path either leads to the place written now, or to what it led to before
      obtain ⟨r, g, inList, found, own⟩ := wrote.leads f earlier
      have here := onto f earlier r g.2 found
      have there := onto g inList r g.2 own
      by_cases same : r = q
      · rw [if_pos same, same] at here
        exact ⟨q, (p, bytes), by simp, here, leads⟩
      · rw [if_neg same] at here there
        exact ⟨r, g, by simp [inList], here, there⟩
    · obtain rfl := List.mem_singleton.mp last
      exact ⟨q, (p, bytes), by simp, leads, leads⟩

theorem files (wrote : Wrote t u s fs) (written : writeFiles u s gs = (u', none)) :
    Wrote t u' s (fs ++ gs) := by
  induction gs generalizing u fs with
  | nil =>
    cases written
    simpa using wrote
  | cons g gs ih =>
    obtain ⟨p, bytes⟩ := g
    obtain ⟨v, w, made, here, later⟩ := writeFiles_cons_ok.mp written
    simpa using ih (wrote.write made here) later

theorem last (wrote : Wrote t u s fs) (written : writeFiles u s (gs ++ [(p, bytes)]) = (u', none)) :
    ∃ q, u'.status s p = .ok (q, .file bytes) := by
  induction gs generalizing u fs with
  | nil =>
    obtain ⟨v, w, made, here, later⟩ := writeFiles_cons_ok.mp written
    cases later
    have grown := ensureDirectory_made wrote.rooted made
    obtain ⟨q, -, -, -, -, -, leads⟩ := write_ok grown.rooted here
    exact ⟨q, leads⟩
  | cons g gs ih =>
    obtain ⟨v, w, made, here, later⟩ := writeFiles_cons_ok.mp written
    exact ih (wrote.write made here) later

theorem unchanged (wrote : Wrote t u s fs) (apart : ∀ f ∈ fs, ∀ node, u.status s f.1 ≠ .ok (q, node))
    {node : Node} (held : t.find? q = some node) : u.find? q = some node :=
  wrote.rewrites.kept (fun ⟨f, member, _, found⟩ => apart f member _ found) held

theorem own (wrote : Wrote t u s fs) (apart : Apart u s fs) {f : Output} (member : f ∈ fs) :
    ∃ q, u.status s f.1 = .ok (q, .file f.2) := by
  obtain ⟨q, g, inList, found, own⟩ := wrote.leads f member
  obtain rfl := apart f member g inList q _ found own
  exact ⟨q, found⟩

end Wrote

/-! ### Plans -/

namespace Plan

variable {plan : Plan} {t' : FileTree}

theorem wrote (rooted : t.Rooted) (written : plan.write t s = (t', none)) :
    Wrote t t' s plan.files := by
  obtain ⟨t₁, made, files⟩ := write_ok_iff.mp written
  simpa using (Wrote.of_made (ensureDirectory_made rooted made)).files files

/-- The output directory is there afterwards, at the place that it was resolved to before. -/
theorem leads (rooted : t.Rooted) (resolved : t.resolve s plan.out = .ok place)
    (written : plan.write t s = (t', none)) : t'.status s plan.out = .ok (place, .dir) := by
  obtain ⟨t₁, made, files⟩ := write_ok_iff.mp written
  have grown := ensureDirectory_made rooted made
  obtain ⟨place', there⟩ := grown.leads rfl
  obtain rfl := grown.grows.resolve_place resolved there
  have later : Wrote t₁ t' s plan.files := by
    simpa using (Wrote.of_grows (.refl t₁) grown.rooted id).files files
  exact later.rewrites.status_dir there

/-- With no link below the output directory, all files are written below its place. -/
theorem site (rooted : t.Rooted) (resolved : t.resolve s plan.out = .ok place)
    (noLink : ∀ names ≠ [], ∀ target, t.find? (place ++ names) ≠ some (.link target))
    (written : plan.write t s = (t', none)) : t'.Site s plan.out place := by
  have wrote := wrote rooted written
  have there := leads rooted resolved written
  refine ⟨wrote.rooted, there, fun names target link => ?_⟩
  by_cases top : names = []
  · subst top
    have dir := holds_of_status there
    simp [dir] at link
  · exact noLink names top target (wrote.rewrites.link_iff.mp link)

namespace Sound

/-- Below an output directory without links every file is written under its own names. -/
theorem place_of_status (sound : plan.Sound) (site : t'.Site s plan.out place) {f : Output}
    (member : f ∈ plan.files) {node : Node} (found : t'.status s f.1 = .ok (q, node)) :
    ∃ g ∈ plan.relativeFiles, f = (plan.out.join { names := g.1 }, g.2) ∧ q = place ++ g.1 := by
  rw [sound.files, Files.at_, List.mem_map] at member
  obtain ⟨g, inPlan, rfl⟩ := member
  refine ⟨g, inPlan, rfl, site.place_of_status (fun name inNames => ?_) found⟩
  exact ((sound.named g inPlan).2 name inNames).notUp

theorem apart (sound : plan.Sound) (nodup : (plan.relativeFiles.map Prod.fst).Nodup)
    (site : t'.Site s plan.out place) : Apart t' s plan.files := by
  intro f member g member' q node found found'
  obtain ⟨f', inPlan, rfl, there⟩ := sound.place_of_status site member found
  obtain ⟨g', inPlan', rfl, there'⟩ := sound.place_of_status site member' found'
  obtain rfl := List.inj_on_of_nodup_map nodup inPlan inPlan'
    (List.append_cancel_left (there.symm.trans there'))
  rfl

theorem mem_files (sound : plan.Sound) {g : List String × List UInt8} (member : g ∈ plan.relativeFiles) :
    (plan.out.join { names := g.1 }, g.2) ∈ plan.files := by
  rw [sound.files]
  exact List.mem_map.mpr ⟨g, member, rfl⟩

end Sound
end Plan
end Bindery.Generation
