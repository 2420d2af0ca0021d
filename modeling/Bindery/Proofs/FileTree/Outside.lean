import Bindery.Proofs.FileTree.Making

/- What happens at a place leaves the rest of the tree as it is. Directories that are made and files
   that are written below a site change nothing outside it, also where they are refused; and names
   that are followed do not come to a place if its own name is not among them. -/
namespace Bindery.FileTree

variable {t u : FileTree} {s : Surroundings} {base : Path} {place q : Location} {names : List String}
  {last : Bool}

/-! ### Erasing a place -/

theorem erase_insert (t : FileTree) (inside : place <+: q) (node : Node) :
    (t.insert q node).erase place = t.erase place := by
  have own : place.isPrefixOf q = true := List.isPrefixOf_iff_prefix.mpr inside
  unfold FileTree.insert
  split
  · simp only [erase, mk.injEq]
    rw [List.filter_map]
    have same : t.entries.filter ((fun x => !place.isPrefixOf x.1) ∘
          fun x => if x.1 == q then (q, node) else x) =
        t.entries.filter fun x => !place.isPrefixOf x.1 := by
      refine List.filter_congr fun x _ => ?_
      by_cases here : x.1 = q <;> simp [here]
    rw [same]
    refine (List.map_congr_left fun x member => ?_).trans (List.map_id _)
    have other : x.1 ≠ q := by
      rintro rfl
      simp [own] at member
    simp [other]
  · simp [erase, List.filter_append, own]

/-- Where nothing is, there is nothing to erase. -/
theorem erase_absent (rooted : t.Rooted) (absent : t.find? place = none) : t.erase place = t := by
  have kept : t.entries.filter (fun x => !place.isPrefixOf x.1) = t.entries := by
    refine List.filter_eq_self.mpr fun e member => ?_
    rw [Bool.not_eq_true', Bool.eq_false_iff]
    intro inside
    obtain ⟨names, own⟩ := List.isPrefixOf_iff_prefix.mp inside
    have held := find?_isSome_of_mem member
    rw [← own, rooted.none_below absent names] at held
    contradiction
  rw [erase, kept]

theorem find?_erase (t : FileTree) (outside : ¬ place <+: q) : (t.erase place).find? q = t.find? q := by
  by_cases top : q = []
  · simp [top]
  rw [find?_of_ne _ top, find?_of_ne _ top, erase]
  induction t.entries with
  | nil => rfl
  | cons e es ih =>
    simp only at ih ⊢
    obtain ⟨key, node⟩ := e
    by_cases own : key = q
    · subst own
      have kept : place.isPrefixOf key = false := by
        rw [Bool.eq_false_iff]
        exact fun inside => outside (List.isPrefixOf_iff_prefix.mp inside)
      simp [kept]
    · have other : (q == key) = false := by simpa using Ne.symm own
      rw [List.filter_cons, List.lookup_cons, other]
      split
      · rw [List.lookup_cons, other, ih]
      · exact ih

/-! ### Writing below a site -/

namespace Site

theorem write_outside (site : t.Site s base place) (notUp : ∀ name ∈ names, name ≠ "..")
    {bytes : List UInt8} (written : t.write s (base.join { names := names }) bytes = .ok u) :
    u.erase place = t.erase place := by
  have inside : ∀ spot, t.spot s (base.join { names := names }) = .ok spot → place <+: spot.place :=
    fun spot found => ⟨names, (site.place_of_spot notUp (fun _ => rfl) found).symm⟩
  unfold FileTree.write at written
  split at written
  · rename_i found
    cases written
    exact erase_insert t (inside _ found) _
  · contradiction
  · rename_i free
    cases written
    exact erase_insert t (inside _ free) _
  · contradiction

theorem makeDirectory_outside (site : t.Site s base place) (notUp : ∀ name ∈ names, name ≠ "..")
    (named : names ≠ []) (made : t.makeDirectory s (base.join { names := names }) = .ok u) :
    u.erase place = t.erase place := by
  unfold FileTree.makeDirectory at made
  split at made
  · contradiction
  · rename_i free
    cases made
    have inside := site.place_of_spot notUp (fun none_ => absurd none_ named) free
    exact erase_insert t ⟨names, inside.symm⟩ _
  · contradiction

/-- Directories that are made below a site change nothing outside it, as far as they are made. -/
theorem makeDirectories_outside (site : t.Site s base place) (notUp : ∀ name ∈ names, name ≠ "..")
    (fuel : Nat) :
    (t.makeDirectories s (base.join { names := names }) fuel).1.erase place = t.erase place := by
  -- the directory itself is there already, so only places below it are filled
  induction fuel generalizing names with
  | zero => rfl
  | succ fuel ih =>
    by_cases top : names = []
    · subst top
      rw [site.accepts (by simpa using site.dir)]
    obtain ⟨front, name, rfl⟩ := (List.eq_nil_or_concat' names).resolve_left top
    have above : (t.makeDirectories s (base.join { names := front }) fuel).1.erase place =
        t.erase place := ih fun other member => notUp other (by simp [member])
    have grown := makeDirectories_made (s := s) site.rooted (base.join { names := front }) fuel
    unfold makeDirectories
    rw [Path.parent_join_snoc]
    split
    · rename_i made
      exact site.makeDirectory_outside notUp top made
    · split
      · split
        · rfl
        · split
          · rename_i above_
            rwa [above_] at above
          · rename_i u made
            rw [made] at above grown
            have site' : u.Site s base place := site.grow grown.grows grown.rooted
            split
            · rename_i made
              exact (site'.makeDirectory_outside notUp top made).trans above
            · split
              · rename_i there
                rwa [(unlessDirectory_ok there).1]
              · exact above
      · split
        · rename_i there
          rw [(unlessDirectory_ok there).1]
        · rfl

theorem ensureDirectory_outside (site : t.Site s base place) (notUp : ∀ name ∈ names, name ≠ "..") :
    (t.ensureDirectory s (base.join { names := names })).1.erase place = t.erase place :=
  site.makeDirectories_outside notUp _

end Site

/-! ### Following past a place -/

def Node.target? : Node → Option String
  | .link target => some target
  | _ => none

/-- No link names a name in its target. -/
def Unnamed (t : FileTree) (name : String) : Prop :=
  ∀ e ∈ t.entries, ∀ target ∈ e.2.target?, name ∉ (Path.ofText target).names

instance (t : FileTree) (name : String) : Decidable (t.Unnamed name) :=
  inferInstanceAs (Decidable (∀ e ∈ t.entries, ∀ target ∈ e.2.target?, _))

/-- A tree that is another one outside a place. -/
def SameOutside (place : Location) (t u : FileTree) : Prop :=
  ∀ q, ¬ place <+: q → u.find? q = t.find? q

/-- What is the same when a place is erased is the same outside it. -/
theorem sameOutside_of_erase (same : u.erase place = t.erase place) : SameOutside place t u := by
  intro q outside
  rw [← find?_erase u outside, same, find?_erase t outside]

section Apart

variable {above here : Location} {name : String} (same : SameOutside (above ++ [name]) t u)
  (unnamed : t.Unnamed name)
include same

theorem followWith_apart {onLink onLink' : Location → List String → Except FileError Spot}
    (outside : ¬ above ++ [name] <+: here) (absent : name ∉ names)
    (behind : ∀ here target rest, ¬ above ++ [name] <+: here → name ∉ rest →
      (∃ q, t.find? q = some (.link target)) →
      onLink' (targetOf here target).1 ((targetOf here target).2 ++ rest) =
        onLink (targetOf here target).1 ((targetOf here target).2 ++ rest)) :
    u.followWith last onLink' here names = t.followWith last onLink here names := by
  induction names generalizing here with
  | nil => simp [followWith, same here outside]
  | cons first rest ih =>
    simp only [List.mem_cons, not_or] at absent
    obtain ⟨other, later⟩ := absent
    have upward : ¬ above ++ [name] <+: here.dropLast := fun inside =>
      outside (inside.trans (List.dropLast_prefix here))
    have next : ¬ above ++ [name] <+: here ++ [first] := by
      rw [List.prefix_concat_iff]
      rintro (whole | inside)
      · exact other (List.append_singleton_inj.mp whole).2
      · exact outside inside
    unfold followWith
    simp only [same here outside, same _ next]
    rw [ih upward later, ih next later]
    cases held : t.find? (here ++ [first]) with
    | none => rfl
    | some node =>
      cases node with
      | link target => simp only [behind here target rest outside later ⟨_, held⟩]
      | dir => rfl
      | file bytes => rfl

include unnamed

omit same in
/-- A link outside a place leads on outside it, by names that are not its own. -/
theorem targetOf_apart {target : String} (outside : ¬ above ++ [name] <+: here)
    (held : t.find? q = some (.link target)) :
    ¬ above ++ [name] <+: (targetOf here target).1 ∧ name ∉ (targetOf here target).2 := by
  have named : q ≠ [] := by
    rintro rfl
    simp at held
  refine ⟨?_, unnamed _ (mem_of_find? named held) target rfl⟩
  simp only [targetOf]
  split
  · simp
  · exact outside

/-- Names among which the own name of a place is not, lead past it. -/
theorem follow_apart {n : Nat} (outside : ¬ above ++ [name] <+: here) (absent : name ∉ names) :
    u.follow last n here names = t.follow last n here names := by
  induction n generalizing here names with
  | zero => exact followWith_apart same outside absent fun _ _ _ _ _ _ => rfl
  | succ n ih =>
    refine followWith_apart same outside absent fun here target rest outside absent held => ?_
    obtain ⟨q, held⟩ := held
    obtain ⟨beyond, other⟩ := targetOf_apart unnamed outside held
    exact ih beyond (List.not_mem_append other absent)

/-- A link that stands outside a place leads where it led. -/
theorem status?_link_apart (ways : KeepsWays t u) (rooted : t.Rooted)
    (leads : t.status s base = .ok (place, .dir)) {target : String}
    (held : t.find? (place ++ names) = some (.link target)) (absent : t.find? (above ++ [name]) = none) :
    u.status? s (base.join { names := names }) = t.status? s (base.join { names := names }) := by
  have named : names ≠ [] := by
    rintro rfl
    simp [holds_of_status leads] at held
  obtain ⟨front, own, rfl⟩ := (List.eq_nil_or_concat' names).resolve_left named
  have follows := rooted.followable held
  have dir : t.find? (place ++ front) = some .dir := by
    rw [← List.append_assoc] at held
    exact rooted.dir_above held (by simp)
  obtain ⟨m, joined⟩ := spot_join_kept leads
  have reached : t.Reaches true m place front (.found (place ++ front) .dir) :=
    rooted.reaches dir (by simp)
  obtain ⟨m', onward⟩ := reached.append_kept
  have outside : ¬ above ++ [name] <+: place ++ front := by
    rintro ⟨more, whole⟩
    rw [← whole, rooted.none_below absent] at dir
    contradiction
  have behind_ : u.behind true m' (targetOf (place ++ front) target).1
        ((targetOf (place ++ front) target).2 ++ []) =
      t.behind true m' (targetOf (place ++ front) target).1
        ((targetOf (place ++ front) target).2 ++ []) := by
    cases m' with
    | zero => rfl
    | succ m' =>
      obtain ⟨beyond, other⟩ := targetOf_apart unnamed outside held
      exact follow_apart same unnamed beyond (by simpa using other)
  have spot : u.spot s (base.join { names := front ++ [own] }) =
      t.spot s (base.join { names := front ++ [own] }) := by
    have clean : ∀ other ∈ front ++ [own], '\x00' ∉ other.toList := fun other member =>
      (follows other member).noNull
    have here : t.find? (place ++ front ++ [own]) = some (.link target) := by
      simpa [List.append_assoc] using held
    rw [joined u ways true _ clean (by simp), joined t (fun _ _ held _ => held) true _ clean (by simp),
      onward u ways true _ (by simp), onward t (fun _ _ held _ => held) true _ (by simp), follow_eq,
      follow_eq, followWith_cons (ways.dir dir) (follows own (by simp)),
      followWith_cons dir (follows own (by simp)), ways.link here, here]
    simpa using behind_
  simp only [FileTree.status?, FileTree.status, spot]

end Apart

end Bindery.FileTree
