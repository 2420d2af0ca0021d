import Bindery.Proofs.FileTree.Following

/- Resolving agrees with following: a path that leads somewhere is resolved to the place where it
   leads. Names lead through links at a cost that the names determine, so a link that is being
   followed is not met again on a way that ends, and the links that are not seen yet bound the steps
   that are left. -/
namespace Bindery.FileTree

/-- Names lead from a place to another one, by passing so many links. -/
inductive Leads (t : FileTree) : Nat → Location → List String → Location → Prop where
  | stop {here : Location} : Leads t 0 here [] here
  | up {n : Nat} {here place : Location} {rest : List String}
      (onward : Leads t n here.dropLast rest place) : Leads t n here (".." :: rest) place
  | down {n : Nat} {here place : Location} {name : String} {rest : List String}
      (notUp : name ≠ "..") (noNull : '\x00' ∉ name.toList)
      (noLink : ∀ target, t.find? (here ++ [name]) ≠ some (.link target))
      (onward : Leads t n (here ++ [name]) rest place) : Leads t n here (name :: rest) place
  | through {n m : Nat} {here mid place : Location} {name target : String} {rest : List String}
      (notUp : name ≠ "..") (noNull : '\x00' ∉ name.toList)
      (link : t.find? (here ++ [name]) = some (.link target))
      (inner : Leads t n (targetOf here target).1 (targetOf here target).2 mid)
      (onward : Leads t m mid rest place) : Leads t (n + m + 1) here (name :: rest) place

namespace Leads

variable {t : FileTree} {n n' : Nat} {here place place' : Location} {names : List String}

/-- Names lead to one place, at one cost. -/
theorem unique (first : t.Leads n here names place) (second : t.Leads n' here names place') :
    n = n' ∧ place = place' := by
  induction first generalizing n' place' with
  | stop =>
    cases second
    exact ⟨rfl, rfl⟩
  | up _ ih =>
    cases second with
    | up onward => exact ih onward
    | down notUp _ _ _ => exact absurd rfl notUp
    | through notUp _ _ _ _ => exact absurd rfl notUp
  | down notUp _ noLink _ ih =>
    cases second with
    | up _ => exact absurd rfl notUp
    | down _ _ _ onward => exact ih onward
    | through _ _ link _ _ => exact absurd link (noLink _)
  | through notUp _ link _ _ inner onward =>
    cases second with
    | up _ => exact absurd rfl notUp
    | down _ _ noLink _ => exact absurd link (noLink _)
    | through _ _ link' inner' onward' =>
      rw [link] at link'
      cases link'
      obtain ⟨rfl, rfl⟩ := inner inner'
      obtain ⟨rfl, rfl⟩ := onward onward'
      exact ⟨rfl, rfl⟩

theorem split {rest : List String} (leads : t.Leads n here (names ++ rest) place) :
    ∃ mid k m, t.Leads k here names mid ∧ t.Leads m mid rest place := by
  induction names generalizing n here with
  | nil => exact ⟨here, 0, n, .stop, leads⟩
  | cons name names ih =>
    cases leads with
    | up onward =>
      obtain ⟨mid, k, m, first, second⟩ := ih onward
      exact ⟨mid, k, m, .up first, second⟩
    | down notUp noNull noLink onward =>
      obtain ⟨mid, k, m, first, second⟩ := ih onward
      exact ⟨mid, k, m, .down notUp noNull noLink first, second⟩
    | through notUp noNull link inner onward =>
      obtain ⟨mid, k, m, first, second⟩ := ih onward
      exact ⟨mid, _, m, .through notUp noNull link inner first, second⟩

end Leads

theorem Reaches.leads {t : FileTree} {n : Nat} {here place : Location} {names : List String}
    {node : Node} (reached : t.Reaches true n here names (.found place node)) :
    ∃ k, t.Leads k here names place := by
  generalize stop : Spot.found place node = spot at reached
  induction reached with
  | here _ =>
    cases stop
    exact ⟨0, .stop⟩
  | up _ _ ih =>
    obtain ⟨k, onward⟩ := ih stop
    exact ⟨k, .up onward⟩
  | free _ _ _ => contradiction
  | link _ _ _ stays => contradiction
  | through _ follows link _ _ ih =>
    obtain ⟨k, onward⟩ := ih stop
    obtain ⟨mid, a, b, inner, onward⟩ := onward.split
    exact ⟨_, .through follows.notUp follows.noNull link inner onward⟩
  | down _ follows dir _ ih =>
    obtain ⟨k, onward⟩ := ih stop
    exact ⟨k, .down follows.notUp follows.noNull (by simp [dir]) onward⟩
  | file _ follows file =>
    cases stop
    exact ⟨0, .down follows.notUp follows.noNull (by simp [file]) .stop⟩

/-! ### Links seen on the way -/

variable {t t' : FileTree}

/-- A link's target leads to a place. -/
def LinkLeads (t : FileTree) (n : Nat) (q place : Location) : Prop :=
  ∃ target, t.find? q = some (.link target) ∧
    t.Leads n (targetOf q.dropLast target).1 (targetOf q.dropLast target).2 place

theorem LinkLeads.unique {n n' : Nat} {q place place' : Location} (first : t.LinkLeads n q place)
    (second : t.LinkLeads n' q place') : n = n' ∧ place = place' := by
  obtain ⟨target, link, leads⟩ := first
  obtain ⟨target', link', leads'⟩ := second
  rw [link] at link'
  cases link'
  exact leads.unique leads'

/-- Links that were followed lead where they were seen to lead. -/
def Seen.Known (t : FileTree) (seen : Seen) : Prop :=
  ∀ q place, seen.lookup q = some (some place) → ∃ k, t.LinkLeads k q place

/-- Links that are being followed cost no less than what is left to follow. -/
structure Seen.Sound (t : FileTree) (n : Nat) (seen : Seen) : Prop where
  known : seen.Known t
  pending : ∀ q, seen.lookup q = some none → ∃ k place, t.LinkLeads k q place ∧ n ≤ k

/-- More was seen later, and what is being followed was so before. -/
structure Seen.Later (seen seen' : Seen) : Prop where
  covers : ∀ q, seen'.lookup q = none → seen.lookup q = none
  pending : ∀ q, seen'.lookup q = some none → seen.lookup q = some none

/-- The steps that an entry asks for when it is followed. -/
def Node.steps : Node → Nat
  | .link target => (Path.ofText target).names.length + 1
  | _ => 0

/-- The steps that links which are not seen yet may still ask for. -/
def stepsLeft (seen : Seen) : List (Location × Node) → Nat
  | [] => 0
  | e :: es => (if (seen.lookup e.1).isSome then 0 else e.2.steps) + stepsLeft seen es

theorem stepsLeft_le {seen seen' : Seen}
    (covers : ∀ q, seen'.lookup q = none → seen.lookup q = none) (es : List (Location × Node)) :
    stepsLeft seen' es ≤ stepsLeft seen es := by
  induction es with
  | nil => exact Nat.le_refl 0
  | cons e es ih =>
    unfold stepsLeft
    cases found : seen'.lookup e.1 with
    | none => simpa [covers e.1 found] using ih
    | some _ =>
      simp only [Option.isSome_some, ↓reduceIte]
      omega

theorem lookup_cons_none {seen : Seen} {q p : Location} {value : Option Location}
    (absent : ((q, value) :: seen).lookup p = none) : seen.lookup p = none := by
  rw [List.lookup_cons] at absent
  split at absent
  · contradiction
  · exact absent

theorem lookup_cons_some {seen : Seen} {q p : Location} {value found : Option Location}
    (held : ((q, value) :: seen).lookup p = some found) :
    p = q ∧ value = found ∨ p ≠ q ∧ seen.lookup p = some found := by
  rw [List.lookup_cons] at held
  split at held
  · rename_i same
    exact .inl ⟨by simpa using same, Option.some.inj held⟩
  · rename_i other
    exact .inr ⟨by simpa using other, held⟩

theorem stepsLeft_cons {es : List (Location × Node)} {seen : Seen} {q : Location} {node : Node}
    (member : (q, node) ∈ es) (unseen : seen.lookup q = none) (value : Option Location) :
    stepsLeft ((q, value) :: seen) es + node.steps ≤ stepsLeft seen es := by
  induction es with
  | nil => simp at member
  | cons e es ih =>
    have rest : stepsLeft ((q, value) :: seen) es ≤ stepsLeft seen es :=
      stepsLeft_le (fun _ => lookup_cons_none) es
    unfold stepsLeft
    rcases List.mem_cons.mp member with rfl | later
    · simp only [List.lookup_cons_self, Option.isSome_some, ↓reduceIte, unseen, Option.isSome_none,
        Bool.false_eq_true]
      omega
    · have here : (if (((q, value) :: seen).lookup e.1).isSome then 0 else e.2.steps) ≤
          if (seen.lookup e.1).isSome then 0 else e.2.steps := by
        cases found : ((q, value) :: seen).lookup e.1 with
        | none => simp [lookup_cons_none found]
        | some _ => simp
      have := ih later
      omega

theorem stepsLeft_append (seen : Seen) (es es' : List (Location × Node)) :
    stepsLeft seen (es ++ es') = stepsLeft seen es + stepsLeft seen es' := by
  induction es with
  | nil => simp [stepsLeft]
  | cons e es ih =>
    rw [List.cons_append, stepsLeft, stepsLeft, ih]
    omega

theorem resolveSteps_eq (t : FileTree) (names : List String) :
    t.resolveSteps names = stepsLeft [] t.entries + names.length + 1 := by
  have sum : ∀ (es : List (Location × Node)) (start : Nat), es.foldl (fun n e =>
      match e.2 with
      | .link target => n + (Path.ofText target).names.length + 1
      | _ => n) start = stepsLeft [] es + start := by
    intro es
    induction es with
    | nil => simp [stepsLeft]
    | cons e es ih =>
      intro start
      obtain ⟨q, node⟩ := e
      rw [List.foldl_cons, ih, stepsLeft]
      cases node <;> simp only [Node.steps, List.lookup_nil, Option.isSome_none, Bool.false_eq_true,
        ↓reduceIte] <;> omega
  exact (sum t.entries (names.length + 1)).trans (by omega)

/-! ### Resolving -/

theorem Seen.Sound.weaken {n m : Nat} {seen : Seen} (sound : Seen.Sound t n seen) (less : m ≤ n) :
    Seen.Sound t m seen := by
  refine ⟨sound.known, fun q found => ?_⟩
  obtain ⟨k, place, leads, enough⟩ := sound.pending q found
  exact ⟨k, place, leads, by omega⟩

/-- Where names lead, they are resolved to the place that they lead to. -/
theorem resolveFrom_leads {n : Nat} {here place : Location} {names : List String}
    (leads : t.Leads n here names place) {fuel : Nat} {seen : Seen} (sound : Seen.Sound t n seen)
    (enough : stepsLeft seen t.entries + names.length + 1 ≤ fuel) :
    ∃ seen', t.resolveFrom fuel seen here names = .ok ⟨place, true, seen'⟩ ∧
      seen'.Known t ∧ seen.Later seen' := by
  induction leads generalizing fuel seen with
  | stop =>
    obtain ⟨fuel, rfl⟩ := Nat.exists_eq_add_one_of_ne_zero (show fuel ≠ 0 by omega)
    exact ⟨seen, rfl, sound.known, fun _ => id, fun _ => id⟩
  | @up n here place rest onward ih =>
    simp only [List.length_cons] at enough
    obtain ⟨fuel, rfl⟩ := Nat.exists_eq_add_one_of_ne_zero (show fuel ≠ 0 by omega)
    simpa [resolveFrom] using ih sound (by omega)
  | @down n here place name rest notUp noNull noLink onward ih =>
    simp only [List.length_cons] at enough
    obtain ⟨fuel, rfl⟩ := Nat.exists_eq_add_one_of_ne_zero (show fuel ≠ 0 by omega)
    have enough' : stepsLeft seen t.entries + rest.length + 1 ≤ fuel := by omega
    have next := ih sound enough'
    simp only [resolveFrom, notUp, ↓reduceIte, List.contains_eq_mem, noNull, decide_false,
      Bool.false_eq_true]
    exact next
  | @through n m here mid place name target rest notUp noNull link inner onward ihInner ihOnward =>
    simp only [List.length_cons] at enough
    obtain ⟨fuel, rfl⟩ := Nat.exists_eq_add_one_of_ne_zero (show fuel ≠ 0 by omega)
    have own : t.LinkLeads n (here ++ [name]) mid := ⟨target, link, by simpa using inner⟩
    simp only [resolveFrom, notUp, ↓reduceIte, List.contains_eq_mem, noNull, decide_false,
      Bool.false_eq_true, link]
    cases met : seen.lookup (here ++ [name]) with
    | some value =>
      cases value with
      | some known =>
        obtain ⟨k, leads⟩ := sound.known _ _ met
        obtain ⟨-, rfl⟩ := own.unique leads
        exact ihOnward (sound.weaken (by omega)) (by omega)
      | none =>
        obtain ⟨k, place', leads, dear⟩ := sound.pending _ met
        have := (own.unique leads).1
        omega
    | none =>
      have steps := stepsLeft_cons (mem_of_find? (by simp) link) met none
      have inside : Seen.Sound t n ((here ++ [name], none) :: seen) := by
        refine ⟨fun q r held => ?_, fun q held => ?_⟩
        · rcases lookup_cons_some held with ⟨-, absurd_⟩ | ⟨-, before⟩
          · contradiction
          · exact sound.known q r before
        · rcases lookup_cons_some held with ⟨rfl, -⟩ | ⟨-, before⟩
          · exact ⟨n, mid, own, Nat.le_refl n⟩
          · exact (sound.weaken (by omega)).pending q before
      have enough₁ : stepsLeft ((here ++ [name], none) :: seen) t.entries +
          (targetOf here target).2.length + 1 ≤ fuel := by
        simp only [Node.steps] at steps
        simp only [targetOf]
        omega
      obtain ⟨seen₁, resolved₁, known₁, later₁⟩ := ihInner inside enough₁
      have after : Seen.Sound t m ((here ++ [name], some mid) :: seen₁) := by
        refine ⟨fun q r held => ?_, fun q held => ?_⟩
        · rcases lookup_cons_some held with ⟨rfl, same⟩ | ⟨-, before⟩
          · cases same
            exact ⟨n, own⟩
          · exact known₁ q r before
        · rcases lookup_cons_some held with ⟨-, absurd_⟩ | ⟨other, before⟩
          · contradiction
          · rcases lookup_cons_some (later₁.pending q before) with ⟨same, -⟩ | ⟨-, earlier⟩
            · exact absurd same other
            · exact (sound.weaken (by omega)).pending q earlier
      have fewer : stepsLeft ((here ++ [name], some mid) :: seen₁) t.entries ≤
          stepsLeft seen t.entries :=
        stepsLeft_le (fun q absent => lookup_cons_none (later₁.covers q (lookup_cons_none absent))) _
      have enough₂ : stepsLeft ((here ++ [name], some mid) :: seen₁) t.entries + rest.length + 1 ≤
          fuel := by omega
      obtain ⟨seen₂, resolved₂, known₂, later₂⟩ := ihOnward after enough₂
      refine ⟨seen₂, ?_, known₂, fun q absent => ?_, fun q held => ?_⟩
      · simp [resolved₁, resolved₂, bind, Except.bind]
      · exact lookup_cons_none (later₁.covers q (lookup_cons_none (later₂.covers q absent)))
      · rcases lookup_cons_some (later₂.pending q held) with ⟨-, absurd_⟩ | ⟨other, before⟩
        · contradiction
        · rcases lookup_cons_some (later₁.pending q before) with ⟨same, -⟩ | ⟨-, earlier⟩
          · exact absurd same other
          · exact earlier

/-- Names that lead to a place are resolved to it in the steps that resolving takes. -/
theorem resolveFrom_eq {n : Nat} {here place : Location} {names : List String}
    (leads : t.Leads n here names place) :
    ∃ seen, t.resolveFrom (t.resolveSteps names) [] here names = .ok ⟨place, true, seen⟩ := by
  have sound : Seen.Sound t n [] := ⟨fun q r held => by simp at held, fun q held => by simp at held⟩
  obtain ⟨seen, resolved, -, -⟩ := resolveFrom_leads leads sound
    (Nat.le_of_eq (resolveSteps_eq t names).symm)
  exact ⟨seen, resolved⟩

variable {s : Surroundings} {p : Path} {place : Location}

/-- A path that leads to an entry is resolved to the place of the entry. -/
theorem resolve_of_status (rooted : t.Rooted) {node : Node} (found : t.status s p = .ok (place, node))
    (noLink : ∀ target, node ≠ .link target) : t.resolve s p = .ok place := by
  obtain ⟨-, reached⟩ := status_eq_ok_iff.mp found
  obtain ⟨k, leads⟩ := reached.leads
  obtain ⟨seen, resolved⟩ := resolveFrom_eq leads
  have held : t.find? ([] ++ place) = some node := reached.holds
  have direct : t.status s (pathOf place) = .ok (place, node) := by
    refine status_eq_ok_iff.mpr ⟨?_, ?_⟩
    · exact fun name member => (rooted.followable held name member).noNull
    · exact rooted.reaches held fun _ => noLink
  simp [resolve, resolved, direct]

/-- Names that do not go up and meet no link are put together. -/
theorem resolveFrom_plain {fuel : Nat} {seen : Seen} {here : Location} {names : List String}
    (notUp : ∀ name ∈ names, name ≠ "..")
    (noLink : ∀ k target, t.find? (here ++ names.take k) ≠ some (.link target))
    (enough : names.length < fuel) {r : Resolved} (resolved : t.resolveFrom fuel seen here names = .ok r) :
    r.place = here ++ names := by
  induction names generalizing fuel here with
  | nil =>
    cases fuel <;>
    · simp only [resolveFrom, Except.ok.injEq] at resolved
      simp [← resolved]
  | cons name rest ih =>
    obtain ⟨fuel, rfl⟩ := Nat.exists_eq_add_one_of_ne_zero (show fuel ≠ 0 by omega)
    have first : ∀ target, t.find? (here ++ [name]) ≠ some (.link target) := by simpa using noLink 1
    simp only [resolveFrom, notUp name (by simp), ↓reduceIte] at resolved
    split at resolved
    · contradiction
    · rw [List.append_cons]
      refine ih (fun other member => notUp other (by simp [member])) (fun k => ?_)
        (by simpa using enough) (by simpa [first] using resolved)
      simpa using noLink (k + 1)

theorem resolve_eq_ok {p : Path} (resolved : t.resolve s p = .ok place) :
    ∃ r, t.resolveFrom (t.resolveSteps p.names) [] (origin s p) p.names = .ok r ∧ r.place = place := by
  unfold resolve at resolved
  split at resolved
  · contradiction
  · rename_i r found
    refine ⟨r, found, ?_⟩
    split at resolved
    · contradiction
    · simpa using resolved

theorem resolve_plain {names : List String} (notUp : ∀ name ∈ names, name ≠ "..")
    (noLink : ∀ k target, t.find? (names.take k) ≠ some (.link target))
    (resolved : t.resolve s (pathOf names) = .ok place) : place = names := by
  obtain ⟨r, found, rfl⟩ := resolve_eq_ok resolved
  have enough : names.length < t.resolveSteps names := by
    have := resolveSteps_eq t names
    omega
  have below : t.resolveFrom (t.resolveSteps names) [] [] names = .ok r := found
  exact resolveFrom_plain notUp noLink enough below

/-! ### Trees that grow -/

theorem resolveFrom_congr
    (links : ∀ q target, t'.find? q = some (.link target) ↔ t.find? q = some (.link target))
    (fuel : Nat) (seen : Seen) (here : Location) (names : List String) :
    t'.resolveFrom fuel seen here names = t.resolveFrom fuel seen here names := by
  induction fuel generalizing seen here names with
  | zero => rfl
  | succ fuel ih =>
    cases names with
    | nil => rfl
    | cons name rest =>
      by_cases link : ∃ target, t.find? (here ++ [name]) = some (.link target)
      · obtain ⟨target, link⟩ := link
        simp only [resolveFrom, ih, link, (links _ _).mpr link]
      · have noLink : ∀ target, t.find? (here ++ [name]) ≠ some (.link target) := by simpa using link
        have noLink' : ∀ target, t'.find? (here ++ [name]) ≠ some (.link target) := fun target held =>
          noLink target ((links _ _).mp held)
        simp only [resolveFrom, ih]

theorem Grows.resolveSteps_eq {fileAt : Location → Prop} (grows : Grows fileAt t t')
    (names : List String) : t'.resolveSteps names = t.resolveSteps names := by
  obtain ⟨extra, entries, new⟩ := grows
  have none_ : stepsLeft [] extra = 0 := by
    clear entries
    induction extra with
    | nil => rfl
    | cons e es ih =>
      rw [stepsLeft, ih fun e member => new e (List.mem_cons_of_mem _ member)]
      rcases (new e (by simp)).2 with dir | ⟨-, bytes, file⟩
      · simp [dir, Node.steps]
      · simp [file, Node.steps]
  rw [FileTree.resolveSteps_eq, FileTree.resolveSteps_eq, entries, stepsLeft_append, none_]
  rfl

/-- Where a path leads in a tree that has grown is the place that it was resolved to before. -/
theorem Grows.resolve_place {fileAt : Location → Prop} (grows : Grows fileAt t t') {node : Node}
    {place' : Location} (resolved : t.resolve s p = .ok place)
    (found : t'.status s p = .ok (place', node)) : place' = place := by
  obtain ⟨r, before, rfl⟩ := resolve_eq_ok resolved
  obtain ⟨-, reached⟩ := status_eq_ok_iff.mp found
  obtain ⟨k, leads⟩ := reached.leads
  obtain ⟨seen, after⟩ := resolveFrom_eq leads
  rw [grows.resolveSteps_eq, resolveFrom_congr fun _ _ => grows.link_iff, before] at after
  cases after
  rfl

end Bindery.FileTree
