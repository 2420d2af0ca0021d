import Bindery.Proofs.Regeneration

/- Where the output directory of settings may lie. Names that lead somewhere, through links that all end,
   are resolved to a place without links; so the directory is below the root with all links followed, or it
   is refused for what the settings say. A chain of links that never ends is neither: the resolving stops
   with a fault of its own, or it puts the names behind the chain together and follows no link among
   them. -/
namespace Bindery

namespace FileTree

variable {t : FileTree} {s : Surroundings} {n m : Nat} {here mid place : Location}
  {names more : List String} {p : Path}

/-! ### Settled places -/

/-- A place that is spelled out: no name goes up, and there is no link at it or on the way to it. -/
structure Settled (t : FileTree) (place : Location) : Prop where
  notUp : ∀ name ∈ place, name ≠ ".."
  noNull : ∀ name ∈ place, '\x00' ∉ name.toList
  noLink : ∀ k target, t.find? (place.take k) ≠ some (.link target)

theorem Settled.nil (t : FileTree) : t.Settled [] := ⟨by simp, by simp, by simp⟩

/-- In a directory of the tree one can begin to follow names. -/
theorem Settled.of_dir (rooted : t.Rooted) (held : t.find? place = some .dir) : t.Settled place := by
  have below : t.find? ([] ++ place) = some .dir := held
  have follows := rooted.followable below
  refine ⟨fun name member => (follows name member).notUp, fun name member => (follows name member).noNull,
    ?_⟩
  intro k target link
  have dir : t.find? (place.take k) = some .dir := rooted.dir_take below k
  rw [dir] at link
  cases link

theorem Settled.up (settled : t.Settled here) : t.Settled here.dropLast := by
  refine ⟨fun name member => settled.notUp name ((List.dropLast_sublist here).subset member),
    fun name member => settled.noNull name ((List.dropLast_sublist here).subset member), ?_⟩
  intro k target
  rw [List.dropLast_eq_take, List.take_take]
  exact settled.noLink _ target

theorem Settled.down (settled : t.Settled here) {name : String} (notUp : name ≠ "..")
    (noNull : '\x00' ∉ name.toList)
    (noLink : ∀ target, t.find? (here ++ [name]) ≠ some (.link target)) : t.Settled (here ++ [name]) := by
  refine ⟨?_, ?_, ?_⟩
  · simpa [or_imp, forall_and] using ⟨settled.notUp, notUp⟩
  · simpa [or_imp, forall_and] using ⟨settled.noNull, noNull⟩
  · intro k target
    by_cases whole : here.length < k
    · rw [List.take_of_length_le (by simpa using Nat.succ_le_of_lt whole)]
      exact noLink target
    · rw [List.take_append_of_le_length (by omega)]
      exact settled.noLink k target

/-- Names lead from a settled place to a settled place. -/
theorem Leads.settled (leads : t.Leads n here names place) (settled : t.Settled here) :
    t.Settled place := by
  induction leads with
  | stop => exact settled
  | up _ ih => exact ih settled.up
  | down notUp noNull noLink _ ih => exact ih (settled.down notUp noNull noLink)
  | @through n m here mid place name target rest _ _ _ _ _ inner onward =>
    apply onward
    apply inner
    unfold targetOf
    dsimp only
    split
    · exact .nil t
    · exact settled

theorem Leads.append (first : t.Leads n here names mid) (second : t.Leads m mid more place) :
    ∃ k, t.Leads k here (names ++ more) place := by
  induction first with
  | stop => exact ⟨m, second⟩
  | up _ ih =>
    obtain ⟨k, onward⟩ := ih second
    exact ⟨k, .up onward⟩
  | down notUp noNull noLink _ ih =>
    obtain ⟨k, onward⟩ := ih second
    exact ⟨k, .down notUp noNull noLink onward⟩
  | through notUp noNull link inner _ _ ih =>
    obtain ⟨k, onward⟩ := ih second
    exact ⟨_, .through notUp noNull link inner onward⟩

/-- The names of a settled place lead to it. -/
theorem Settled.leads (settled : t.Settled place) : ∃ n, t.Leads n [] place place := by
  induction place using List.reverseRecOn with
  | nil => exact ⟨0, .stop⟩
  | append_singleton here name ih =>
    have above : t.Settled here := by simpa using settled.up
    obtain ⟨n, first⟩ := ih above
    have noLink : ∀ target, t.find? (here ++ [name]) ≠ some (.link target) := by
      simpa [List.take_of_length_le] using settled.noLink (here.length + 1)
    exact first.append (.down (settled.notUp name (by simp)) (settled.noNull name (by simp)) noLink .stop)

/-- Following the names of a settled place passes no link. -/
theorem followWith_settled {last : Bool} {onLink : Location → List String → Except FileError Spot}
    (notUp : ∀ name ∈ names, name ≠ "..")
    (noLink : ∀ k target, t.find? (here ++ names.take k) ≠ some (.link target)) :
    t.followWith last onLink here names ≠ .error .tooManyLinks := by
  induction names generalizing here with
  | nil =>
    unfold followWith
    split <;> simp
  | cons name rest ih =>
    have first : ∀ target, t.find? (here ++ [name]) ≠ some (.link target) := by simpa using noLink 1
    have later : t.followWith last onLink (here ++ [name]) rest ≠ .error .tooManyLinks := by
      apply ih (fun other member => notUp other (List.mem_cons_of_mem name member))
      intro k
      simpa using noLink (k + 1)
    by_cases above : t.find? here = some .dir
    swap
    · rw [followWith, if_pos above]
      split <;> simp
    by_cases null : '\x00' ∈ name.toList
    · simp [followWith, above, null]
    by_cases long : maxName < name.utf8ByteSize
    · simp [followWith, above, null, notUp name, long]
    rw [followWith_cons above ⟨notUp name List.mem_cons_self, null, by omega⟩]
    cases held : t.find? (here ++ [name]) with
    | none => cases rest <;> simp
    | some node =>
      cases node with
      | link target => exact absurd held (first target)
      | dir => exact later
      | file bytes => cases rest <;> simp

/-- A path whose names lead somewhere is resolved to that place. -/
theorem resolve_of_leads (settled : t.Settled (origin s p))
    (leads : t.Leads n (origin s p) p.names place) : t.resolve s p = .ok place := by
  obtain ⟨seen, resolved⟩ := resolveFrom_eq leads
  have ends := leads.settled settled
  have passes : t.spot s (pathOf place) ≠ .error .tooManyLinks := by
    unfold spot
    split
    · simp
    · rw [follow_eq]
      exact followWith_settled ends.notUp ends.noLink
  unfold resolve
  rw [resolved]
  dsimp only
  split
  · rename_i q refused
    unfold status at refused
    split at refused
    · cases refused
    · cases refused
    · rename_i e stopped
      cases refused
      exact absurd stopped passes
  · rfl

/-! ### Links that end -/

/-- Every link leads to a place. -/
def Unlooped (t : FileTree) : Prop :=
  ∀ q target, t.find? q = some (.link target) → ∃ n place, t.LinkLeads n q place

theorem leads_of_unlooped (unlooped : t.Unlooped) (here : Location)
    (clean : ∀ name ∈ names, '\x00' ∉ name.toList) : ∃ n place, t.Leads n here names place := by
  induction names generalizing here with
  | nil => exact ⟨0, here, .stop⟩
  | cons name rest ih =>
    obtain ⟨noNull, clean⟩ := List.forall_mem_cons.mp clean
    by_cases up : name = ".."
    · obtain ⟨n, place, onward⟩ := ih here.dropLast clean
      exact ⟨n, place, up ▸ .up onward⟩
    · by_cases link : ∃ target, t.find? (here ++ [name]) = some (.link target)
      · obtain ⟨target, link⟩ := link
        obtain ⟨k, mid, target', link', inner⟩ := unlooped _ target link
        obtain rfl : target = target' := by simpa [link] using link'
        obtain ⟨m, place, onward⟩ := ih mid clean
        exact ⟨_, place, .through up noNull link (by simpa using inner) onward⟩
      · obtain ⟨n, place, onward⟩ := ih (here ++ [name]) clean
        exact ⟨n, place, .down up noNull (fun target held => link ⟨target, held⟩) onward⟩

/-- Nothing but a null character keeps names from being resolved one after the other. -/
theorem resolveFrom_refused {fuel : Nat} {seen : Seen} {e : FileError}
    (refused : t.resolveFrom fuel seen here names = .error e) : e = .nullCharacter := by
  induction fuel generalizing seen here names with
  | zero => simp [resolveFrom] at refused
  | succ fuel ih =>
    cases names with
    | nil => simp [resolveFrom] at refused
    | cons name rest =>
      simp only [resolveFrom] at refused
      split at refused
      · exact ih refused
      · split at refused
        · cases refused
          rfl
        · split at refused
          · split at refused
            · exact ih refused
            · cases refused
            · rcases bind_eq_error_iff.mp refused with inner | ⟨r, -, onward⟩
              · exact ih inner
              · split at onward
                · exact ih onward
                · cases onward
          · exact ih refused

theorem resolve_refused {fault : FileFault} (refused : t.resolve s p = .error (.refused fault)) :
    fault = ⟨.nullCharacter, p⟩ := by
  unfold resolve at refused
  split at refused
  · rename_i e stopped
    obtain rfl := resolveFrom_refused stopped
    cases refused
    rfl
  · split at refused <;> cases refused

end FileTree

/-! ### The output directory of settings -/

namespace Settings

open FileTree

variable {t : FileTree} {s : Surroundings} {root : Path} {top place : Location} {directory : String}
  {n m : Nat}

/-- What settings are refused for. That a path cannot be resolved is no such thing. -/
def OutputFault.IsRefusal : OutputFault → Prop
  | .resolve _ => False
  | _ => True

/-- Settings that name a relative directory are refused only if it leads out of the root. -/
theorem outputPlace_relative (named : directory.isEmpty = false)
    (relative : (directory.startsWith "~" || (Path.ofText directory).isAbsolute) = false) :
    outputPlace t s root directory =
      (t.resolve s root).mapError .resolve >>= fun top =>
        (t.resolve s ((pathOf top).join (Path.ofText directory))).mapError .resolve >>= fun place =>
          if top.isPrefixOf place then .ok place else .error (.escapes directory) := by
  unfold outputPlace
  rw [if_neg (by simp [named]), if_neg (by simp [relative])]
  rfl

/-- Any others are refused for what they say. -/
theorem outputPlace_misnamed (t : FileTree) (s : Surroundings) (root : Path)
    (misnamed : ¬ (directory.isEmpty = false ∧
      (directory.startsWith "~" || (Path.ofText directory).isAbsolute) = false)) :
    outputPlace t s root directory = .error .empty ∨
      outputPlace t s root directory = .error .notRelative := by
  unfold outputPlace
  cases empty : directory.isEmpty with
  | true => exact .inl rfl
  | false =>
    have absolute : (directory.startsWith "~" || (Path.ofText directory).isAbsolute) = true :=
      eq_true_of_ne_false fun relative => misnamed ⟨empty, relative⟩
    rw [if_neg (by simp), if_pos absolute]
    exact .inr rfl

theorem resolve_stops {p : Path} {fault : ResolveFault} (stopped : t.resolve s p = .error fault) :
    (∃ q, fault = .loop q) ∨ ∃ p, fault = .refused ⟨.nullCharacter, p⟩ := by
  cases fault with
  | loop q => exact .inl ⟨q, rfl⟩
  | refused fault =>
    obtain rfl := resolve_refused stopped
    exact .inr ⟨p, rfl⟩

/-- In every tree: the directory is at the root or below it, or the settings are refused, or a path
    cannot be resolved, for a chain of links without end or a null character. -/
theorem outputPlace_cases (t : FileTree) (s : Surroundings) (root : Path) (directory : String) :
    (∃ top place, t.resolve s root = .ok top ∧ outputPlace t s root directory = .ok place ∧
      top <+: place) ∨
    (∃ fault, outputPlace t s root directory = .error fault ∧ fault.IsRefusal) ∨
    ∃ fault, outputPlace t s root directory = .error (.resolve fault) ∧
      ((∃ q, fault = .loop q) ∨ ∃ p, fault = .refused ⟨.nullCharacter, p⟩) := by
  by_cases named : directory.isEmpty = false ∧
      (directory.startsWith "~" || (Path.ofText directory).isAbsolute) = false
  swap
  · rcases outputPlace_misnamed t s root named with empty | absolute
    · exact .inr (.inl ⟨_, empty, trivial⟩)
    · exact .inr (.inl ⟨_, absolute, trivial⟩)
  rw [outputPlace_relative named.1 named.2]
  cases root_ : t.resolve s root with
  | error fault => exact .inr (.inr ⟨fault, rfl, resolve_stops root_⟩)
  | ok top =>
    cases resolved : t.resolve s ((pathOf top).join (Path.ofText directory)) with
    | error fault =>
      exact .inr (.inr ⟨fault, by simp [resolved, bind, Except.bind], resolve_stops resolved⟩)
    | ok place =>
      by_cases inside : top.isPrefixOf place = true
      · exact .inl ⟨top, place, rfl, by simp [resolved, inside, bind, Except.bind],
          List.isPrefixOf_iff_prefix.mp inside⟩
      · exact .inr (.inl ⟨.escapes directory, by simp [resolved, inside, bind, Except.bind], trivial⟩)

/-- Where the names lead somewhere, the settings name the place where they lead, and are refused only if
    it is not below the root. -/
theorem outputPlace_of_leads (settled : t.Settled (origin s root))
    (root_ : t.Leads n (origin s root) root.names top) (named : directory.isEmpty = false)
    (relative : (directory.startsWith "~" || (Path.ofText directory).isAbsolute) = false)
    (leads : t.Leads m top (Path.ofText directory).names place) :
    outputPlace t s root directory =
      if top.isPrefixOf place then .ok place else .error (.escapes directory) := by
  have joined : (pathOf top).join (Path.ofText directory) =
      pathOf (top ++ (Path.ofText directory).names) := by
    have noRoot : (Path.ofText directory).isAbsolute = false := (Bool.or_eq_false_iff.mp relative).2
    simp [Path.join, noRoot, pathOf]
  obtain ⟨k, whole⟩ := (root_.settled settled).leads
  obtain ⟨k, whole⟩ := whole.append leads
  have resolved : t.resolve s (pathOf (top ++ (Path.ofText directory).names)) = .ok place :=
    resolve_of_leads (.nil t) whole
  rw [outputPlace_relative named relative, resolve_of_leads settled root_]
  simp [joined, resolved, bind, Except.bind]

/-- In a tree whose links all lead to a place the directory is a place without links at the root or below
    it, the one to which the names of the settings lead, or the settings are refused. -/
theorem outputPlace_contained (rooted : t.Rooted) (home : t.find? s.workingDirectory = some .dir)
    (unlooped : t.Unlooped) (clean : ∀ name ∈ root.names, '\x00' ∉ name.toList)
    (clean' : '\x00' ∉ directory.toList) :
    (∃ top place n, t.resolve s root = .ok top ∧ outputPlace t s root directory = .ok place ∧
      t.Leads n top (Path.ofText directory).names place ∧ t.Settled place ∧ top <+: place) ∨
    ∃ fault, outputPlace t s root directory = .error fault ∧ fault.IsRefusal := by
  by_cases named : directory.isEmpty = false ∧
      (directory.startsWith "~" || (Path.ofText directory).isAbsolute) = false
  swap
  · rcases outputPlace_misnamed t s root named with empty | absolute
    · exact .inr ⟨_, empty, trivial⟩
    · exact .inr ⟨_, absolute, trivial⟩
  have settled : t.Settled (origin s root) := by
    unfold origin
    split
    · exact .nil t
    · exact .of_dir rooted home
  have clean'' : ∀ name ∈ (Path.ofText directory).names, '\x00' ∉ name.toList :=
    fun name member null => clean' (Path.mem_of_mem_names member null)
  obtain ⟨n, top, root_⟩ := leads_of_unlooped unlooped (origin s root) clean
  obtain ⟨m, place, leads⟩ := leads_of_unlooped unlooped top clean''
  rw [outputPlace_of_leads settled root_ named.1 named.2 leads]
  by_cases inside : top.isPrefixOf place = true
  · have ends := leads.settled (root_.settled settled)
    exact .inl ⟨top, place, m, resolve_of_leads settled root_, if_pos inside, leads, ends,
      List.isPrefixOf_iff_prefix.mp inside⟩
  · exact .inr ⟨_, if_neg inside, trivial⟩

/-- A link that leads to itself, beside one that leads out of the root. -/
def loopedTree : FileTree :=
  ⟨[(["out"], .dir), (["tree"], .dir), (["tree", "loop"], .link "loop"),
    (["tree", "way"], .link "../out")]⟩

/-- The link to itself cannot be resolved, and hides the other one from being followed: the directory is
    outside of the root, and is not refused. -/
theorem loopedTree_leaves_the_root :
    outputPlace loopedTree ⟨[], "/home"⟩ ⟨0, ["tree"]⟩ "loop" =
      .error (.resolve (.loop ⟨1, ["tree", "loop"]⟩)) ∧
    outputPlace loopedTree ⟨[], "/home"⟩ ⟨0, ["tree"]⟩ "a\x00b" =
      .error (.resolve (.refused ⟨.nullCharacter, ⟨1, ["tree", "a\x00b"]⟩⟩)) ∧
    outputPlace loopedTree ⟨[], "/home"⟩ ⟨0, ["tree"]⟩ "loop/../way" = .ok ["tree", "way"] ∧
    loopedTree.status ⟨[], "/home"⟩ (pathOf ["tree", "way"]) = .ok (["out"], .dir) ∧
    outputPlace loopedTree ⟨[], "/home"⟩ ⟨0, ["tree"]⟩ "way" = .error (.escapes "way") := by
  decide +kernel

end Settings
end Bindery
