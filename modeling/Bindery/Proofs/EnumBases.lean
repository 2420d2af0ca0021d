import Bindery.Declarations
import Bindery.Proofs.Rows

/- Which classes are enumerations. What decides is how a base is written: one of five names must be all of
   it, or stand directly behind its last dot. The base itself is a name, an attribute or what is subscripted;
   so white text behind a dot, or brackets around a base, make another kind of the same class. -/
namespace Bindery

open Body (Base White Tile)

namespace Declaration

/-! ### Last parts -/

theorem toList_lastPart (text : String) :
    (lastPart text).toList = (text.toList.reverse.takeWhile (· ≠ '.')).reverse := by
  rw [lastPart, ModuleName.lastName, String.toList_ofList, Text.getLastD_splitAt]

/-- A text is the name of an enumeration, or has one directly behind a dot at its end. -/
def NamesEnum (text : List Char) : Prop :=
  ∃ n ∈ enumBases, text = n.toList ∨ ∃ front, text = front ++ '.' :: n.toList

/-- No name of an enumeration is parted. -/
theorem enumBases_plain : ∀ n ∈ enumBases, ∀ x ∈ n.toList, x ≠ '.' ∧ Body.isSeparator x = false := by
  have each : ∀ n ∈ enumBases, (n.toList.all fun x => x != '.' && !Body.isSeparator x) = true := by decide
  intro n member x among
  simpa using List.all_eq_true.mp (each n member) x among

theorem lastPart_mem_iff (base : String) : lastPart base ∈ enumBases ↔ NamesEnum base.toList := by
  have parted := List.takeWhile_append_dropWhile (p := fun x => decide (x ≠ '.')) (l := base.toList.reverse)
  constructor
  · intro member
    refine ⟨_, member, ?_⟩
    rw [toList_lastPart]
    cases ends : base.toList.reverse.dropWhile fun x => decide (x ≠ '.') with
    | nil =>
      rw [ends, List.append_nil] at parted
      exact .inl (by rw [parted, List.reverse_reverse])
    | cons x rest =>
      have dot := List.head?_dropWhile_not (fun x => decide (x ≠ '.')) base.toList.reverse
      rw [ends] at parted dot
      obtain rfl : x = '.' := by simpa using dot
      exact .inr ⟨rest.reverse, by simpa using (congrArg List.reverse parted).symm⟩
  · rintro ⟨n, member, whole⟩
    have plain : ∀ x ∈ n.toList.reverse, decide (x ≠ '.') = true :=
      fun x among => decide_eq_true (enumBases_plain n member x (List.mem_reverse.mp among)).1
    suffices same : lastPart base = n by rwa [same]
    rw [← String.toList_inj, toList_lastPart]
    rcases whole with whole | ⟨front, whole⟩
    · rw [whole, List.takeWhile_eq_self_iff.mpr plain, List.reverse_reverse]
    · rw [whole, List.reverse_append, List.reverse_cons, List.append_assoc,
        List.takeWhile_append_of_pos plain]
      simp

/-- An attribute names an enumeration if nothing stands between its last dot and its name. -/
theorem namesEnum_dotted_iff {value gap w : List Char} (white : White gap)
    (word : ∀ x ∈ w, Text.isNameContinue x = true) :
    NamesEnum (value ++ '.' :: (gap ++ w)) ↔ gap = [] ∧ ∃ n ∈ enumBases, w = n.toList := by
  have noDot : Text.isNameContinue '.' = false := by decide +kernel
  have plain : ∀ x ∈ w.reverse, decide (x ≠ '.') = true := by
    intro x among
    refine decide_eq_true fun dot => ?_
    rw [dot] at among
    simp [word _ (List.mem_reverse.mp among)] at noDot
  constructor
  · intro names
    rw [← String.toList_ofList (l := value ++ '.' :: (gap ++ w)), ← lastPart_mem_iff] at names
    generalize part : lastPart (String.ofList (value ++ '.' :: (gap ++ w))) = n at names
    rw [← String.toList_inj, toList_lastPart, String.toList_ofList, List.reverse_append, List.reverse_cons,
      List.reverse_append, List.append_assoc, List.append_assoc, List.takeWhile_append_of_pos plain] at part
    rcases List.eq_nil_or_concat' gap with rfl | ⟨front, s, rfl⟩
    · exact ⟨rfl, n, names, by simpa using part⟩
    · -- the separator that ends the white text gets into the last part
      have separates : Body.isSeparator s = true := white.last s (by simp)
      have other : s ≠ '.' := by
        rintro rfl
        cases separates
      have among : s ∈ n.toList := by simp [← part, other]
      rw [(enumBases_plain n names s among).2] at separates
      cases separates
  · rintro ⟨rfl, n, member, rfl⟩
    exact ⟨n, member, .inr ⟨value, rfl⟩⟩

/-! ### Kinds -/

theorem Kind.ofDefinition_function_iff (c : Body.Definition) :
    Kind.ofDefinition c = .function ↔ c.isClass = false := by
  unfold ofDefinition
  cases c.isClass
  · simp
  · rw [Bool.not_true, if_neg Bool.false_ne_true]
    split <;> simp

theorem Kind.ofDefinition_enum_iff (c : Body.Definition) :
    Kind.ofDefinition c = .enum ↔ c.isClass = true ∧ ∃ base ∈ c.bases, NamesEnum base.toList := by
  have named : (c.bases.any fun base => enumBases.contains (lastPart base)) = true ↔
      ∃ base ∈ c.bases, NamesEnum base.toList := by
    simp only [List.any_eq_true, List.contains_iff_mem, lastPart_mem_iff]
  unfold ofDefinition
  cases c.isClass
  · simp
  · rw [Bool.not_true, if_neg Bool.false_ne_true, ← named]
    split
    · next some_ => exact iff_of_true rfl ⟨rfl, some_⟩
    · next none_ => exact iff_of_false nofun fun both => none_ both.2

/-- Every declaration is made of a definition of the body. -/
theorem definition_of_statements {path : Option String} {found : List Body.Statement} {ds : List Declaration}
    (read : ofStatements path found = .ok ds) {d : Declaration} (inBody : d ∈ ds) :
    ∃ c, .definition c ∈ found.flatMap Body.Statement.parts ∧ d.kind = .ofDefinition c ∧ d.ident = c.name ∧
      d.span = Span.ofPlace path c.start := by
  induction found generalizing ds with
  | nil =>
    cases read
    cases inBody
  | cons statement rest ih =>
    cases statement with
    | other =>
      obtain ⟨c, member, made⟩ := ih read inBody
      exact ⟨c, List.mem_cons_of_mem _ member, made⟩
    | definition decorators c =>
      obtain ⟨own, made, read⟩ := bind_eq_ok_iff.mp read
      obtain ⟨more, others, read⟩ := bind_eq_ok_iff.mp read
      cases read
      rcases List.mem_cons.mp inBody with rfl | later
      · obtain ⟨as, -, same⟩ := bind_eq_ok_iff.mp made
        cases same
        exact ⟨c, by simp [Body.Statement.parts], rfl, rfl, rfl⟩
      · obtain ⟨c', member, made⟩ := ih others later
        exact ⟨c', List.mem_append_right _ member, made⟩

/-- A class is an enumeration if and only if the text of one of its bases is one of five names or has one
    directly behind a dot at its end. Each of these texts stands in that of the class, and is a name there,
    an attribute, or what is subscripted. -/
theorem kind_follows_spelling {source : String} {path : Option String} {ds : List Declaration}
    (read : ofSource source path = .ok ds) {d : Declaration} (inBody : d ∈ ds) :
    ∃ (c : Body.Definition) (before text after : List Char), source.toList = before ++ text ++ after ∧
      d.span = Span.ofPlace path (Place.origin.afterAll before) ∧ d.ident = c.name ∧
      (d.kind = .function ↔ c.isClass = false) ∧
      (d.kind = .enum ↔ c.isClass = true ∧ ∃ base ∈ c.bases, NamesEnum base.toList) ∧
      ∀ base ∈ c.bases, Base text base.toList := by
  unfold ofSource at read
  split at read
  · cases read
  · next found statements =>
    obtain ⟨c, member, kind, ident, span⟩ := definition_of_statements (mapError_eq_ok_iff.mp read) inBody
    obtain ⟨ts, parts, covered, w, tiled, whole, -⟩ := Body.standing_of_read statements
    rw [← parts] at member
    obtain ⟨⟨part, before, text⟩, inTiles, own⟩ := List.mem_map.mp member
    cases own
    obtain ⟨after, within, -⟩ := tiled.ends _ inTiles
    have stands : c.Stands ⟨.definition c, before, text⟩ := tiled.fit _ inTiles
    rw [kind, span, stands.start]
    exact ⟨c, before, text, after ++ w, by rw [whole, within, List.append_assoc], rfl, ident,
      Kind.ofDefinition_function_iff c, Kind.ofDefinition_enum_iff c, stands.bases⟩

/-- One base as it is, subscripted, with a blank behind its dot, and in brackets; and an attribute of no
    name that is called the same. -/
theorem kind_of_spellings :
    ["class C(enum.Enum): pass\n", "class C(enum.Enum[int]): pass\n", "class C(enum. Enum): pass\n",
      "class C((enum.Enum)): pass\n", "class C(f().Enum): pass\n"].map
      (fun source => (ofSource source none).toOption.map fun ds => ds.map Declaration.kind) =
    [some [.enum], some [.enum], some [.struct], some [.struct], some [.enum]] := by
  decide +kernel

end Declaration
end Bindery
