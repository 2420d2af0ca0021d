import Mathlib.Data.List.Basic
import Mathlib.Data.List.Forall2
import Mathlib.Data.List.Induction
import Mathlib.Data.List.Nodup
import Mathlib.Data.List.Perm.Subperm
import Bindery.Binding

/- Checking the arguments of a directive. Each argument that offends is reported once, in the order of the
   arguments and with the first rule that it breaks. When none offends, the values are those that were
   given: of two under one key the later, so that every argument is kept exactly when no key comes twice. -/
namespace Bindery

namespace Argument

variable {allowed : List String} {a : Argument} {fault : ArgumentFault} {e : String × String}

/-- The first rule that an argument breaks. -/
inductive Breaks (allowed : List String) (a : Argument) : ArgumentFault → Prop
  | positional (keyless : a.key = none) : Breaks allowed a (.positional a.source)
  | unrecognized {key : String} (keyed : a.key = some key) (unknown : key ∉ allowed) :
      Breaks allowed a (.unrecognized key allowed)
  | notText {key : String} (keyed : a.key = some key) (known : key ∈ allowed)
      (other : ∀ s, a.value ≠ some (.text s)) : Breaks allowed a (.notText key a.source)
  | empty {key : String} (keyed : a.key = some key) (known : key ∈ allowed)
      (nothing : a.value = some (.text "")) : Breaks allowed a (.empty key)

/-- An argument that is positional, that has a key which is not allowed, whose value is no text literal, or
    whose text is empty. -/
def Offends (allowed : List String) (a : Argument) : Prop :=
  a.key = none ∨ (∃ key, a.key = some key ∧ key ∉ allowed) ∨ (∀ s, a.value ≠ some (.text s)) ∨
    a.value = some (.text "")

/-- An argument gives a text under a key. -/
structure Gives (a : Argument) (e : String × String) : Prop where
  key : a.key = some e.1
  text : a.value = some (.text e.2)
  filled : e.2 ≠ ""

theorem check_cases (allowed : List String) (a : Argument) :
    (∃ fault, a.check allowed = .error fault ∧ a.Breaks allowed fault ∧ a.Offends allowed) ∨
    ∃ e, a.check allowed = .ok e ∧ a.Gives e ∧ ¬ a.Offends allowed := by
  unfold check
  cases keyed : a.key with
  | none => exact .inl ⟨_, rfl, .positional keyed, .inl keyed⟩
  | some key =>
    dsimp only
    by_cases known : key ∈ allowed
    · rw [if_neg (by simpa using known)]
      split
      · next s given =>
        by_cases nothing : s = ""
        · subst nothing
          exact .inl ⟨_, rfl, .empty keyed known given, .inr (.inr (.inr given))⟩
        · refine .inr ⟨(key, s), if_neg (by simpa using nothing), ⟨keyed, given, nothing⟩, ?_⟩
          simp [Offends, keyed, known, given, nothing]
      · next other =>
        exact .inl ⟨_, rfl, .notText keyed known other, .inr (.inr (.inl other))⟩
    · rw [if_pos (by simpa using known)]
      exact .inl ⟨_, rfl, .unrecognized keyed known, .inr (.inl ⟨key, keyed, known⟩)⟩

theorem offends_iff : a.Offends allowed ↔ (a.check allowed).toOption = none := by
  rcases check_cases allowed a with ⟨fault, refused, -, offends⟩ | ⟨e, accepted, -, sound⟩
  · simp [refused, offends, Except.toOption]
  · simp [accepted, sound, Except.toOption]

instance : DecidablePred (Offends allowed) := fun _ => decidable_of_iff _ offends_iff.symm

end Argument

namespace Arguments

variable {directive ident : String} {allowed : List String} {span : Option Span} {args : List Argument}

/-! ### Values by key -/

section
variable (values : List (String × String)) (key text other : String)

theorem lookup_cons_eq (e : String × String) :
    (e :: values).lookup other = if other = e.1 then some e.2 else values.lookup other := by
  by_cases here : other = e.1
  · rw [if_pos here, here, List.lookup_cons_self]
  · rw [if_neg here, List.lookup_cons, beq_eq_false_iff_ne.mpr here]

theorem lookup_overwritten :
    (values.map fun e => if e.1 == key then (key, text) else e).lookup other =
      if other = key then (values.lookup key).map fun _ => text else values.lookup other := by
  induction values with
  | nil => simp
  | cons e values ih =>
    rw [List.map_cons, lookup_cons_eq, ih, lookup_cons_eq, lookup_cons_eq]
    by_cases own : e.1 = key
    · by_cases here : other = key <;> simp [own, here]
    · by_cases here : other = key
      · simp [own, here, Ne.symm own]
      · simp [own, here]

/-- A value that is put is found under its key, and all others are found as before. -/
theorem lookup_put :
    (put values key text).lookup other = if other = key then some text else values.lookup other := by
  unfold put
  split
  · next known =>
    obtain ⟨old, found⟩ : ∃ old, values.lookup key = some old := by
      rw [← Option.isSome_iff_exists, List.lookup_isSome_iff]
      obtain ⟨e, member, own⟩ := List.any_eq_true.mp known
      exact ⟨e, member, by rwa [beq_iff_eq, eq_comm, ← beq_iff_eq]⟩
    rw [lookup_overwritten, found]
    rfl
  · next unknown =>
    have absent : values.lookup key = none := by
      rw [List.lookup_eq_none_iff]
      intro e member
      rw [bne_iff_ne]
      rintro rfl
      exact unknown (List.any_eq_true.mpr ⟨e, member, beq_self_eq_true _⟩)
    rw [List.lookup_append, lookup_cons_eq]
    by_cases here : other = key <;> simp [here, absent]

theorem mem_put {e : String × String} (member : e ∈ put values key text) :
    e ∈ values ∨ e = (key, text) := by
  unfold put at member
  split at member
  · obtain ⟨old, among, rfl⟩ := List.mem_map.mp member
    split
    · exact .inr rfl
    · exact .inl among
  · simpa using member

theorem keys_put : (put values key text).map Prod.fst =
    if key ∈ values.map Prod.fst then values.map Prod.fst else values.map Prod.fst ++ [key] := by
  have known : values.any (·.1 == key) = true ↔ key ∈ values.map Prod.fst := by simp
  have same : ((fun e : String × String => e.1) ∘ fun e => if e.1 = key then (key, text) else e) =
      Prod.fst := by
    funext e
    by_cases here : e.1 = key <;> simp [here]
  unfold put
  by_cases here : key ∈ values.map Prod.fst
  · rw [if_pos (known.mpr here), if_pos here, List.map_map]
    simp [same]
  · rw [if_neg (mt known.mp here), if_neg here, List.map_append]
    rfl

end

/-- The values that are left when entries are put in one after the other. -/
def gathered (es : List (String × String)) : List (String × String) :=
  es.foldl (fun values e => put values e.1 e.2) []

variable {es : List (String × String)} {e : String × String} {key : String}

theorem gathered_snoc : gathered (es ++ [e]) = put (gathered es) e.1 e.2 := by
  simp [gathered]

theorem mem_of_mem_gathered (member : e ∈ gathered es) : e ∈ es := by
  induction es using List.reverseRecOn with
  | nil => exact member
  | append_singleton es last ih =>
    rw [gathered_snoc] at member
    rw [List.mem_append, List.mem_singleton]
    exact (mem_put _ _ _ member).imp_left ih

/-- By induction from the end: the last entry under a key counts. -/
theorem lookup_gathered : (gathered es).lookup key = es.reverse.lookup key := by
  induction es using List.reverseRecOn with
  | nil => rfl
  | append_singleton es e ih =>
    rw [gathered_snoc, lookup_put, ih, List.reverse_append, List.reverse_singleton,
      List.singleton_append, lookup_cons_eq]

theorem mem_keys_gathered : key ∈ (gathered es).map Prod.fst ↔ key ∈ es.map Prod.fst := by
  induction es using List.reverseRecOn with
  | nil => rfl
  | append_singleton es e ih =>
    rw [gathered_snoc, keys_put, List.map_append, List.mem_append, ← ih]
    split
    · next known =>
      refine ⟨.inl, fun either => either.elim id fun last => ?_⟩
      obtain rfl : key = e.1 := by simpa using last
      exact known
    · simp

theorem nodup_keys_gathered : ((gathered es).map Prod.fst).Nodup := by
  induction es using List.reverseRecOn with
  | nil => exact .nil
  | append_singleton es e ih =>
    rw [gathered_snoc, keys_put]
    split
    · exact ih
    · next unknown =>
      refine List.nodup_append.mpr ⟨ih, List.nodup_singleton _, fun key member last own => ?_⟩
      rw [List.mem_singleton.mp own]
      rintro rfl
      exact unknown member

/-- Every entry is kept as it is when no key comes twice. -/
theorem gathered_of_nodup (distinct : (es.map Prod.fst).Nodup) : gathered es = es := by
  induction es using List.reverseRecOn with
  | nil => rfl
  | append_singleton es e ih =>
    rw [List.map_append, List.nodup_append] at distinct
    obtain ⟨before, -, apart⟩ := distinct
    have unknown : ¬ (es.any (·.1 == e.1) = true) := by
      intro known
      obtain ⟨e', member, same⟩ := List.any_eq_true.mp known
      exact apart e'.1 (List.mem_map_of_mem member) e.1 (by simp) (by simpa using same)
    rw [gathered_snoc, ih before, put, if_neg unknown]

/-- As many values are left as entries were put in exactly when no key comes twice. -/
theorem length_gathered_iff : (gathered es).length = es.length ↔ (es.map Prod.fst).Nodup := by
  constructor
  · intro all
    have within : (gathered es).map Prod.fst ⊆ es.map Prod.fst := fun _ => mem_keys_gathered.mp
    have same := (nodup_keys_gathered.subperm within).perm_of_length_le (by simp [all])
    exact same.nodup_iff.mp nodup_keys_gathered
  · intro distinct
    rw [gathered_of_nodup distinct]

/-! ### What the check reports and keeps -/

/-- A diagnostic that reports an argument, with the first rule that it breaks. -/
structure Reports (directive : String) (allowed : List String) (span : Option Span) (a : Argument)
    (d : Diagnostic) : Prop where
  fault : ∃ fault, a.Breaks allowed fault ∧ d.message = fault.message directive
  place : d.span = if a.span.line.isSome then a.span else span.getD {}

/-- Texts that were given by arguments, the last argument of a key counting. -/
structure Keeps (args : List Argument) (values : List (String × String)) : Prop where
  keys : ∀ key, key ∈ values.map Prod.fst ↔ ∃ a ∈ args, a.key = some key
  unique : (values.map Prod.fst).Nodup
  given : ∀ e ∈ values, ∃ a ∈ args, a.Gives e
  last : ∀ before a after, args = before ++ a :: after → (∀ b ∈ after, b.key ≠ a.key) →
    ∃ e, a.Gives e ∧ values.lookup e.1 = some e.2

/-- By induction on the arguments. -/
theorem faults_report : List.Forall₂ (Reports directive allowed span)
    (args.filter (·.Offends allowed)) (faults directive allowed span args) := by
  induction args with
  | nil => exact .nil
  | cons a args ih =>
    rw [faults, List.filterMap_cons, ← faults]
    rcases a.check_cases allowed with ⟨fault, refused, breaks, offends⟩ | ⟨e, kept, -, sound⟩
    · rw [refused, List.filter_cons_of_pos (by simpa using offends)]
      exact .cons ⟨⟨fault, breaks, rfl⟩, rfl⟩ ih
    · rw [kept, List.filter_cons_of_neg (by simpa using sound)]
      exact ih

theorem accepted_gives (sound : ∀ a ∈ args, ¬ a.Offends allowed) :
    List.Forall₂ Argument.Gives args (accepted allowed args) := by
  induction args with
  | nil => exact .nil
  | cons a args ih =>
    obtain ⟨own, others⟩ := List.forall_mem_cons.mp sound
    rcases a.check_cases allowed with ⟨-, -, -, offends⟩ | ⟨e, kept, gives, -⟩
    · exact absurd offends own
    · rw [accepted, List.filterMap_cons, kept]
      exact .cons gives (ih others)

section
variable (gives : List.Forall₂ Argument.Gives args es)
include gives

theorem keys_of_gives : args.map Argument.key = (es.map Prod.fst).map some := by
  induction gives with
  | nil => rfl
  | cons own _ ih => simp [own.key, ih]

theorem mem_keys_iff_of_gives : key ∈ es.map Prod.fst ↔ ∃ a ∈ args, a.key = some key := by
  have same : some key ∈ args.map Argument.key ↔ key ∈ es.map Prod.fst := by
    simp [keys_of_gives gives]
  rw [← same, List.mem_map]

theorem given_of_gives (member : e ∈ es) : ∃ a ∈ args, a.Gives e := by
  induction gives with
  | nil => exact absurd member List.not_mem_nil
  | @cons a _ _ _ own _ ih =>
    rcases List.mem_cons.mp member with rfl | later
    · exact ⟨a, List.mem_cons_self, own⟩
    · obtain ⟨b, among, its⟩ := ih later
      exact ⟨b, List.mem_cons_of_mem _ among, its⟩

/-- By induction on the arguments before the last one of a key. -/
theorem last_of_gives {before after : List Argument} {a : Argument}
    (split : args = before ++ a :: after) (last : ∀ b ∈ after, b.key ≠ a.key) :
    ∃ e, a.Gives e ∧ es.reverse.lookup e.1 = some e.2 := by
  induction before generalizing args es with
  | nil =>
    subst split
    cases gives with
    | @cons _ e _ es own others =>
      refine ⟨e, own, ?_⟩
      have absent : es.reverse.lookup e.1 = none := by
        rw [List.lookup_eq_none_iff]
        intro later member
        rw [bne_iff_ne]
        intro same
        obtain ⟨b, among, its⟩ := given_of_gives others (List.mem_reverse.mp member)
        exact last b among (by rw [its.key, own.key, same])
      rw [List.reverse_cons, List.lookup_append, absent, lookup_cons_eq, if_pos rfl]
      rfl
  | cons b before ih =>
    subst split
    cases gives with
    | @cons _ first _ es _ others =>
      obtain ⟨e, its, found⟩ := ih others rfl
      exact ⟨e, its, by rw [List.reverse_cons, List.lookup_append, found]; rfl⟩

theorem gathered_keeps : Keeps args (gathered es) where
  keys key := mem_keys_gathered.trans (mem_keys_iff_of_gives gives)
  unique := nodup_keys_gathered
  given e member := given_of_gives gives (mem_of_mem_gathered member)
  last before a after split last := by
    obtain ⟨e, its, found⟩ := last_of_gives gives split last
    exact ⟨e, its, lookup_gathered.trans found⟩

/-- As many values are kept as there are arguments exactly when no key comes twice. -/
theorem length_gathered_of_gives :
    (gathered es).length = args.length ↔ (args.map Argument.key).Nodup := by
  rw [gives.length_eq, length_gathered_iff, keys_of_gives gives,
    List.nodup_map_iff fun _ _ => Option.some.inj]

end

theorem ofList_cases (directive ident : String) (allowed : List String) (span : Option Span)
    (args : List Argument) :
    (∃ batch, ofList directive ident args allowed span = .error batch ∧
      (∃ a ∈ args, a.Offends allowed) ∧
      List.Forall₂ (Reports directive allowed span) (args.filter (·.Offends allowed)) batch.toList) ∨
    (∃ es, ofList directive ident args allowed span = .ok ⟨directive, ident, gathered es⟩ ∧
      (∀ a ∈ args, ¬ a.Offends allowed) ∧ List.Forall₂ Argument.Gives args es) := by
  have reported : List.Forall₂ (Reports directive allowed span) (args.filter (·.Offends allowed))
      (faults directive allowed span args) := faults_report
  unfold ofList
  cases found : Diagnostic.Batch.ofList? (faults directive allowed span args) with
  | some batch =>
    rw [Diagnostic.Batch.ofList?_eq_some_iff] at found
    refine .inl ⟨batch, rfl, ?_, found ▸ reported⟩
    by_contra none
    have nothing : args.filter (·.Offends allowed) = [] := by
      rw [List.filter_eq_nil_iff]
      exact fun a member offends => none ⟨a, member, of_decide_eq_true offends⟩
    rw [nothing, ← found] at reported
    cases reported
  | none =>
    rw [Diagnostic.Batch.ofList?_eq_none_iff] at found
    rw [found] at reported
    have sound : ∀ a ∈ args, ¬ a.Offends allowed := by
      have nothing := List.forall₂_nil_right_iff.mp reported
      rw [List.filter_eq_nil_iff] at nothing
      exact fun a member offends => nothing a member (decide_eq_true offends)
    exact .inr ⟨_, rfl, sound, accepted_gives sound⟩

section
variable {values : List (String × String)} (keeps : Keeps args values)
include keeps

/-- The last argument for a name gives it. -/
theorem name_of_last {before after : List Argument} {a : Argument}
    (split : args = before ++ a :: after) (own : a.key = some "name")
    (last : ∀ b ∈ after, b.key ≠ some "name") :
    a.value = some (.text (name ⟨directive, ident, values⟩)) := by
  obtain ⟨e, its, found⟩ := keeps.last before a after split (own ▸ last)
  have here : e.1 = "name" := Option.some.inj (its.key.symm.trans own)
  rw [here] at found
  rw [its.text, name, get?, found]
  rfl

theorem lookup_name_of_unnamed (unnamed : ∀ a ∈ args, a.key ≠ some "name") :
    values.lookup "name" = none := by
  rw [List.lookup_eq_none_iff]
  intro e member
  rw [bne_iff_ne]
  intro here
  obtain ⟨a, among, its⟩ := keeps.given e member
  exact unnamed a among (its.key.trans (congrArg some here.symm))

theorem name_ne_empty (named : ident ≠ "") : name ⟨directive, ident, values⟩ ≠ "" := by
  rw [name, get?]
  cases found : values.lookup "name" with
  | none => exact named
  | some text =>
    obtain ⟨before, after, parts, -⟩ := List.lookup_eq_some_iff.mp found
    obtain ⟨a, -, its⟩ := keeps.given ("name", text) (by simp [parts])
    exact its.filled

end

/-- The check refuses a list exactly when some argument offends, with one diagnostic for each that does, in
    their order. What it accepts has the keys of the arguments, each with a text that was given for it, and
    is named by its name argument or else by the identifier. -/
theorem ofList_reports_each (directive ident : String) (allowed : List String) (span : Option Span)
    (args : List Argument) :
    ((∃ batch, ofList directive ident args allowed span = .error batch) ↔
      ∃ a ∈ args, a.Offends allowed) ∧
    (∀ batch, ofList directive ident args allowed span = .error batch →
      List.Forall₂ (Reports directive allowed span) (args.filter (·.Offends allowed)) batch.toList) ∧
    ∀ checked, ofList directive ident args allowed span = .ok checked →
      checked.directive = directive ∧ checked.ident = ident ∧ Keeps args checked.values ∧
      (∀ before a after, args = before ++ a :: after → a.key = some "name" →
        (∀ b ∈ after, b.key ≠ some "name") → a.value = some (.text checked.name)) ∧
      ((∀ a ∈ args, a.key ≠ some "name") → checked.name = ident) ∧
      (ident ≠ "" → checked.name ≠ "") := by
  rcases ofList_cases directive ident allowed span args with
    ⟨batch, refused, offending, reported⟩ | ⟨es, accepted, sound, gives⟩
  · rw [refused]
    refine ⟨⟨fun _ => offending, fun _ => ⟨batch, rfl⟩⟩, ?_, by rintro _ ⟨⟩⟩
    rintro _ ⟨⟩
    exact reported
  · rw [accepted]
    refine ⟨⟨by rintro ⟨_, ⟨⟩⟩, ?_⟩, by rintro _ ⟨⟩, ?_⟩
    · rintro ⟨a, member, offends⟩
      exact absurd offends (sound a member)
    · rintro _ ⟨⟩
      have keeps := gathered_keeps gives
      refine ⟨rfl, rfl, keeps, fun _ _ _ => name_of_last keeps, fun unnamed => ?_, name_ne_empty keeps⟩
      rw [name, get?, lookup_name_of_unnamed keeps unnamed]
      rfl

/-- Arguments of which four break a rule each, the last two of them without a place. -/
def mixedArguments : List Argument :=
  [⟨none, some (.text "ring"), "'ring'", { line := some 4, col := some 3 }⟩,
   ⟨some "name", some (.text "ring"), "'ring'", { line := some 4, col := some 11 }⟩,
   ⟨some "size", some (.text "ring"), "'ring'", { line := some 5, col := some 1 }⟩,
   ⟨some "name", none, "ring", {}⟩,
   ⟨some "name", some (.text ""), "''", {}⟩]

/-- The mixed arguments are reported one by one, and those of them that are sound are kept. -/
theorem ofList_mixed :
    (∃ a ∈ mixedArguments, a.Offends simpleNames) ∧
    List.Forall₂ (Reports "pyattr" simpleNames (some { line := some 3 }))
      (mixedArguments.filter (·.Offends simpleNames))
      [⟨"@pyattr does not accept positional arguments, got 'ring'", { line := some 4, col := some 3 }⟩,
       ⟨"@pyattr got unrecognized argument 'size', expected one of: name",
         { line := some 5, col := some 1 }⟩,
       ⟨"@pyattr argument 'name' must be a string literal, got ring", { line := some 3 }⟩,
       ⟨"@pyattr argument 'name' must not be empty", { line := some 3 }⟩] ∧
    Keeps (mixedArguments.filter fun a => ¬ a.Offends simpleNames) [("name", "ring")] := by
  obtain ⟨refused, reported, -⟩ :=
    ofList_reports_each "pyattr" "f" simpleNames (some { line := some 3 }) mixedArguments
  obtain ⟨-, -, kept⟩ := ofList_reports_each "pyattr" "f" simpleNames none
    (mixedArguments.filter fun a => ¬ a.Offends simpleNames)
  exact ⟨refused.mp ⟨_, rfl⟩, reported _ rfl, (kept _ rfl).2.2.1⟩

/-- Every argument is kept with its own text exactly when no key comes twice. -/
theorem keeps_each_iff {checked : Arguments}
    (accepted : ofList directive ident args allowed span = .ok checked) :
    List.Forall₂ Argument.Gives args checked.values ↔ (args.map Argument.key).Nodup := by
  rcases ofList_cases directive ident allowed span args with
    ⟨_, refused, -⟩ | ⟨es, found, -, gives⟩
  · rw [refused] at accepted
    contradiction
  · obtain rfl := Except.ok.inj (found.symm.trans accepted)
    constructor
    · intro each
      exact (length_gathered_of_gives gives).mp each.length_eq.symm
    · intro distinct
      rw [keys_of_gives gives, List.nodup_map_iff fun _ _ => Option.some.inj] at distinct
      rwa [gathered_of_nodup distinct]

/-- Of two names the first is lost, and nothing is reported. -/
theorem classify_two_names :
    Binding.function.classify "f" (.applied "pyfunction"
      [⟨some "name", some (.text "ring"), "'ring'", {}⟩,
       ⟨some "name", some (.text "chime"), "'chime'", {}⟩] {}) {} =
      .ok { kind := .function, ident := "f", name := "chime" } := rfl

end Arguments
end Bindery
