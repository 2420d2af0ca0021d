import Bindery.Proofs.ArgumentPlaces
import Bindery.Proofs.EnumBases
import Bindery.Proofs.SoundReading

/- Where the texts of a body come from. The text of an argument is the printed form of a tree that was read,
   and its key is a name; the identifier of a declaration is a word of the body. Every span has the path
   under which the body is read. -/
namespace Bindery

open Reader

/-- An argument is written as an expression, behind a name if it has a key. -/
structure Argument.Written (x : Argument) (e : Expr) : Prop where
  sound : e.Sound
  text : e.text = .ok x.source
  key : Text.NormalNames x.key

/-! ### Directives -/

theorem soundKeywords_iff {ks : List Keyword} :
    SoundKeywords ks ↔ ∀ k ∈ ks, (Given.keyword k).value.Sound ∧ Text.NormalNames (Given.keyword k).key? := by
  induction ks with
  | nil => simp [SoundKeywords]
  | cons k ks ih =>
    obtain ⟨name, value⟩ := k
    simp [SoundKeywords, Given.value, Given.key?, ih, and_assoc]

namespace Directive

variable {base span : Span} {source path : String} {a : Reader.Entry} {x : Argument} {args : List Argument}

theorem Shows.written (shows : Shows base a x) (sound : a.given.value.Sound)
    (named : Text.NormalNames a.given.key?) : x.Written a.given.value :=
  ⟨sound, shows.source, shows.key ▸ named⟩

/-- The arguments of a call are sound where the call is. -/
theorem given_sound {p : Phrase} {callee : Expr} {entries : List Reader.Entry}
    (applies : Applies p callee entries)
    (sound : p.Sound) (member : a ∈ entries) :
    a.given.value.Sound ∧ Text.NormalNames a.given.key? := by
  rw [Phrase.Sound, applies.call] at sound
  obtain ⟨-, positional, keywords⟩ := sound
  obtain ⟨e | k, start⟩ := a
  · exact ⟨soundEach_iff.mp positional e (List.mem_filterMap.mpr ⟨_, member, rfl⟩), normalNames_none⟩
  · exact soundKeywords_iff.mp keywords k (List.mem_filterMap.mpr ⟨_, member, rfl⟩)

/-- Every argument of a directive is written as an expression, in the file of the directive. -/
theorem read_written (accepted : read source base = .ok (some (.applied path args span))) :
    ∀ x ∈ args, x.span.path = base.path ∧ ∃ e, x.Written e := by
  obtain ⟨-, p, phrase, forms⟩ := read_eq_ok_iff.mp accepted
  have sound : p.Sound := phrase?_sound _ p phrase
  cases forms with
  | applied applies dotted plain shows =>
    intro x member
    obtain ⟨⟨k, bound⟩, rfl⟩ := List.get_of_mem member
    have own := shows.get (shows.length_eq ▸ bound) bound
    obtain ⟨sound, named⟩ := given_sound applies sound (List.get_mem _ _)
    exact ⟨by rw [own.span]; rfl, _, own.written sound named⟩

theorem read_assigned_span {target text : String} {value : Option Literal}
    (accepted : read source base = .ok (some (.assigned target value text span))) : span = base := by
  obtain ⟨-, p, -, forms⟩ := read_eq_ok_iff.mp accepted
  cases forms
  rfl

end Directive

/-! ### Declarations -/

namespace Declaration

variable {source : String} {path : Option String} {ds : List Declaration} {d : Declaration}
  {a : Annotation} (read : ofSource source path = .ok ds) (inBody : d ∈ ds)
include read inBody

/-- The identifier of a declaration is a word. -/
theorem ident_word : ∀ x ∈ d.ident.toList, Text.isNameContinue x = true := by
  unfold ofSource at read
  split at read
  · cases read
  · next found statements =>
    obtain ⟨c, member, -, ident, -⟩ := definition_of_statements (mapError_eq_ok_iff.mp read) inBody
    obtain ⟨ts, parts, covered, w, tiled, -⟩ := Body.standing_of_read statements
    rw [← parts] at member
    obtain ⟨⟨part, before, text⟩, inTiles, own⟩ := List.mem_map.mp member
    cases own
    have stands : c.Stands ⟨.definition c, before, text⟩ := tiled.fit _ inTiles
    rw [ident]
    exact stands.word

variable (on : a ∈ d.annotations)
include on

theorem annotation_path : a.span.path = path := by
  obtain ⟨before, text, after, -, stands⟩ := annotations_stand read inBody on
  rw [stands.span]
  rfl

/-- The directive of an annotation is read under the path of the body. -/
theorem directive_read {form : Directive} (directive : a.directive = some form) :
    ∃ base : Span, base.path = path ∧ Directive.read a.source base = .ok (some form) := by
  obtain ⟨before, text, after, -, stands⟩ := annotations_stand read inBody on
  rcases stands.source with none_ | ⟨w, -, -, found⟩
  · simp [directive] at none_
  · exact ⟨_, rfl, directive ▸ found⟩

theorem arguments_written {name : String} {args : List Argument} {span : Span}
    (list : a.directive = some (.applied name args span)) :
    ∀ x ∈ args, x.span.path = path ∧ ∃ e, x.Written e := by
  obtain ⟨base, here, found⟩ := directive_read read inBody on list
  exact here ▸ Directive.read_written found

theorem assigned_path {target text : String} {value : Option Literal} {span : Span}
    (form : a.directive = some (.assigned target value text span)) : span.path = path := by
  obtain ⟨base, here, found⟩ := directive_read read inBody on form
  rw [Directive.read_assigned_span found, here]

end Declaration
end Bindery
