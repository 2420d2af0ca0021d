import Bindery.Text.NameClass
import Bindery.Text.Printable
import Mathlib.Data.List.Basic

/- Characters that end a line, the texts without any, and the texts that have them only from texts
   that they are put together of. -/
namespace Bindery.Text

/-- Characters that end a line, in some reading or other. -/
def lineBreaks : List Char :=
  ['\n', '\r', '\x0b', '\x0c', '\x1c', '\x1d', '\x1e', '\x85', '\u2028', '\u2029']

theorem notMem_lineBreaks_of {p : Char → Bool} (others : lineBreaks.all (fun c => !p c) = true)
    {c : Char} (holds : p c = true) : c ∉ lineBreaks := by
  intro ends
  simpa [holds] using List.all_eq_true.mp others c ends

theorem notMem_lineBreaks {c : Char} (printable : isPrintable c = true) : c ∉ lineBreaks :=
  notMem_lineBreaks_of (by decide +kernel) printable

/-! ### One line -/

/-- No character of a text ends a line. -/
def OneLine (s : String) : Prop := ∀ c ∈ lineBreaks, c ∉ s.toList

instance (s : String) : Decidable (OneLine s) := List.decidableBAll (fun c => c ∉ s.toList) lineBreaks

theorem oneLine_iff {s : String} : OneLine s ↔ ∀ c ∈ s.toList, c ∉ lineBreaks :=
  ⟨fun single c member ends => single c ends member, fun none c ends member => none c member ends⟩

@[simp] theorem oneLine_append {s t : String} : OneLine (s ++ t) ↔ OneLine s ∧ OneLine t := by
  simp only [oneLine_iff, String.toList_append, List.forall_mem_append]

namespace OneLine

variable {s t : String}

theorem append (first : OneLine s) (second : OneLine t) : OneLine (s ++ t) :=
  oneLine_append.mpr ⟨first, second⟩

/-- A literal is made of its characters, so it can be tested without a text. -/
theorem ofList {cs : List Char} (none : (lineBreaks.all fun c => !cs.contains c) = true) :
    OneLine (String.ofList cs) := by
  simpa only [OneLine, String.toList_ofList, List.all_eq_true, Bool.not_eq_true',
    List.contains_eq_mem, decide_eq_false_iff_not] using none

theorem of_printable (printable : ∀ c ∈ s.toList, isPrintable c = true) : OneLine s :=
  oneLine_iff.mpr fun c member => notMem_lineBreaks (printable c member)

theorem of_continues (continues : ∀ c ∈ s.toList, isNameContinue c = true) : OneLine s :=
  oneLine_iff.mpr fun c member => notMem_lineBreaks_of (by decide +kernel) (continues c member)

theorem of_name (named : isName s.toList = true) : OneLine s := by
  refine oneLine_iff.mpr fun c member => ?_
  cases chars : s.toList with
  | nil => simp [chars] at member
  | cons first rest =>
    rw [chars, isName, Bool.and_eq_true] at named
    rw [chars] at member
    rcases List.mem_cons.mp member with rfl | later
    · exact notMem_lineBreaks_of (by decide +kernel) named.1
    · exact notMem_lineBreaks_of (by decide +kernel) (List.all_eq_true.mp named.2 c later)

theorem of_digits (digits : ∀ c ∈ s.toList, c.isDigit = true) : OneLine s :=
  oneLine_iff.mpr fun c member => notMem_lineBreaks_of (by decide) (digits c member)

theorem number (n : Nat) : OneLine (toString n) := by
  refine of_digits fun c member => ?_
  rw [Nat.toString_eq_repr, Nat.toList_repr] at member
  exact Nat.isDigit_of_mem_toDigits (by decide) (by decide) member

end OneLine

/-! ### Line breaks of parts -/

/-- Whatever ends a line in a text stands in one of the parts. -/
def BrokenBy (parts : List String) (s : String) : Prop :=
  ∀ c ∈ lineBreaks, c ∈ s.toList → ∃ part ∈ parts, c ∈ part.toList

@[simp] theorem brokenBy_append {parts : List String} {s t : String} :
    BrokenBy parts (s ++ t) ↔ BrokenBy parts s ∧ BrokenBy parts t := by
  simp only [BrokenBy, String.toList_append, List.mem_append, or_imp, forall_and]

namespace BrokenBy

variable {parts more : List String} {s t : String}

theorem of_oneLine (single : OneLine s) : BrokenBy parts s :=
  fun c ends member => absurd member (single c ends)

theorem of_mem (among : s ∈ parts) : BrokenBy parts s := fun _ _ member => ⟨s, among, member⟩

theorem append (first : BrokenBy parts s) (second : BrokenBy parts t) : BrokenBy parts (s ++ t) :=
  brokenBy_append.mpr ⟨first, second⟩

theorem before (broken : BrokenBy parts s) (single : OneLine t) : BrokenBy parts (s ++ t) :=
  broken.append (of_oneLine single)

theorem behind (single : OneLine s) (broken : BrokenBy parts t) : BrokenBy parts (s ++ t) :=
  (of_oneLine single).append broken

theorem mono (broken : BrokenBy parts s) (subset : parts ⊆ more) : BrokenBy more s := by
  intro c ends member
  obtain ⟨part, among, within⟩ := broken c ends member
  exact ⟨part, subset among, within⟩

/-- A separator on one line brings no line break between texts. -/
theorem intercalate {separator : String} {texts : List String} (single : OneLine separator)
    (broken : ∀ s ∈ texts, BrokenBy parts s) : BrokenBy parts (separator.intercalate texts) := by
  induction texts with
  | nil =>
    rw [String.intercalate_nil]
    exact of_oneLine (by decide)
  | cons s texts ih =>
    obtain ⟨here, later⟩ := List.forall_mem_cons.mp broken
    by_cases last : texts = []
    · simpa [last] using here
    · rw [String.intercalate_cons_of_ne_nil last]
      exact (here.append (of_oneLine single)).append (ih later)

theorem join {texts : List String} (broken : ∀ s ∈ texts, BrokenBy parts s) :
    BrokenBy parts (String.join texts) := by
  intro c ends member
  obtain ⟨s, among, within⟩ := by simpa [String.toList_join] using member
  exact broken s among c ends within

end BrokenBy
end Bindery.Text
