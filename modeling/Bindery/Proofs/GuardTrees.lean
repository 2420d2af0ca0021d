import Bindery.Proofs.Offers
import Bindery.Proofs.OutlineInjectivity
import Bindery.Proofs.SoundReading

/- Guards that are written as expressions compare by their trees: the key of a guard is the outline
   of its tree, the reader gives sound trees only, and sound trees with one outline are equal. So an
   item is refused for its name and the trees of its guards in order, and for nothing else. -/
namespace Bindery

namespace Guard

/-- A guard that its source makes without a key, and the tree that the source is read as. -/
structure Written (g : Guard) (tree : Expr) : Prop where
  made : make g.source "" g.span = .ok g
  read : ∃ phrase, bracketedPhrase? g.source = .ok (some phrase) ∧ phrase.expr = tree

namespace Written

variable {g g' : Guard} {tree tree' : Expr}

theorem sound (written : g.Written tree) : tree.Sound := by
  obtain ⟨phrase, read, rfl⟩ := written.read
  unfold bracketedPhrase? at read
  split at read
  · cases read
  · exact Reader.phrase?_sound _ phrase (Except.ok.inj read)

/-- The key is the outline of the tree. -/
theorem outlined (written : g.Written tree) : tree.outline = .ok g.key := by
  obtain ⟨phrase, read, rfl⟩ := written.read
  have made := written.made
  unfold make structuralKey at made
  rw [read] at made
  cases outlined : phrase.expr.outline with
  | error fault =>
    simp [outlined, Except.mapError, bind, Except.bind] at made
  | ok key =>
    have keys : (⟨g.source, key, g.span⟩ : Guard) = g := by
      simpa [outlined, Except.mapError, bind, Except.bind, pure, Except.pure] using made
    rw [← keys]

end Written

end Guard

end Bindery
