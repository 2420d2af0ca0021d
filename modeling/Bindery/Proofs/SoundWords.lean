import Bindery.Expr.Reader
import Bindery.Proofs.Outcomes
import Bindery.Proofs.SoundExpressions

/- Words as they are scanned: a number among them is a constant in its rounded form, and a word has the
   characters of a name. What a reader of words leaves are words of the same list. -/
namespace Bindery

/-! ### Words -/

def Token.Sound : Token → Prop
  | .word w => Text.isName w.toList = true
  | .number c => c.Sound
  | _ => True

def SoundWords (ts : List Lexeme) : Prop := ∀ t ∈ ts, t.token.Sound

namespace SoundWords

open Reader

variable {ts : List Lexeme}

theorem tail {t : Lexeme} (words : SoundWords (t :: ts)) : SoundWords ts :=
  fun u member => words u (List.mem_cons_of_mem t member)

theorem mark (words : SoundWords ts) (m : String) : Whenever SoundWords (mark? m ts) := by
  unfold mark?
  split
  · exact .ite (.some words.tail) .none
  · exact .none

theorem keyword (words : SoundWords ts) (w : String) : Whenever SoundWords (keyword? w ts) := by
  unfold keyword?
  split
  · exact .ite (.some words.tail) .none
  · exact .none

theorem name (words : SoundWords ts) :
    Whenever (fun r => Text.NormalName r.1 ∧ SoundWords r.2) (name? ts) := by
  unfold name?
  split
  · exact .ite .none (.some ⟨⟨_, words _ List.mem_cons_self, rfl⟩, words.tail⟩)
  · exact .none

theorem nameBefore (words : SoundWords ts) (m : String) :
    Whenever (fun r => Text.NormalName r.1 ∧ SoundWords r.2) (nameBefore? m ts) := by
  unfold nameBefore?
  exact words.name.bind fun _ ⟨named, words⟩ => (words.mark m).bind fun _ words =>
    .some ⟨named, words⟩

theorem operator (words : SoundWords ts) (ops : List (String × BinaryOp)) :
    Whenever (fun r => SoundWords r.2) (operator? ops ts) := by
  unfold operator?
  split
  · exact (Whenever.trivial _).map fun _ _ => words.tail
  · exact .none

theorem comparison (words : SoundWords ts) :
    Whenever (fun r => SoundWords r.2) (comparison? ts) := by
  unfold comparison?
  split <;> first | exact .some words.tail.tail | exact .some words.tail | exact .none

theorem sign (words : SoundWords ts) : Whenever (fun r => SoundWords r.2) (sign? ts) := by
  unfold sign?
  split <;> first | exact .some words.tail | exact .none

theorem literals (words : SoundWords ts) : SoundWords (Reader.literals ts).2 := by
  fun_induction Reader.literals ts with
  | case1 w place ts ws rest read ih =>
    rw [← show (Reader.literals ts).2 = rest by rw [read]]
    exact ih words.tail
  | case2 ts other => exact words

end SoundWords

/-! ### Numbers as they are scanned -/

namespace Token

/-- What follows the digits of a number decides its kind; reals and imaginaries are rounded. -/
theorem decimalTail_sound (whole cs : List Char) :
    Whenever (fun r => r.1.Sound) (decimalTail whole cs) := by
  have rounded := Number.Binary64.unsigned_ofDecimal
  unfold decimalTail
  refine (Whenever.trivial _).bind fun front _ => (Whenever.trivial _).bind fun behind _ => ?_
  dsimp only
  split
  · refine .ite (.ite (.some (rounded _ _)) .refused) ?_
    exact .guarded (.ite (.some (rounded _ _)) (.guarded (.some trivial)))
  · exact .guarded (.ite (.some (rounded _ _)) (.guarded (.some trivial)))

theorem basedNumber_sound (base : Nat) (isDigit : Char → Bool) (cs : List Char) :
    Whenever (fun r => r.1.Sound) (basedNumber base isDigit cs) := by
  unfold basedNumber
  refine (Whenever.trivial _).bind fun r _ => ?_
  exact .guarded (.ite (.some trivial) .none)

theorem number?_sound (cs : List Char) : Whenever (fun r => r.1.Sound) (number? cs) := by
  have decimal : Whenever (fun r => r.1.Sound)
      ((digitGroup Char.isDigit false cs).bind fun r => decimalTail r.1 r.2) :=
    (Whenever.trivial _).bind fun r _ => decimalTail_sound r.1 r.2
  unfold number?
  split
  · exact .ite (basedNumber_sound 16 _ _) (.ite (basedNumber_sound 8 _ _)
      (.ite (basedNumber_sound 2 _ _) decimal))
  · exact decimal

theorem next?_sound (cs : List Char) : Whenever (fun r => r.1.Sound) (next? cs) := by
  unfold next?
  split
  · exact .none
  · refine .ite ?_ (.ite ?_ (.ite ?_ (.ite ?_ ?_)))
    · dsimp only
      split
      · exact (Whenever.trivial _).map fun _ _ => trivial
      · split
        · next named => exact .some (by simpa [Sound] using named)
        · exact .none
    · exact (Whenever.trivial _).bind fun _ _ => (Whenever.trivial _).map fun _ _ => trivial
    · exact (number?_sound _).map fun _ sound => sound
    · exact (decimalTail_sound _ _).map fun _ sound => sound
    · split
      · exact .some trivial
      · exact .ite (.some trivial) .none

theorem scan_sound (fuel : Nat) (place : Place) (opened : List Char) (started : Bool)
    (cs : List Char) : Whenever SoundWords (scan fuel place opened started cs) := by
  induction fuel generalizing place opened started cs with
  | zero => exact .none
  | succ fuel ih =>
    have consed : ∀ {t : Lexeme} {ts : List Lexeme}, t.token.Sound → SoundWords ts →
        SoundWords (t :: ts) := by
      intro t ts sound words u member
      rcases List.mem_cons.mp member with rfl | later
      · exact sound
      · exact words u later
    unfold scan
    split
    · exact .ite (.some (by simp [SoundWords])) .none
    · refine .ite (ih _ _ _ _) (.ite (ih _ _ _ _) (.ite ?_ (.ite ?_ ?_)))
      · exact .ite ((ih _ _ _ _).map fun _ words => consed trivial words) (ih _ _ _ _)
      · split
        · exact .ite .none (ih _ _ _ _)
        · exact .none
      · refine (next?_sound _).bind fun r sound => ?_
        dsimp only
        split <;> exact (Whenever.trivial _).bind fun _ _ => (ih _ _ _ _).bind fun _ words =>
          .some (consed sound words)

theorem scanAll_sound (s : List Char) : Whenever SoundWords (scanAll s) :=
  scan_sound _ _ _ _ _

end Token

/-! ### Fields of formatted text -/

namespace Formatted

mutual

/-- Every field asks for one of the conversions, if for any. -/
def Segment.Sound : Segment → Prop
  | .literal _ => True
  | .field _ _ conversion format => IsConversion conversion ∧ SoundFormat format

def SoundFormat : Option (List Segment) → Prop
  | none => True
  | some segments => SoundSegments segments

def SoundSegments : List Segment → Prop
  | [] => True
  | segment :: more => segment.Sound ∧ SoundSegments more

end

theorem isConversion_none : IsConversion none := by rintro _ ⟨⟩

theorem conversionPart_sound (cs : List Char) :
    Whenever (fun r => IsConversion r.1) (conversionPart cs) := by
  unfold conversionPart
  split
  · rename_i c rest
    split
    · next listed =>
      refine .some ?_
      rintro _ ⟨⟩
      exact List.contains_iff_mem.mp listed
    · exact .none
  · exact .none
  · exact .some isConversion_none

theorem formatPart_sound {read : List Char → Option (List Segment × List Char)}
    (sound : ∀ cs, Whenever (fun r => SoundSegments r.1) (read cs)) (cs : List Char) :
    Whenever (fun r => SoundFormat r.1) (formatPart read cs) := by
  unfold formatPart
  split
  · exact .ite .none ((sound _).map fun _ sounds => sounds)
  · exact .some trivial

theorem segmentsFrom_sound (isRaw : Bool) (fuel depth : Nat) (cs : List Char) :
    Whenever (fun r => SoundSegments r.1) (segmentsFrom isRaw fuel depth cs) := by
  induction fuel generalizing depth cs with
  | zero => exact .none
  | succ fuel ih =>
    unfold segmentsFrom
    refine (Whenever.trivial _).bind fun ⟨raw, doubled, rest⟩ _ => ?_
    dsimp only
    suffices behind : ∀ value : List Char, _ from
      .ite ((Whenever.trivial _).bind fun value _ => behind value)
        ((Whenever.trivial _).bind fun value _ => behind value)
    intro value
    refine .ite ((ih depth rest).bind fun _ sounds => .some ⟨trivial, sounds⟩) ?_
    split
    · refine .guarded ((Whenever.trivial _).bind fun ⟨source, rest⟩ _ => .guarded ?_)
      refine (conversionPart_sound _).bind fun ⟨conversion, rest⟩ asked => ?_
      refine (formatPart_sound (ih _) rest).bind fun ⟨format, rest⟩ sound => ?_
      dsimp only
      split
      · exact (ih depth _).bind fun _ sounds => .some ⟨trivial, ⟨asked, sound⟩, sounds⟩
      · exact .none
    · exact .ite (.some ⟨trivial, trivial⟩) .none
    · exact .some ⟨trivial, trivial⟩

/-- Literals and fields as they are parted. -/
theorem segments_sound (isRaw : Bool) (body : List Char) :
    Whenever SoundSegments (segments isRaw body) := by
  unfold segments
  exact (segmentsFrom_sound isRaw _ _ body).bind fun _ sounds => .ite (.some sounds) .none

end Formatted
end Bindery
