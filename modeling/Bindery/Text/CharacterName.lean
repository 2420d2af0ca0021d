import Bindery.Text.Compatibility
import Bindery.Text.CharacterName.Aliases
import Bindery.Text.CharacterName.Block1
import Bindery.Text.CharacterName.Block2
import Bindery.Text.CharacterName.Block3
import Bindery.Text.CharacterName.Block4
import Bindery.Text.CharacterName.Block5
import Bindery.Text.CharacterName.Block6
import Bindery.Text.CharacterName.Block7
import Bindery.Text.CharacterName.Block8
import Bindery.Text.CharacterName.Block9
import Bindery.Text.CharacterName.Block10

/- The character that a name denotes. Listed names and aliases are read without regard to case;
   the unified ideographs and the Hangul syllables are named by rule, in capitals. -/
namespace Bindery.Text

namespace CharacterName

def blocks : List String :=
  [block1, block2, block3, block4, block5, block6, block7, block8, block9, block10]

/-- Walks the rows of a block; `previous` is the last name as words. -/
def findIn (wanted : List (List Char)) : Nat → List (List Char) → List (List Char) → Option Nat
  | _, _, [] => none
  | code, previous, row :: rows =>
    match row with
    | '=' :: hex => findIn wanted (hexNumber hex) previous rows
    | shared :: more =>
      let name := previous.take (hexDigit shared) ++ piecesBy (· == ' ') more
      if name == wanted then some code else findIn wanted (code + 1) name rows
    | [] => findIn wanted code previous rows

def listed (name : List Char) : Option Nat :=
  let wanted := piecesBy (· == ' ') name
  blocks.findSome? fun block => findIn wanted 0 [] (piecesBy (· == '\n') block.toList)

def otherName (name : List Char) : Option Nat :=
  (piecesBy (· == ';') (aliasRows.toList.filter (· ≠ '\n'))).findSome? fun row =>
    match piecesBy (· == '=') row with
    | [key, hex] => if key == name then some (hexNumber hex) else none
    | _ => none

def ideographs : List (Nat × Nat) := [
  (0x3400, 0x4dbf), (0x4e00, 0x9fff), (0x20000, 0x2a6df), (0x2a700, 0x2b738), (0x2b740, 0x2b81d),
  (0x2b820, 0x2cea1), (0x2ceb0, 0x2ebe0), (0x30000, 0x3134a)]

def ideograph (digits : List Char) : Option Nat :=
  let value := hexNumber digits
  if (digits.length = 4 || digits.length = 5) &&
      digits.all (fun c => c.isDigit || ('A' ≤ c && c ≤ 'F')) &&
      ideographs.any (fun r => r.1 ≤ value && value ≤ r.2) then some value
  else none

def leads : List String :=
  ["G", "GG", "N", "D", "DD", "R", "M", "B", "BB", "S", "SS", "", "J", "JJ", "C", "K", "T", "P", "H"]

def vowels : List String :=
  ["A", "AE", "YA", "YAE", "EO", "E", "YEO", "YE", "O", "WA", "WAE", "OE", "YO", "U", "WEO", "WE",
   "WI", "YU", "EU", "YI", "I"]

def tails : List String :=
  ["", "G", "GG", "GS", "N", "NJ", "NH", "D", "L", "LG", "LM", "LB", "LS", "LT", "LP", "LH", "M",
   "B", "BS", "S", "SS", "NG", "J", "C", "K", "T", "P", "H"]

def syllable (spelling : List Char) : Option Nat :=
  (List.range (19 * 21 * 28)).findSome? fun i =>
    let lead := leads.getD (i / 588) ""
    let vowel := vowels.getD (i % 588 / 28) ""
    let tail := tails.getD (i % 28) ""
    if (lead ++ vowel ++ tail).toList == spelling then some (0xac00 + i) else none

end CharacterName

/-- The character with this name, if there is one. -/
def characterNamed (name : List Char) : Option Char :=
  let syllablePart := "HANGUL SYLLABLE ".toList
  let ideographPart := "CJK UNIFIED IDEOGRAPH-".toList
  let code :=
    if syllablePart.isPrefixOf name then CharacterName.syllable (name.drop syllablePart.length)
    else if ideographPart.isPrefixOf name then
      CharacterName.ideograph (name.drop ideographPart.length)
    else
      let name := name.map Char.toUpper
      (CharacterName.listed name).or (CharacterName.otherName name)
  code.map Char.ofNat

end Bindery.Text
