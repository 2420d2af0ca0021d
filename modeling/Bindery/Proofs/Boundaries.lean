import Bindery.Proofs.QuotedNames

/- Texts that show where they end. When two of them begin one text, they are equal and so is what
   follows them: text up to a character that it does not hold, quoted text, and quoted bytes. -/
namespace Bindery.Text

theorem append_stop_inj {stop : Char} {cs ds rest more : List Char} (absent : stop ∉ cs)
    (absent' : stop ∉ ds) (same : cs ++ stop :: rest = ds ++ stop :: more) :
    cs = ds ∧ rest = more := by
  induction cs generalizing ds with
  | nil =>
    cases ds with
    | nil => simpa using same
    | cons d ds =>
      obtain rfl : stop = d := (List.cons.inj same).1
      simp at absent'
  | cons c cs ih =>
    simp only [List.mem_cons, not_or] at absent
    cases ds with
    | nil =>
      obtain rfl : c = stop := (List.cons.inj same).1
      exact absurd rfl absent.1
    | cons d ds =>
      simp only [List.mem_cons, not_or] at absent'
      obtain ⟨rfl, tails⟩ := List.cons.inj same
      obtain ⟨rfl, rests⟩ := ih absent.2 absent'.2 tails
      exact ⟨rfl, rests⟩

/-- What stands for a character shows the character and its own end. -/
theorem Stands.append_inj {quote c d : Char} {written other rest more : List Char}
    (stands : Stands quote c written) (stands' : Stands quote d other)
    (same : written ++ rest = other ++ more) : c = d ∧ rest = more := by
  cases stands with
  | plain _ _ noBackslash =>
    cases stands' with
    | plain _ _ _ => simpa using same
    | escaped _ _ _ =>
      obtain ⟨rfl, -⟩ := List.cons.inj same
      exact absurd rfl noBackslash
  | @escaped key digits _ _ reads =>
    cases stands' with
    | plain _ _ noBackslash =>
      obtain ⟨rfl, -⟩ := List.cons.inj same
      exact absurd rfl noBackslash
    | @escaped key' digits' _ _ reads' =>
      have behind : key :: (digits ++ rest) = key' :: (digits' ++ more) := (List.cons.inj same).2
      have read := reads rest
      rw [behind, reads' more] at read
      simpa [eq_comm] using read

/-- Quoted text without its quotes, for a choice of what stands for each character. -/
def Encodes (quote : Char) (encodeChar : Char → List Char) (cs : List Char) : Prop :=
  ∀ c ∈ cs, Stands quote c (encodeChar c)

theorem Encodes.append_inj {quote : Char} {encodeChar : Char → List Char} {cs ds rest more : List Char}
    (isQuote : Token.isQuote quote = true) (first : Encodes quote encodeChar cs)
    (second : Encodes quote encodeChar ds)
    (same : cs.flatMap encodeChar ++ quote :: rest = ds.flatMap encodeChar ++ quote :: more) :
    cs = ds ∧ rest = more := by
  -- a quote in use never begins what stands for a character
  have apart : ∀ {c written tail more}, Stands quote c written → quote :: more ≠ written ++ tail := by
    intro c written tail more stands clash
    obtain ⟨d, ds, rfl, other⟩ := stands.begins isQuote
    exact other (List.cons.inj clash).1.symm
  induction cs generalizing ds with
  | nil =>
    cases ds with
    | nil => simpa using same
    | cons d ds =>
      have stands := second d (by simp)
      rw [List.flatMap_nil, List.nil_append, List.flatMap_cons, List.append_assoc] at same
      exact absurd same (apart stands)
  | cons c cs ih =>
    have stands := first c (by simp)
    cases ds with
    | nil =>
      rw [List.flatMap_nil, List.nil_append, List.flatMap_cons, List.append_assoc] at same
      exact absurd same.symm (apart stands)
    | cons d ds =>
      simp only [List.flatMap_cons, List.append_assoc] at same
      obtain ⟨rfl, tails⟩ := stands.append_inj (second d (by simp)) same
      obtain ⟨rfl, rests⟩ := ih (fun x member => first x (by simp [member]))
        (fun x member => second x (by simp [member])) tails
      exact ⟨rfl, rests⟩

theorem quoted_append_inj {s t : String} {rest more : List Char}
    (same : (quoted s).toList ++ rest = (quoted t).toList ++ more) : s = t ∧ rest = more := by
  simp only [toList_quoted, Quoted.encodeWith, List.cons_append, List.append_assoc,
    List.cons.injEq] at same
  obtain ⟨quotes, bodies⟩ := same
  rw [quotes] at bodies
  have isQuote := isQuote_quoteFor t.toList
  obtain ⟨chars, rests⟩ := Encodes.append_inj isQuote (fun c _ => stands_encodeChar isQuote c)
    (fun c _ => stands_encodeChar isQuote c) bodies
  exact ⟨String.toList_inj.mp chars, rests⟩

theorem quoted_injective {s t : String} (same : quoted s = quoted t) : s = t := by
  have ended : (quoted s).toList ++ [] = (quoted t).toList ++ [] := by rw [same]
  exact (quoted_append_inj ended).1

/-! ### Bytes -/

def Quoted.encodeByteChar (quote c : Char) : List Char :=
  if c = quote then ['\\', c]
  else if c ≠ '\\' && 32 ≤ c.toNat && c.toNat < 127 then [c]
  else escaped c

theorem isPrintable_ascii {c : Char} (least : 32 ≤ c.toNat) (most : c.toNat < 127) :
    isPrintable c = true := by
  simp [isPrintable, least, most]

theorem stands_encodeByteChar {quote : Char} (isQuote : Token.isQuote quote = true) (c : Char) :
    Stands quote c (Quoted.encodeByteChar quote c) := by
  unfold Quoted.encodeByteChar
  split
  · have own := stands_encodeChar isQuote c
    simp_all [Quoted.encodeChar]
  · rename_i noQuote
    split
    · rename_i plain
      simp only [ne_eq, Bool.and_eq_true, decide_eq_true_eq] at plain
      exact .plain (isPrintable_ascii plain.1.2 plain.2) noQuote plain.1.1
    · exact stands_escaped quote c

def bytesChars (bs : List UInt8) : List Char := bs.map fun b => Char.ofNat b.toNat

theorem bytesChars_injective {bs cs : List UInt8} (same : bytesChars bs = bytesChars cs) : bs = cs := by
  refine (List.map_injective_iff.mpr fun b c equal => ?_) same
  have value : ∀ n < 256, (Char.ofNat n).toNat = n := by decide +kernel
  exact UInt8.toNat_inj.mp (by rw [← value _ b.toNat_lt, ← value _ c.toNat_lt, equal])

theorem toList_quotedBytes (bs : List UInt8) :
    (quotedBytes bs).toList = 'b' :: Quoted.quoteFor (bytesChars bs) ::
      ((bytesChars bs).flatMap (Quoted.encodeByteChar (Quoted.quoteFor (bytesChars bs))) ++
        [Quoted.quoteFor (bytesChars bs)]) := by
  simp only [quotedBytes, String.toList_ofList]
  rfl

theorem quotedBytes_append_inj {bs cs : List UInt8} {rest more : List Char}
    (same : (quotedBytes bs).toList ++ rest = (quotedBytes cs).toList ++ more) :
    bs = cs ∧ rest = more := by
  simp only [toList_quotedBytes, List.cons_append, List.append_assoc, List.cons.injEq,
    true_and] at same
  obtain ⟨quotes, bodies⟩ := same
  rw [quotes] at bodies
  have isQuote := isQuote_quoteFor (bytesChars cs)
  obtain ⟨chars, rests⟩ := Encodes.append_inj isQuote (fun c _ => stands_encodeByteChar isQuote c)
    (fun c _ => stands_encodeByteChar isQuote c) bodies
  exact ⟨bytesChars_injective chars, rests⟩

end Bindery.Text
