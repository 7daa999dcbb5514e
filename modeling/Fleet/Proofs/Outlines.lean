import Fleet.Json.Outline
import Fleet.Proofs.Words

/-! The text of a JSON value, read again. A string, a numeral and from them any value on one
line come back as they were written, whatever stands behind them. -/
namespace Fleet

namespace Numeral
variable {rest : List Char}

def goesOn (c : Char) : Bool := c.isDigit || c == '.' || c == 'e' || c == 'E'

def fractionText (f : List (Fin 10)) : List Char :=
  if f.isEmpty then [] else '.' :: f.map digitChar

def powerText : Option Int → List Char
  | none => []
  | some e => exponentText e

def unsignedText (n : Numeral) : List Char :=
  Nat.toDigits 10 n.whole ++ (fractionText n.fraction ++ powerText n.exponent)

theorem textSigned (n : Numeral) :
    n.text = (if n.negative then ['-'] else []) ++ n.unsignedText := by
  simp only [text, unsignedText, fractionText, List.append_assoc]
  cases n.exponent <;> rfl

theorem digitOfChar (d : Fin 10) : digitOf (digitChar d) = d := by
  revert d; decide

theorem digitIsDigit (d : Fin 10) : (digitChar d).isDigit = true := by
  revert d; decide

theorem lexFractionWritten (f : List (Fin 10)) (ends : EndsWord (fun c => c.isDigit || c == '.') rest) :
    lexFraction (fractionText f ++ rest) = some (f, rest) := by
  cases f with
  | nil =>
    change lexFraction rest = _
    unfold lexFraction
    split
    · cases endsWordCons.mp ends
    · rfl
  | cons d f =>
    have behind : EndsWord Char.isDigit rest := ends.weaken fun c h => by simp [h]
    have digit : ∀ c ∈ (d :: f).map digitChar, c.isDigit = true := by
      simp [digitIsDigit]
    have taken : digits ((d :: f).map digitChar ++ rest) = (d :: f).map digitChar := takeWord digit behind
    have passed : pastDigits ((d :: f).map digitChar ++ rest) = rest := dropWord digit behind
    have read : ((d :: f).map digitChar).map digitOf = d :: f := by
      simp [Function.comp_def, digitOfChar]
    change lexFraction ('.' :: ((d :: f).map digitChar ++ rest)) = _
    rw [lexFraction, taken, passed, read]
    rfl

theorem lexDigitsWritten (e : Nat) (negative : Bool) (ends : EndsWord Char.isDigit rest) :
    lexDigits negative (Nat.toDigits 10 e ++ rest) =
      some (some (if negative then -(e : Int) else e), rest) := by
  rw [lexDigits, digitsTaken e ends, digitsPassed e ends, Nat.ofDigitChars_ten_toDigits, if_neg]
  simp [Nat.toDigits_ne_nil]

theorem lexPowerWritten (e : Option Int) (ends : EndsWord goesOn rest) :
    lexExponent (powerText e ++ rest) = some (e, rest) := by
  cases e with
  | none =>
    change lexExponent rest = _
    unfold lexExponent
    split
    · cases endsWordCons.mp ends
    · cases endsWordCons.mp ends
    · rfl
  | some e =>
    have behind : EndsWord Char.isDigit rest := ends.weaken fun c h => by simp [goesOn, h]
    by_cases below : e < 0
    · have read := lexDigitsWritten e.natAbs true behind
      have whole : -(e.natAbs : Int) = e := by omega
      rw [if_pos rfl, whole] at read
      rw [powerText, exponentText, if_pos below]
      exact read
    · have read := lexDigitsWritten e.natAbs false behind
      have whole : (e.natAbs : Int) = e := by omega
      rw [if_neg Bool.false_ne_true, whole] at read
      rw [powerText, exponentText, if_neg below]
      exact read

theorem endsPower (e : Option Int) (ends : EndsWord goesOn rest) :
    EndsWord (fun c => c.isDigit || c == '.') (powerText e ++ rest) := by
  cases e with
  | none => exact ends.weaken fun c h => by simp_all [goesOn]
  | some e => exact endsWordCons.mpr (by decide)

theorem endsFraction (f : List (Fin 10)) (ends : EndsWord (fun c => c.isDigit || c == '.') rest) :
    EndsWord Char.isDigit (fractionText f ++ rest) := by
  cases f with
  | nil => exact ends.weaken fun c h => by simp [h]
  | cons d f => exact endsWordCons.mpr (by decide)

theorem lexUnsignedWritten (n : Numeral) (ends : EndsWord goesOn rest) :
    lexUnsigned n.negative (n.unsignedText ++ rest) = some (n, rest) := by
  have behind := endsPower n.exponent ends
  have whole := lexWholeDigits n.whole (endsFraction n.fraction behind)
  have fraction := lexFractionWritten n.fraction behind
  have power := lexPowerWritten n.exponent ends
  simp [lexUnsigned, unsignedText, whole, fraction, power]

theorem unsignedFirst (n : Numeral) : ∃ c more, n.unsignedText = c :: more ∧ c.isDigit = true := by
  cases front : Nat.toDigits 10 n.whole with
  | nil => exact absurd front Nat.toDigits_ne_nil
  | cons c more =>
    exact ⟨c, _, by rw [unsignedText, front, List.cons_append], decimalDigits n.whole c (by simp [front])⟩

theorem lexWritten (n : Numeral) (ends : EndsWord goesOn rest) :
    lex (n.text ++ rest) = some (n, rest) := by
  have unsigned := lexUnsignedWritten n ends
  obtain ⟨c, more, front, digit⟩ := unsignedFirst n
  rw [textSigned]
  cases negative : n.negative with
  | true =>
    rw [negative] at unsigned
    exact unsigned
  | false =>
    rw [negative] at unsigned
    change lex (n.unsignedText ++ rest) = _
    rw [← unsigned, front, List.cons_append, lex]
    rintro r same
    cases (List.cons.inj same).1
    cases digit

end Numeral

namespace Json
variable {rest : List Char}

def escaped (s : String) : List Char := s.toList.flatMap escapeChar

theorem hexLow : ∀ n < 16, hexValue? (hexDigit n) = some n := by decide

theorem codeWritten (c : Char) (low : c.toNat < 0x20) :
    code? '0' '0' (hexDigit (c.toNat / 16)) (hexDigit (c.toNat % 16)) = some c.toNat := by
  have high := hexLow (c.toNat / 16) (by omega)
  have rest := hexLow (c.toNat % 16) (by omega)
  simp only [code?, high, rest, Option.bind_eq_bind, Option.bind_some]
  simp [hexValue?]
  omega

inductive Written (c : Char) : List Char → Prop where
  | letter {l : Char} : letters.lookup l = some c → Written c ['\\', l]
  | code : c.toNat < 0x20 →
      Written c ['\\', 'u', '0', '0', hexDigit (c.toNat / 16), hexDigit (c.toNat % 16)]
  | plain : 0x20 ≤ c.toNat → c ≠ '"' → c ≠ '\\' → Written c [c]

theorem written (c : Char) : Written c (escapeChar c) := by
  unfold escapeChar
  split
  · exact .letter rfl
  · exact .letter rfl
  · exact .letter rfl
  · exact .letter rfl
  · exact .letter rfl
  · exact .letter rfl
  · exact .letter rfl
  · rename_i quote slash _ _ _ _ _
    split
    · exact .code ‹_›
    · exact .plain (by omega) quote slash

theorem letterOther {l c : Char} (known : letters.lookup l = some c) : l ≠ 'u' := by
  rintro rfl
  cases known

theorem lexEscaped {c : Char} {w : List Char} (as : Written c w) (t : List Char) :
    lexText (w ++ t) = (lexText t).map fun (raw, rest) => (w ++ raw, rest) := by
  cases as with
  | letter known =>
    have other := letterOther known
    change lexText ('\\' :: _ :: t) = _
    rw [lexText, known]
    · rfl
    · exact fun _ _ _ _ _ same => absurd same other
  | code low =>
    have zero : isHex '0' = true := by decide
    have high : isHex (hexDigit (c.toNat / 16)) = true := by rw [isHex, hexLow _ (by omega)]; rfl
    have rest : isHex (hexDigit (c.toNat % 16)) = true := by rw [isHex, hexLow _ (by omega)]; rfl
    change lexText ('\\' :: 'u' :: '0' :: '0' :: _ :: _ :: t) = _
    rw [lexText, zero, high, rest]
    rfl
  | plain high quote slash =>
    have fits : (decide (c.toNat < 0x20) || c == '\\') = false := by
      simp [slash, Nat.not_lt.mpr high]
    change lexText (c :: t) = _
    rw [lexText, fits]
    · rfl
    · exact fun same => absurd same quote
    · exact fun _ _ _ _ _ same => absurd same slash
    · exact fun _ _ same => absurd same slash

theorem lexQuoted (s : String) (rest : List Char) : lexText (escaped s ++ '"' :: rest) = some (escaped s, rest) := by
  unfold escaped
  induction s.toList with
  | nil => rfl
  | cons c cs ih =>
    rw [List.flatMap_cons, List.append_assoc, lexEscaped (written c), ih]
    rfl

theorem decodeEscaped {c : Char} {w : List Char} (as : Written c w) (t : List Char) :
    decodeText (w ++ t) = (decodeText t).map (c :: ·) := by
  cases as with
  | letter known =>
    have other := letterOther known
    change decodeText ('\\' :: _ :: t) = _
    rw [decodeText, known]
    · rfl
    · exact fun _ _ _ _ _ _ _ _ _ same => absurd same other
    · exact fun _ _ _ _ _ same => absurd same other
  | code low =>
    have read := codeWritten c low
    have high : isHighHalf c.toNat = false := by simp [isHighHalf]; omega
    have low : isLowHalf c.toNat = false := by simp [isLowHalf]; omega
    change decodeText ('\\' :: 'u' :: '0' :: '0' :: _ :: _ :: t) = _
    by_cases another : ∃ e f g h r, t = '\\' :: 'u' :: e :: f :: g :: h :: r
    · obtain ⟨e, f, g, h, r, rfl⟩ := another
      rw [decodeText, read]
      simp [high, low]
    · rw [decodeText, read]
      · simp [high, low]
      · exact fun e f g h r same => another ⟨e, f, g, h, r, same⟩
  | plain high quote slash =>
    change decodeText (c :: t) = _
    rw [decodeText]
    · exact fun _ _ _ _ _ _ _ _ _ same => absurd same slash
    · exact fun _ _ _ _ _ same => absurd same slash
    · exact fun _ _ same => absurd same slash

theorem decodeQuoted (s : String) : decodeText (escaped s) = some s.toList := by
  unfold escaped
  induction s.toList with
  | nil => simp [decodeText]
  | cons c cs ih =>
    rw [List.flatMap_cons, decodeEscaped (written c), ih]
    rfl

namespace Outline

mutual

def ofJson : Json → Outline
  | .null => .null
  | .bool b => .bool b
  | .number n => .number n
  | .text s => .text (escaped s)
  | .array l => .array (ofItems l) .closed
  | .object l => .object (ofMembers l) .closed

def ofItems : List Json → List Outline
  | [] => []
  | j :: rest => ofJson j :: ofItems rest

def ofMembers : List (String × Json) → List (List Char × Outline)
  | [] => []
  | (k, j) :: rest => (escaped k, ofJson j) :: ofMembers rest

end

theorem skipNext {c : Char} (first : isBlank c = false) : skip (c :: rest) = c :: rest :=
  List.dropWhile_cons_of_neg (by simp [first])

def begins (c : Char) : Bool := c == '-' || c.isDigit

theorem numeralFirst (n : Numeral) : ∃ c more, n.text = c :: more ∧ begins c = true := by
  obtain ⟨c, more, front, digit⟩ := n.unsignedFirst
  rw [Numeral.textSigned]
  cases n.negative with
  | true => exact ⟨'-', n.unsignedText, rfl, rfl⟩
  | false => exact ⟨c, more, front, by simp [begins, digit]⟩

theorem scalarNumber {n : Numeral} {c : Char} {more : List Char} (front : n.text = c :: more)
    (first : begins c = true) (ends : EndsWord Numeral.goesOn rest) :
    scalar (c :: (more ++ rest)) = (.number n, some rest) := by
  have lexed := Numeral.lexWritten n ends
  rw [front, List.cons_append] at lexed
  unfold scalar
  split
  · rename_i same
    exact absurd (List.cons.inj same).1 (classesApart first rfl)
  · rename_i same
    exact absurd (List.cons.inj same).1 (classesApart first rfl)
  · rename_i same
    exact absurd (List.cons.inj same).1 (classesApart first rfl)
  · rename_i same
    exact absurd (List.cons.inj same).1 (classesApart first rfl)
  · rw [lexed]

theorem beginsPlain {c : Char} (first : begins c = true) : isBlank c = false := by
  have space : c ≠ ' ' := classesApart first rfl
  have tab : c ≠ '\t' := classesApart first rfl
  have line : c ≠ '\n' := classesApart first rfl
  have noReturn : c ≠ '\r' := classesApart first rfl
  simp [isBlank, space, tab, line, noReturn]

theorem valueNumber (n : Numeral) (fuel : Nat) (ends : EndsWord Numeral.goesOn rest) :
    value (fuel + 1) (n.text ++ rest) = (.number n, some rest) := by
  obtain ⟨c, more, front, first⟩ := numeralFirst n
  rw [front, List.cons_append, value, skipNext (beginsPlain first)]
  split
  · rename_i same
    exact absurd (List.cons.inj same).1 (classesApart first rfl)
  · rename_i same
    exact absurd (List.cons.inj same).1 (classesApart first rfl)
  · exact scalarNumber front first ends

theorem compactFirst (j : Json) :
    ∃ c more, compact j = c :: more ∧ isBlank c = false ∧ c ≠ ']' := by
  cases j with
  | null => exact ⟨_, _, rfl, by decide⟩
  | bool b => cases b <;> exact ⟨_, _, rfl, by decide⟩
  | number n =>
    obtain ⟨c, more, front, first⟩ := numeralFirst n
    exact ⟨c, more, front, beginsPlain first, classesApart first rfl⟩
  | text s => exact ⟨_, _, rfl, by decide⟩
  | array l => cases l <;> exact ⟨_, _, rfl, by decide⟩
  | object l => cases l <;> exact ⟨_, _, rfl, by decide⟩

theorem compactSize (j : Json) : 0 < (compact j).length := by
  obtain ⟨c, more, front, _⟩ := compactFirst j
  simp [front]

theorem itemsSize (l : List Json) : 0 < (compactItems l).length := by
  cases l <;> simp [compactItems]

theorem membersSize (l : List (String × Json)) : 0 < (compactMembers l).length := by
  cases l <;> simp [compactMembers]

theorem endsItems (l : List Json) : EndsWord Numeral.goesOn (compactItems l ++ rest) := by
  cases l <;> exact endsWordCons.mpr (by decide)

theorem endsMembers (l : List (String × Json)) : EndsWord Numeral.goesOn (compactMembers l ++ rest) := by
  cases l <;> exact endsWordCons.mpr (by decide)

theorem valueText (s : String) (fuel : Nat) :
    value (fuel + 1) (quoted s ++ rest) = (.text (escaped s), some rest) := by
  have lexed := lexQuoted s rest
  have shape : quoted s ++ rest = '"' :: (escaped s ++ '"' :: rest) := by simp [quoted, escaped]
  rw [shape, value, skipNext (by decide)]
  simp [scalar, lexed]

theorem itemNext {fuel : Nat} {s t : List Char} {o : Outline} {os : List Outline}
    (head : value fuel s = (o, some t)) (tail : items fuel false t = (os, .closed, some rest)) :
    item (fuel + 1) s = (o :: os, .closed, some rest) := by
  simp [item, head, tail]

theorem memberNext {fuel : Nat} (k : String) {s t : List Char} {o : Outline}
    {os : List (List Char × Outline)} (head : value fuel s = (o, some t))
    (tail : members fuel false t = (os, .closed, some rest)) :
    member (fuel + 1) (quoted k ++ ':' :: s) = ((escaped k, o) :: os, .closed, some rest) := by
  have lexed := lexQuoted k (':' :: s)
  have shape : quoted k ++ ':' :: s = '"' :: (escaped k ++ '"' :: ':' :: s) := by simp [quoted, escaped]
  have colon : skip (':' :: s) = ':' :: s := skipNext (by decide)
  simp [shape, member, lexed, colon, head, tail]

theorem itemsOpen {c : Char} {s : List Char} (fuel : Nat) (plain : isBlank c = false) (unclosed : c ≠ ']') :
    items (fuel + 1) true (c :: s) = item fuel (c :: s) := by
  unfold items
  rw [skipNext plain]
  split <;> simp_all

theorem membersOpen (fuel : Nat) (k : String) (s : List Char) :
    members (fuel + 1) true (quoted k ++ s) = member fuel (quoted k ++ s) := rfl

mutual

theorem valueCompact (j : Json) (fuel : Nat) (rest : List Char) (enough : 2 * (compact j).length ≤ fuel)
    (ends : EndsWord Numeral.goesOn rest) : value fuel (compact j ++ rest) = (ofJson j, some rest) := by
  have size := compactSize j
  obtain ⟨fuel, rfl⟩ : ∃ f, fuel = f + 2 := ⟨fuel - 2, by omega⟩
  cases j with
  | null => rfl
  | bool b => cases b <;> rfl
  | number n => exact valueNumber n (fuel + 1) ends
  | text s => exact valueText s (fuel + 1)
  | array l =>
    cases l with
    | nil => rfl
    | cons j more =>
      have head := compactSize j
      have tail := itemsSize more
      simp only [compact, List.length_cons, List.length_append] at enough
      obtain ⟨fuel, rfl⟩ : ∃ f, fuel = f + 1 := ⟨fuel - 1, by omega⟩
      have first := valueCompact j fuel (compactItems more ++ rest) (by omega) (endsItems more)
      have others := itemsCompact more fuel rest (by omega)
      have listed := itemNext first others
      obtain ⟨c, _, front, plain, unclosed⟩ := compactFirst j
      change value (fuel + 3) ('[' :: (compact j ++ compactItems more ++ rest)) = _
      rw [value, skipNext (by decide)]
      rw [front, List.cons_append] at listed
      simp only [front, List.append_assoc, List.cons_append, itemsOpen _ plain unclosed, listed]
      rfl
  | object l =>
    cases l with
    | nil => rfl
    | cons m more =>
      obtain ⟨k, j⟩ := m
      have head := compactSize j
      have tail := membersSize more
      simp only [compact, List.length_cons, List.length_append] at enough
      obtain ⟨fuel, rfl⟩ : ∃ f, fuel = f + 1 := ⟨fuel - 1, by omega⟩
      have first := valueCompact j fuel (compactMembers more ++ rest) (by omega) (endsMembers more)
      have others := membersCompact more fuel rest (by omega)
      have listed := memberNext k first others
      change value (fuel + 3) ('{' :: (quoted k ++ ':' :: (compact j ++ compactMembers more) ++ rest)) = _
      rw [value, skipNext (by decide)]
      simp only [List.append_assoc, List.cons_append, membersOpen, listed]
      rfl

theorem itemsCompact (l : List Json) (fuel : Nat) (rest : List Char)
    (enough : 2 * (compactItems l).length ≤ fuel) :
    items fuel false (compactItems l ++ rest) = (ofItems l, .closed, some rest) := by
  have size := itemsSize l
  obtain ⟨fuel, rfl⟩ : ∃ f, fuel = f + 2 := ⟨fuel - 2, by omega⟩
  cases l with
  | nil => rfl
  | cons j more =>
    have tail := itemsSize more
    simp only [compactItems, List.length_cons, List.length_append] at enough
    have first := valueCompact j fuel (compactItems more ++ rest) (by omega) (endsItems more)
    have listed := itemNext first (itemsCompact more fuel rest (by omega))
    change item (fuel + 1) (compact j ++ compactItems more ++ rest) = _
    rw [List.append_assoc, listed]
    rfl

theorem membersCompact (l : List (String × Json)) (fuel : Nat) (rest : List Char)
    (enough : 2 * (compactMembers l).length ≤ fuel) :
    members fuel false (compactMembers l ++ rest) = (ofMembers l, .closed, some rest) := by
  have size := membersSize l
  obtain ⟨fuel, rfl⟩ : ∃ f, fuel = f + 2 := ⟨fuel - 2, by omega⟩
  cases l with
  | nil => rfl
  | cons m more =>
    obtain ⟨k, j⟩ := m
    have tail := membersSize more
    simp only [compactMembers, List.length_cons, List.length_append] at enough
    have first := valueCompact j fuel (compactMembers more ++ rest) (by omega) (endsMembers more)
    have listed := memberNext k first (membersCompact more fuel rest (by omega))
    change member (fuel + 1) (quoted k ++ ':' :: (compact j ++ compactMembers more) ++ rest) = _
    rw [List.append_assoc, List.cons_append, List.append_assoc, listed]
    rfl

end

theorem ofTextCompact (j : Json) : ofText (compact j) = (ofJson j, true) := by
  have read := valueCompact j (4 * (compact j).length + 4) [] (by omega) endsWordNil
  rw [List.append_nil] at read
  rw [ofText, read]
  rfl

end Outline
end Json
end Fleet
