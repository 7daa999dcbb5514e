import Fleet.Settings.File
import Fleet.Proofs.StringForms

/-! Written statements, read again. A section is a header with a bare key and pairs of a bare
key and a plain value; the text of several sections gives their statements back in order. -/
namespace Fleet
namespace Toml
variable {c : Char} {key : String} {rest : List Char}

inductive Plain : Toml → Prop where
  | text (s : String) : Plain (.text s)
  | whole {n : Nat} : n ≤ Bounds.signed → Plain (.scalar (.integer n))
  | flag (b : Bool) : Plain (.scalar (.flag b))

namespace Scalar

theorem groupedWhole {digit : Char → Bool} {s : List Char} (nonempty : s ≠ [])
    (all : ∀ c ∈ s, digit c = true) (bar : digit '_' = false) : grouped digit s = some s := by
  induction s with
  | nil => exact absurd rfl nonempty
  | cons c s ih =>
    have first : digit c = true := all c (by simp)
    cases s with
    | nil => simp [grouped, first]
    | cons d s =>
      have next : d ≠ '_' := by
        rintro rfl
        rw [all '_' (by simp)] at bar
        cases bar
      rw [grouped, first, ih (by simp) fun c member => all c (by simp [member])]
      · rfl
      · exact nofun
      · exact fun r same => next (List.cons.inj same).1

theorem wholeDigitsWritten (n : Nat) : wholeDigits (Nat.toDigits 10 n) = some (Nat.toDigits 10 n) := by
  have read := groupedWhole (Nat.toDigits_ne_nil (n := n)) (Numeral.decimalDigits n) rfl
  have leads : ((Nat.toDigits 10 n).length > 1 && (Nat.toDigits 10 n).head? == some '0') = false := by
    by_cases zero : n = 0
    · subst zero
      rfl
    · obtain ⟨c, more, front, _, first⟩ := Numeral.firstDigit n zero
      simp [front, first]
  rw [wholeDigits, read]
  change (if (_ && _) = true then none else some _) = _
  rw [leads]
  rfl

theorem decimalWritten {n : Nat} (fits : n ≤ Bounds.signed) : decimal? (Nat.toDigits 10 n) = some (n : Int) := by
  have positive : unsigned (Nat.toDigits 10 n) = (false, Nat.toDigits 10 n) := by
    unfold unsigned
    split
    · rename_i r same
      exact absurd (by simp [same]) (Numeral.digitsOnly (c := '-') rfl n)
    · rename_i r same
      exact absurd (by simp [same]) (Numeral.digitsOnly (c := '+') rfl n)
    · rfl
  simp [decimal?, positive, wholeDigitsWritten, fits]

theorem integerWritten {n : Nat} (fits : n ≤ Bounds.signed) : integer? (Nat.toDigits 10 n) = some (n : Int) := by
  unfold integer?
  split
  · rename_i r same
    exact absurd (by simp [same]) (Numeral.digitsOnly (c := 'x') rfl n)
  · rename_i r same
    exact absurd (by simp [same]) (Numeral.digitsOnly (c := 'o') rfl n)
  · rename_i r same
    exact absurd (by simp [same]) (Numeral.digitsOnly (c := 'b') rfl n)
  · exact decimalWritten fits

theorem ofTextWritten {n : Nat} (fits : n ≤ Bounds.signed) :
    ofText? (Nat.toDigits 10 n) = some (.integer n) := by
  have yes : Nat.toDigits 10 n ≠ ['t', 'r', 'u', 'e'] := by
    intro same
    exact absurd (by simp [same]) (Numeral.digitsOnly (c := 't') rfl n)
  have no : Nat.toDigits 10 n ≠ ['f', 'a', 'l', 's', 'e'] := by
    intro same
    exact absurd (by simp [same]) (Numeral.digitsOnly (c := 'f') rfl n)
  rw [ofText?, if_neg yes, if_neg no, integerWritten fits]

theorem readToken {token : List Char} {x : Scalar} (rest : List Char) (all : ∀ c ∈ token, isPart c = true)
    (known : ofText? token = some x) : read (token ++ '\n' :: rest) = some (x, '\n' :: rest) := by
  have ends : EndsWord isPart ('\n' :: rest) := endsWordCons.mpr (by decide)
  rw [read, takeWord all ends, dropWord all ends, known]
  cases isDate token <;> rfl

end Scalar

theorem digitPart : ∀ n, ∀ c ∈ Nat.toDigits 10 n, Scalar.isPart c = true := by
  intro n c member
  simp [Scalar.isPart, Char.isAlphanum, Numeral.decimalDigits n c member]

theorem writeTextFirst (s : String) : ∃ q more, writeText s = q :: more ∧ (q = '"' ∨ q = '\'') := by
  simp only [writeText]
  split
  · exact ⟨_, _, rfl, .inl rfl⟩
  · exact ⟨_, _, rfl, .inr rfl⟩
  · exact ⟨_, _, rfl, .inl rfl⟩
  · exact ⟨_, _, rfl, .inr rfl⟩

theorem writeWhole (n : Nat) : writeValue (.scalar (.integer n)) = Nat.toDigits 10 n := by
  have positive : ¬(n : Int) < 0 := by omega
  rw [writeValue, if_neg positive]
  rfl

theorem readValueWritten {v : Toml} (plain : Plain v) (rest : List Char) (fuel : Nat) :
    readValue (fuel + 1) 0 (writeValue v ++ '\n' :: rest) = some (v, '\n' :: rest) := by
  cases plain with
  | text s =>
    have ends : EndsWord (fun c => c == '"' || c == '\'') ('\n' :: rest) := endsWordCons.mpr (by decide)
    have read := readTextWritten s ends
    obtain ⟨q, more, front, quote⟩ := writeTextFirst s
    rw [front] at read
    rw [writeValue, front]
    rcases quote with rfl | rfl
    · exact congrArg (Option.map _) read
    · exact congrArg (Option.map _) read
  | @whole n fits =>
    have read := Scalar.readToken rest (digitPart n) (Scalar.ofTextWritten fits)
    rw [writeWhole]
    cases front : Nat.toDigits 10 n with
    | nil => exact absurd front Nat.toDigits_ne_nil
    | cons c more =>
      have digit : c.isDigit = true := Numeral.decimalDigits n c (by simp [front])
      rw [front, List.cons_append] at read
      rw [List.cons_append, readValue, read]
      · rfl
      all_goals
        rintro r same
        rw [(List.cons.inj same).1] at digit
        cases digit
  | flag b => cases b <;> rfl

def Bare (key : String) : Prop := key.toList ≠ [] ∧ ∀ c ∈ key.toList, isBare c = true

instance (key : String) : Decidable (Bare key) :=
  decidable_of_iff (key.toList ≠ [] ∧ key.toList.all isBare = true) (by simp [Bare])

theorem bareFirst (bare : Bare key) : ∃ c more, key.toList = c :: more ∧ isBare c = true := by
  cases front : key.toList with
  | nil => exact absurd front bare.1
  | cons c more => exact ⟨c, more, rfl, bare.2 c (by simp [front])⟩

theorem skipNext (space : c ≠ ' ') (tab : c ≠ '\t') : skip (c :: rest) = c :: rest :=
  List.dropWhile_cons_of_neg (by simp [space, tab])

theorem skipBare (first : isBare c = true) : skip (c :: rest) = c :: rest :=
  skipNext (classesApart first rfl) (classesApart first rfl)

theorem readKeyBare (bare : Bare key) (ends : EndsWord isBare rest) :
    readKey (key.toList ++ rest) = some (key, rest) := by
  have taken := takeWord bare.2 ends
  have dropped := dropWord bare.2 ends
  obtain ⟨c, more, front, first⟩ := bareFirst bare
  have word : String.ofList (c :: more) = key := by rw [← front, String.ofList_toList]
  rw [front, List.cons_append] at taken dropped
  rw [front, List.cons_append, readKey, taken, dropped, word]
  · rfl
  all_goals exact fun r same => absurd (List.cons.inj same).1 (classesApart first rfl)

theorem readDottedBare (bare : Bare key) (ends : EndsWord isBare rest)
    (last : EndsWord (· == '.') (skip rest)) :
    readDotted (key.toList ++ rest) = some (([], key), skip rest) := by
  have read := readKeyBare bare ends
  obtain ⟨c, more, front, first⟩ := bareFirst bare
  rw [front, List.cons_append] at read ⊢
  have path : readPath ((c :: (more ++ rest)).length + 1) (c :: (more ++ rest)) =
      some (([], key), skip rest) := by
    simp only [readPath, skipBare first, read, Option.bind_eq_bind, Option.bind_some]
    split
    · rename_i same
      rw [same] at last
      cases endsWordCons.mp last
    · rfl
  rw [readDotted, path]
  rfl

inductive Simple : Statement → Prop where
  | header {key : String} : Bare key → Simple (.header [] key)
  | pair {key : String} {v : Toml} : Bare key → Plain v → Simple (.pair [] key v)

theorem skipValue {v : Toml} (plain : Plain v) (t : List Char) :
    skip (' ' :: (writeValue v ++ t)) = writeValue v ++ t := by
  change skip (writeValue v ++ t) = _
  cases plain with
  | text s =>
    obtain ⟨q, more, front, rfl | rfl⟩ := writeTextFirst s
    · rw [writeValue, front]
      rfl
    · rw [writeValue, front]
      rfl
  | @whole n _ =>
    rw [writeWhole]
    cases front : Nat.toDigits 10 n with
    | nil => exact absurd front Nat.toDigits_ne_nil
    | cons c more =>
      have digit : isBare c = true := by
        simp [isBare, Char.isAlphanum, Numeral.decimalDigits n c (by simp [front])]
      exact skipBare digit
  | flag b => cases b <;> rfl

theorem readPairWritten {v : Toml} (bare : Bare key) (plain : Plain v) (rest : List Char) :
    readPair (key.toList ++ ' ' :: '=' :: ' ' :: (writeValue v ++ '\n' :: rest)) =
      some (.pair [] key v, rest) := by
  have ends : EndsWord isBare (' ' :: '=' :: ' ' :: (writeValue v ++ '\n' :: rest)) := endsWordCons.mpr rfl
  have dotted := readDottedBare bare ends (endsWordCons.mpr rfl)
  have value := readValueWritten plain rest
    (2 * (' ' :: (writeValue v ++ '\n' :: rest)).length + 1)
  rw [readPair, dotted]
  change (readValue _ 0 (skip (' ' :: (writeValue v ++ '\n' :: rest)))).bind _ = _
  rw [skipValue plain, value]
  rfl

theorem readHeaderWritten (bare : Bare key) (rest : List Char) :
    readHeader (key.toList ++ ']' :: '\n' :: rest) = some (.header [] key, rest) := by
  have ends : EndsWord isBare (']' :: '\n' :: rest) := endsWordCons.mpr rfl
  have dotted := readDottedBare bare ends (endsWordCons.mpr rfl)
  rw [readHeader, dotted]
  rfl

theorem readNext {s : Statement} (simple : Simple s) (fuel : Nat) :
    readStatements (fuel + 1) (writeStatement s ++ rest) =
      (readStatements fuel rest).bind fun more => some (s :: more) := by
  cases simple with
  | @header key bare =>
    have read := readHeaderWritten bare rest
    have shape : writeStatement (.header [] key) ++ rest = '[' :: (key.toList ++ ']' :: '\n' :: rest) := by
      simp [writeStatement]
    obtain ⟨c, more, front, first⟩ := bareFirst bare
    rw [front, List.cons_append] at read shape
    have unskipped : skip ('[' :: c :: (more ++ ']' :: '\n' :: rest)) = '[' :: c :: (more ++ ']' :: '\n' :: rest) :=
      skipNext (by decide) (by decide)
    rw [shape, readStatements, unskipped]
    split
    next same => cases same
    next same => cases same
    next same => cases same
    next same => cases same
    next same => exact absurd (List.cons.inj (List.cons.inj same).2).1 (classesApart first rfl)
    next same =>
      rw [← (List.cons.inj same).2, read]
      rfl
    next other => exact absurd rfl (other _)
  | @pair key v bare plain =>
    have read := readPairWritten bare plain rest
    have shape : writeStatement (.pair [] key v) ++ rest =
        key.toList ++ ' ' :: '=' :: ' ' :: (writeValue v ++ '\n' :: rest) := by
      simp [writeStatement]
    obtain ⟨c, more, front, first⟩ := bareFirst bare
    rw [front, List.cons_append] at read shape
    rw [shape, readStatements, skipBare first]
    split
    next same => cases same
    next same => exact absurd (List.cons.inj same).1 (classesApart first rfl)
    next same => exact absurd (List.cons.inj same).1 (classesApart first rfl)
    next same => exact absurd (List.cons.inj same).1 (classesApart first rfl)
    next same => exact absurd (List.cons.inj same).1 (classesApart first rfl)
    next same => exact absurd (List.cons.inj same).1 (classesApart first rfl)
    next =>
      rw [read]
      rfl

theorem readEach {statements : List Statement} (simple : ∀ s ∈ statements, Simple s)
    (rest : List Char) (fuel : Nat) :
    readStatements (fuel + statements.length) (statements.flatMap writeStatement ++ rest) =
      (readStatements fuel rest).bind fun more => some (statements ++ more) := by
  induction statements with
  | nil => simp
  | cons s statements ih =>
    rw [List.flatMap_cons, List.append_assoc, List.length_cons, ← Nat.add_assoc,
      readNext (simple s (by simp)), ih fun s member => simple s (by simp [member]), Option.bind_assoc]
    rfl

theorem readBlank (fuel : Nat) : readStatements (fuel + 1) ('\n' :: rest) = readStatements fuel rest := rfl

theorem writtenLength (statements : List Statement) :
    statements.length ≤ (statements.flatMap writeStatement).length := by
  induction statements with
  | nil => exact Nat.le_refl 0
  | cons s statements ih =>
    have first : 0 < (writeStatement s).length := by
      cases s with
      | header path key => simp [writeStatement]
      | element path key => simp [writeStatement]
      | pair path key v =>
        simp only [writeStatement, List.length_append, List.length_cons]
        omega
    rw [List.flatMap_cons, List.length_append, List.length_cons]
    omega

theorem readSections {sections : List (List Statement)}
    (simple : ∀ statements ∈ sections, ∀ s ∈ statements, Simple s) {fuel : Nat}
    (enough : (writeSections sections).length < fuel) :
    readStatements fuel (writeSections sections) = some sections.flatten := by
  induction sections generalizing fuel with
  | nil =>
    obtain ⟨fuel, rfl⟩ : ∃ f, fuel = f + 1 := ⟨fuel - 1, by omega⟩
    rfl
  | cons statements sections ih =>
    have each : ∀ s ∈ statements, Simple s := simple statements (by simp)
    have size := writtenLength statements
    cases sections with
    | nil =>
      simp only [writeSections] at enough ⊢
      obtain ⟨fuel, rfl⟩ : ∃ f, fuel = f + 1 + statements.length := ⟨fuel - 1 - statements.length, by omega⟩
      have read := readEach each [] (fuel + 1)
      rw [List.append_nil] at read
      rw [read]
      simp [readStatements, skip]
    | cons next sections =>
      have shape : writeSections (statements :: next :: sections) =
        statements.flatMap writeStatement ++ '\n' :: writeSections (next :: sections) := rfl
      rw [shape, List.length_append, List.length_cons] at enough
      obtain ⟨fuel, rfl⟩ : ∃ f, fuel = f + 1 + statements.length := ⟨fuel - 1 - statements.length, by omega⟩
      rw [shape, readEach each, readBlank,
        ih (fun statements member => simple statements (by simp [member])) (by omega)]
      rfl

end Toml
end Fleet
