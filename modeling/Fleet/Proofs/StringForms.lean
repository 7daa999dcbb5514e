import Fleet.Toml.Text
import Fleet.Proofs.Words

/-! The four forms of a string in the settings format, read again. Whatever a string holds,
the form that is chosen for it gives it back: the one-line forms up to their closing quote,
the others up to the last of the quotes in a row that close them. -/
namespace Fleet
namespace Toml
variable {c : Char} {w s rest : List Char}

inductive Spelled (c : Char) : List Char → Prop where
  | letter {l : Char} : letters.lookup l = some c → Spelled c ['\\', l]
  | code {a b : Char} : named? ['0', '0', a, b] = some c → Spelled c ['\\', 'u', '0', '0', a, b]
  | plain : isControl c = false → c ≠ '"' → c ≠ '\\' → Spelled c [c]

theorem controlNamed (control : isControl c = true) :
    named? ['0', '0', (Json.hexDigit (c.toNat / 16)).toUpper, (Json.hexDigit (c.toNat % 16)).toUpper] =
      some c := by
  have small : ∀ n < 128, named? ['0', '0', (Json.hexDigit (n / 16)).toUpper, (Json.hexDigit (n % 16)).toUpper] =
      some (Char.ofNat n) := by decide +kernel
  have below : c.toNat < 128 := by
    simp only [isControl, Bool.or_eq_true, Bool.and_eq_true, decide_eq_true_eq, beq_iff_eq] at control
    omega
  rw [small c.toNat below, Char.ofNat_toNat]

theorem spelled (other : c ≠ '"') : Spelled c (escapeControl c) := by
  unfold escapeControl
  split
  · exact .letter rfl
  · exact .letter rfl
  · exact .letter rfl
  · exact .letter rfl
  · exact .letter rfl
  · exact .letter rfl
  · rename_i slash
    split
    · exact .code (controlNamed ‹_›)
    · exact .plain (eq_false_of_ne_true ‹_›) other slash

theorem letterPlain {l : Char} (known : letters.lookup l = some c) : l ≠ 'u' ∧ l ≠ 'U' := by
  constructor
  · rintro rfl
    cases known
  · rintro rfl
    cases known

theorem basicSpelled (as : Spelled c w) (t : List Char) :
    basicBody (w ++ t) = (basicBody t).map fun (read, rest) => (c :: read, rest) := by
  cases as with
  | letter known =>
    obtain ⟨small, large⟩ := letterPlain known
    change basicBody ('\\' :: _ :: t) = _
    rw [basicBody, known]
    · rfl
    · exact fun _ _ _ _ _ same => absurd same small
    · exact fun _ _ _ _ _ _ _ _ _ same => absurd same large
  | code known =>
    change basicBody ('\\' :: 'u' :: '0' :: '0' :: _ :: _ :: t) = _
    rw [basicBody, known]
    rfl
  | plain allowed quote slash =>
    have fits : (isControl c || c == '\\') = false := by
      simp [allowed, slash]
    change basicBody (c :: t) = _
    rw [basicBody, fits]
    · rfl
    · exact fun same => absurd same quote
    · exact fun _ _ _ _ _ same => absurd same slash
    · exact fun _ _ _ _ _ _ _ _ _ same => absurd same slash
    · exact fun _ _ same => absurd same slash

theorem linesSpelled (as : Spelled c w) (t : List Char) :
    basicLines false (w ++ t) = (basicLines false t).map fun (read, rest) => (c :: read, rest) := by
  cases as with
  | letter known =>
    obtain ⟨small, large⟩ := letterPlain known
    change basicLines false ('\\' :: _ :: t) = _
    rw [basicLines, known]
    · exact fun _ _ _ _ _ same => absurd same small
    · exact fun _ _ _ _ _ _ _ _ _ same => absurd same large
  | code known =>
    change basicLines false ('\\' :: 'u' :: '0' :: '0' :: _ :: _ :: t) = _
    rw [basicLines, known]
    rfl
  | plain allowed quote slash =>
    have fits : ((isControl c && c != '\n') || c == '\\') = false := by
      simp [allowed, slash]
    have noReturn : c ≠ '\r' := by
      rintro rfl
      cases allowed
    change basicLines false (c :: t) = _
    rw [basicLines, fits]
    · rfl
    · exact fun same => absurd same quote
    · exact fun _ _ _ _ _ same => absurd same slash
    · exact fun _ _ _ _ _ _ _ _ _ same => absurd same slash
    · exact fun _ _ same => absurd same slash
    · exact fun _ same => absurd same noReturn

theorem basicRead (s : List Char) :
    basicBody (escapeBasic false 0 0 s ++ '"' :: rest) = some (s, rest) := by
  induction s with
  | nil => rfl
  | cons c s ih =>
    by_cases quote : c = '"'
    · subst quote
      have escaped := basicSpelled (.letter (l := '"') rfl) (escapeBasic false 0 0 s ++ '"' :: rest)
      rw [ih] at escaped
      exact escaped
    · have step : escapeBasic false 0 0 (c :: s) = escapeControl c ++ escapeBasic false 0 0 s := by
        rw [escapeBasic]
        · rfl
        · exact quote
      rw [step, List.append_assoc, basicSpelled (spelled quote), ih]
      rfl

theorem literalRead (plain : ∀ c ∈ s, c ≠ '\'' ∧ isControl c = false) :
    literalBody (s ++ '\'' :: rest) = some (s, rest) := by
  induction s with
  | nil => rfl
  | cons c s ih =>
    obtain ⟨quote, allowed⟩ := plain c (by simp)
    rw [List.cons_append, literalBody, allowed, ih fun c member => plain c (by simp [member])]
    · rfl
    · exact quote

def quoteRun (quote : Char) (s : List Char) : Nat := (s.takeWhile (· == quote)).length

@[simp] theorem quoteRunSame (quote : Char) (s : List Char) :
    quoteRun quote (quote :: s) = quoteRun quote s + 1 := by
  simp [quoteRun]

@[simp] theorem quoteRunOther {quote : Char} (other : c ≠ quote) (s : List Char) :
    quoteRun quote (c :: s) = 0 := by
  simp [quoteRun, other]

theorem closingNone {quote : Char} (few : quoteRun quote s < 3) : closing? quote s = none :=
  if_pos few

theorem closingAfter {quote : Char} {k : Nat} (few : k ≤ 2) (ends : EndsWord (· == quote) rest) :
    closing? quote (List.replicate k quote ++ quote :: quote :: quote :: rest) =
      some (List.replicate k quote, rest) := by
  have shape : List.replicate k quote ++ quote :: quote :: quote :: rest =
      List.replicate (k + 3) quote ++ rest := by
    rw [← List.replicate_append_replicate, List.append_assoc]
    rfl
  have run : ((List.replicate (k + 3) quote ++ rest).takeWhile (· == quote)).length = k + 3 := by
    rw [takeWord _ ends, List.length_replicate]
    intro c member
    simp [List.eq_of_mem_replicate member]
  rw [shape, closing?, run]
  have dropped : (List.replicate (k + 3) quote ++ rest).drop (k + 3) = rest := by
    rw [List.drop_left']
    simp
  simp [dropped, few]

theorem escapedOther (lines : Bool) (free left : Nat) (other : c ≠ '"') (s : List Char) :
    escapeBasic lines free left (c :: s) =
      (if lines && c == '\n' then ['\n'] else escapeControl c) ++ escapeBasic lines free free s := by
  rw [escapeBasic]
  exact other

theorem spelledFirst (as : Spelled c w) : ∃ a more, w = a :: more ∧ a ≠ '"' ∧ isControl a = false := by
  cases as with
  | letter _ => exact ⟨_, _, rfl, by decide, rfl⟩
  | code _ => exact ⟨_, _, rfl, by decide, rfl⟩
  | plain allowed quote _ => exact ⟨_, _, rfl, quote, allowed⟩

theorem escapedRun (left : Nat) (s t : List Char) :
    (∃ k ≤ left, s = List.replicate k '"') ∨ quoteRun '"' (escapeBasic true 2 left s ++ t) ≤ left := by
  induction s generalizing left with
  | nil => exact .inl ⟨0, Nat.zero_le _, rfl⟩
  | cons c s ih =>
    by_cases quote : c = '"'
    · subst quote
      cases left with
      | zero => exact .inr (Nat.le_refl 0)
      | succ left =>
        rcases ih left with ⟨k, few, rfl⟩ | few
        · exact .inl ⟨k + 1, by omega, rfl⟩
        · refine .inr ?_
          change quoteRun '"' ('"' :: (escapeBasic true 2 left s ++ t)) ≤ _
          rw [quoteRunSame]
          omega
    · refine .inr ?_
      rw [escapedOther true 2 left quote]
      split
      · exact Nat.zero_le _
      · obtain ⟨a, more, front, other, _⟩ := spelledFirst (spelled quote)
        simp [front, other]

theorem escapedQuotes {k left : Nat} (few : k ≤ left) :
    escapeBasic true 2 left (List.replicate k '"') = List.replicate k '"' := by
  induction k generalizing left with
  | zero => rfl
  | succ k ih =>
    obtain ⟨left, rfl⟩ : ∃ l, left = l + 1 := ⟨left - 1, by omega⟩
    rw [List.replicate_succ, escapeBasic, ih (by omega)]

theorem basicLinesClose {read : List Char} (closes : closing? '"' ('"' :: s) = some (read, rest)) :
    basicLines false ('"' :: s) = some (read, rest) := by
  rw [basicLines, closes]

theorem basicLinesBreak (s : List Char) :
    basicLines false ('\n' :: s) = (basicLines false s).map fun (read, rest) => ('\n' :: read, rest) := by
  rw [basicLines]
  · rfl
  all_goals simp

theorem basicLinesQuote (unclosed : closing? '"' ('"' :: s) = none) :
    basicLines false ('"' :: s) = (basicLines false s).map fun (read, rest) => ('"' :: read, rest) := by
  rw [basicLines, unclosed]

theorem basicLinesRead {left : Nat} (few : left ≤ 2) (ends : EndsWord (· == '"') rest) (s : List Char) :
    basicLines false (escapeBasic true 2 left s ++ '"' :: '"' :: '"' :: rest) = some (s, rest) := by
  induction s generalizing left with
  | nil =>
    exact basicLinesClose (closingAfter (Nat.zero_le 2) ends)
  | cons c s ih =>
    by_cases quote : c = '"'
    · subst quote
      cases left with
      | zero =>
        have escaped := linesSpelled (.letter (l := '"') rfl)
          (escapeBasic true 2 2 s ++ '"' :: '"' :: '"' :: rest)
        rw [ih (Nat.le_refl 2)] at escaped
        exact escaped
      | succ left =>
        change basicLines false ('"' :: (escapeBasic true 2 left s ++ '"' :: '"' :: '"' :: rest)) = _
        rcases escapedRun left s ('"' :: '"' :: '"' :: rest) with ⟨k, short, rfl⟩ | short
        · rw [escapedQuotes short]
          exact basicLinesClose (closingAfter (k := k + 1) (by omega) ends)
        · have more : closing? '"' ('"' :: (escapeBasic true 2 left s ++ '"' :: '"' :: '"' :: rest)) = none :=
            closingNone (by rw [quoteRunSame]; omega)
          rw [basicLinesQuote more, ih (by omega)]
          rfl
    · rw [escapedOther true 2 left quote]
      split
      · rename_i line
        simp only [Bool.true_and, beq_iff_eq] at line
        subst line
        change basicLines false ('\n' :: (escapeBasic true 2 2 s ++ '"' :: '"' :: '"' :: rest)) = _
        rw [basicLinesBreak, ih (Nat.le_refl 2)]
        rfl
      · rw [List.append_assoc, linesSpelled (spelled quote), ih (Nat.le_refl 2)]
        rfl

theorem literalRun {quote : Char} (single : hasTriple quote s = false) (t : List Char) :
    (∃ k ≤ 2, s = List.replicate k quote) ∨ quoteRun quote (s ++ t) < 3 := by
  match s, single with
  | [], _ => exact .inl ⟨0, by decide, rfl⟩
  | [a], _ =>
    by_cases first : a = quote
    · exact .inl ⟨1, by decide, by rw [first]; rfl⟩
    · exact .inr (by simp [first])
  | [a, b], _ =>
    by_cases first : a = quote
    · by_cases second : b = quote
      · exact .inl ⟨2, by decide, by rw [first, second]; rfl⟩
      · exact .inr (by simp [first, second])
    · exact .inr (by simp [first])
  | a :: b :: c :: s, single =>
    by_cases first : a = quote
    · by_cases second : b = quote
      · have third : c ≠ quote := by
          rintro same
          simp [hasTriple, first, second, same] at single
        exact .inr (by simp [first, second, third])
      · exact .inr (by simp [first, second])
    · exact .inr (by simp [first])

theorem literalLinesClose {read : List Char} (closes : closing? '\'' ('\'' :: s) = some (read, rest)) :
    literalLines ('\'' :: s) = some (read, rest) := by
  rw [literalLines, closes]

theorem literalLinesQuote (unclosed : closing? '\'' ('\'' :: s) = none) :
    literalLines ('\'' :: s) = (literalLines s).map fun (read, rest) => ('\'' :: read, rest) := by
  rw [literalLines, unclosed]

theorem singleTail {quote : Char} (single : hasTriple quote (c :: s) = false) :
    hasTriple quote s = false := by
  match s, single with
  | [], _ => rfl
  | [_], _ => rfl
  | _ :: _ :: _, single =>
    rw [hasTriple, Bool.or_eq_false_iff] at single
    exact single.2

theorem literalLinesRead (plain : ∀ c ∈ s, isControl c = true → c = '\n')
    (single : hasTriple '\'' s = false) (ends : EndsWord (· == '\'') rest) :
    literalLines (s ++ '\'' :: '\'' :: '\'' :: rest) = some (s, rest) := by
  induction s with
  | nil => exact literalLinesClose (closingAfter (Nat.zero_le 2) ends)
  | cons c s ih =>
    have tail := ih (fun c member => plain c (by simp [member])) (singleTail single)
    by_cases quote : c = '\''
    · subst quote
      rcases literalRun single ('\'' :: '\'' :: '\'' :: rest) with ⟨k, short, same⟩ | short
      · have closes := closingAfter short ends
        rw [← same] at closes
        exact literalLinesClose closes
      · have more : closing? '\'' ('\'' :: (s ++ '\'' :: '\'' :: '\'' :: rest)) = none := closingNone short
        rw [List.cons_append, literalLinesQuote more, tail]
        rfl
    · have noReturn : c ≠ '\r' := by
        rintro rfl
        cases plain '\r' (by simp) rfl
      have fits : (isControl c && c != '\n') = false := by
        cases control : isControl c with
        | false => rfl
        | true => rw [plain c (by simp) control]; rfl
      rw [List.cons_append, literalLines, fits, tail]
      · rfl
      · exact quote
      · exact fun _ same => absurd same noReturn

theorem noControl (free : hasControl s = false) : ∀ c ∈ s, isControl c = true → c = '\n' := by
  intro c member control
  have harmless := List.any_eq_false.mp free c member
  simpa [control] using harmless

theorem literalFits (chosen : formOf s = .literal) : s ≠ [] ∧ ∀ c ∈ s, c ≠ '\'' ∧ isControl c = false := by
  simp only [formOf] at chosen
  split at chosen
  · cases chosen
  rename_i marked
  split at chosen
  · rename_i fits
    simp only [Bool.and_eq_true, Bool.not_eq_true', List.contains_eq_mem, decide_eq_false_iff_not] at fits
    obtain ⟨⟨quote, line⟩, control⟩ := fits
    refine ⟨?_, fun c member => ⟨?_, ?_⟩⟩
    · rintro rfl
      exact marked rfl
    · rintro rfl
      exact quote member
    · refine eq_false_of_ne_true fun bad => line ?_
      rwa [← noControl control c member bad]
  · repeat' split at chosen
    all_goals cases chosen

theorem literalLinesFits (chosen : formOf s = .literalLines) :
    (∀ c ∈ s, isControl c = true → c = '\n') ∧ hasTriple '\'' s = false := by
  simp only [formOf] at chosen
  split at chosen
  · cases chosen
  split at chosen
  · cases chosen
  split at chosen
  · cases chosen
  split at chosen
  · rename_i fits
    rw [Bool.and_eq_true, Bool.not_eq_true', Bool.not_eq_true'] at fits
    exact ⟨noControl fits.1, fits.2⟩
  · split at chosen <;> cases chosen

theorem basicOpen (c : Char) (s : List Char) :
    ∃ a more, escapeBasic false 0 0 (c :: s) = a :: more ∧ a ≠ '"' := by
  by_cases quote : c = '"'
  · subst quote
    exact ⟨_, _, rfl, by decide⟩
  · obtain ⟨a, more, front, other, _⟩ := spelledFirst (spelled quote)
    exact ⟨a, more ++ escapeBasic false 0 0 s, by rw [escapedOther false 0 0 quote]; simp [front], other⟩

theorem readBasic (s : List Char) (ends : EndsWord (· == '"') rest) :
    readText ('"' :: (escapeBasic false 0 0 s ++ '"' :: rest)) = some (String.ofList s, rest) := by
  rw [readText, basicRead s]
  · rfl
  rintro r same
  cases s with
  | nil =>
    cases same
    cases endsWordCons.mp ends
  | cons c s =>
    obtain ⟨a, more, front, other⟩ := basicOpen c s
    rw [front] at same
    exact other (List.cons.inj same).1

theorem readLiteral (rest : List Char) (nonempty : s ≠ []) (plain : ∀ c ∈ s, c ≠ '\'' ∧ isControl c = false) :
    readText ('\'' :: (s ++ '\'' :: rest)) = some (String.ofList s, rest) := by
  rw [readText, literalRead plain]
  · rfl
  rintro r same
  cases s with
  | nil => exact nonempty rfl
  | cons c s => exact (plain c (by simp)).1 (List.cons.inj same).1

theorem pastOpening {text : List Char}
    (flat : text.contains '\n' = false → ∃ c more, s = c :: more ∧ isControl c = false) :
    pastNewline ((if text.contains '\n' then ['\n'] else []) ++ s) = s := by
  cases line : text.contains '\n' with
  | true => rfl
  | false =>
    obtain ⟨c, more, rfl, allowed⟩ := flat line
    change pastNewline (c :: more) = c :: more
    rw [pastNewline]
    · rintro r same
      cases (List.cons.inj same).1
      cases allowed
    · rintro r same
      cases (List.cons.inj same).1
      cases allowed

theorem escapedOpen (flat : s.contains '\n' = false) :
    ∃ c more, escapeBasic true 2 2 s ++ '"' :: rest = c :: more ∧ isControl c = false := by
  cases s with
  | nil => exact ⟨_, _, rfl, rfl⟩
  | cons c s =>
    by_cases quote : c = '"'
    · subst quote
      exact ⟨_, _, rfl, rfl⟩
    · have line : (c == '\n') = false := by
        rw [beq_eq_false_iff_ne]
        rintro rfl
        simp at flat
      obtain ⟨a, more, front, _, allowed⟩ := spelledFirst (spelled quote)
      refine ⟨a, more ++ escapeBasic true 2 2 s ++ '"' :: rest, ?_, allowed⟩
      rw [escapedOther true 2 2 quote, line]
      simp [front]

theorem literalOpen (flat : s.contains '\n' = false) (plain : ∀ c ∈ s, isControl c = true → c = '\n') :
    ∃ c more, s ++ '\'' :: rest = c :: more ∧ isControl c = false := by
  cases s with
  | nil => exact ⟨_, _, rfl, rfl⟩
  | cons c s =>
    refine ⟨c, _, rfl, eq_false_of_ne_true fun control => ?_⟩
    rw [plain c (by simp) control] at flat
    simp at flat

theorem readBasicLines (s : List Char) (ends : EndsWord (· == '"') rest) :
    readText (opening '"' s ++ (escapeBasic true 2 2 s ++ '"' :: '"' :: '"' :: rest)) =
      some (String.ofList s, rest) := by
  change readText ('"' :: '"' :: '"' :: ((if s.contains '\n' then ['\n'] else []) ++ _)) = _
  rw [readText, pastOpening escapedOpen, basicLinesRead (Nat.le_refl 2) ends]
  rfl

theorem readLiteralLines (plain : ∀ c ∈ s, isControl c = true → c = '\n')
    (single : hasTriple '\'' s = false) (ends : EndsWord (· == '\'') rest) :
    readText (opening '\'' s ++ (s ++ '\'' :: '\'' :: '\'' :: rest)) = some (String.ofList s, rest) := by
  change readText ('\'' :: '\'' :: '\'' :: ((if s.contains '\n' then ['\n'] else []) ++ _)) = _
  rw [readText, pastOpening fun flat => literalOpen flat plain, literalLinesRead plain single ends]
  rfl

theorem readTextWritten (text : String) (ends : EndsWord (fun c => c == '"' || c == '\'') rest) :
    readText (writeText text ++ rest) = some (text, rest) := by
  have double : EndsWord (· == '"') rest := ends.weaken fun c h => by simp_all
  have single : EndsWord (· == '\'') rest := ends.weaken fun c h => by simp_all
  cases chosen : formOf text.toList with
  | basic => simpa [writeText, chosen] using readBasic text.toList double
  | literal =>
    obtain ⟨nonempty, plain⟩ := literalFits chosen
    simpa [writeText, chosen] using readLiteral rest nonempty plain
  | basicLines => simpa [writeText, chosen] using readBasicLines text.toList double
  | literalLines =>
    obtain ⟨plain, apart⟩ := literalLinesFits chosen
    simpa [writeText, chosen] using readLiteralLines plain apart single

end Toml
end Fleet
