import Fleet.Span.Notation
import Fleet.Proofs.Trimming

/-! The texts that spell a span. White space around it aside, such a text is a number in
decimal digits, maybe with a plus sign before it, and right behind it one of the units. What
is read of it is the number of its units, as long as that is no longer than the longest span. -/
namespace Fleet
namespace Span

def Scale.nanos : Scale → Nat
  | .millis => 1000000
  | .secs => perSecond
  | .minutes => 60 * perSecond
  | .hours => 3600 * perSecond

inductive Sign : List Char → Prop
  | none : Sign []
  | plus : Sign ['+']

inductive Mark : List Char → Scale → Prop
  | none : Mark [] .secs
  | millis : Mark ['m', 's'] .millis
  | secs : Mark ['s'] .secs
  | minutes : Mark ['m'] .minutes
  | hours : Mark ['h'] .hours

structure Numeral (s : List Char) (n : Nat) : Prop where
  parts : ∃ sign digits, s = sign ++ digits ∧ Sign sign ∧ digits ≠ [] ∧
    (∀ c ∈ digits, c.isDigit = true) ∧ Nat.ofDigitChars 10 digits 0 = n
  fits : n ≤ Bounds.instant

def Spells (text : String) (n : Nat) (scale : Scale) : Prop :=
  ∃ numeral mark, Text.trim text.toList = numeral ++ mark ∧ Numeral numeral n ∧ Mark mark scale

def Means (text : String) (d : Span) : Prop :=
  ∃ n scale, Spells text n scale ∧ n * scale.nanos ≤ longest ∧ d = ⟨n * scale.nanos⟩

def TooLong (text : String) : Prop := ∃ n scale, Spells text n scale ∧ longest < n * scale.nanos

def unsigned : List Char → List Char
  | '+' :: r => r
  | r => r

theorem unsignedJoined (s : List Char) : ∃ sign, s = sign ++ unsigned s ∧ Sign sign := by
  unfold unsigned
  split
  · exact ⟨['+'], rfl, .plus⟩
  · exact ⟨[], rfl, .none⟩

theorem unsignedOf {sign digits : List Char} (signed : Sign sign)
    (each : ∀ c ∈ digits, c.isDigit = true) : unsigned (sign ++ digits) = digits := by
  cases signed with
  | plus => rfl
  | none =>
    rw [List.nil_append]
    unfold unsigned
    split
    · exact absurd (each '+' List.mem_cons_self) (by decide)
    · rfl

theorem numberSome {s : List Char} {n : Nat} : number? s = some n ↔ Numeral s n := by
  have read : number? s = some n ↔ ((unsigned s ≠ [] ∧ ∀ c ∈ unsigned s, c.isDigit = true) ∧
      Nat.ofDigitChars 10 (unsigned s) 0 ≤ Bounds.instant) ∧
        Nat.ofDigitChars 10 (unsigned s) 0 = n := by
    change (if !(unsigned s).isEmpty && (unsigned s).all Char.isDigit &&
      decide (Nat.ofDigitChars 10 (unsigned s) 0 ≤ Bounds.instant)
      then some (Nat.ofDigitChars 10 (unsigned s) 0) else none) = _ ↔ _
    simp
  rw [read]
  constructor
  · rintro ⟨⟨⟨some, each⟩, fits⟩, rfl⟩
    obtain ⟨sign, joined, signed⟩ := unsignedJoined s
    exact ⟨⟨sign, unsigned s, joined, signed, some, each, rfl⟩, fits⟩
  · rintro ⟨⟨sign, digits, rfl, signed, some, each, rfl⟩, fits⟩
    rw [unsignedOf signed each]
    exact ⟨⟨⟨some, each⟩, fits⟩, rfl⟩

theorem numeralLast {s : List Char} {n : Nat} (numeral : Numeral s n) :
    ∃ front c, s = front ++ [c] ∧ c.isDigit = true := by
  obtain ⟨⟨sign, digits, rfl, _, some, each, _⟩, _⟩ := numeral
  refine ⟨sign ++ digits.dropLast, digits.getLast some, ?_, each _ (List.getLast_mem some)⟩
  rw [List.append_assoc, List.dropLast_concat_getLast some]

theorem splitUnitJoined (s : List Char) :
    ∃ mark, s = (splitUnit s).1 ++ mark ∧ Mark mark (splitUnit s).2 := by
  have back : s = s.reverse.reverse := s.reverse_reverse.symm
  unfold splitUnit
  split <;> rename_i same
  · exact ⟨_, by rw [back, same, List.reverse_cons, List.reverse_cons, List.append_assoc]; rfl, .millis⟩
  · exact ⟨_, by rw [back, same, List.reverse_cons], .secs⟩
  · exact ⟨_, by rw [back, same, List.reverse_cons], .minutes⟩
  · exact ⟨_, by rw [back, same, List.reverse_cons], .hours⟩
  · exact ⟨[], by rw [List.append_nil], .none⟩

theorem splitUnitOf {numeral mark : List Char} {n : Nat} {scale : Scale} (digits : Numeral numeral n)
    (named : Mark mark scale) : splitUnit (numeral ++ mark) = (numeral, scale) := by
  obtain ⟨front, c, rfl, digit⟩ := numeralLast digits
  -- A digit is none of the letters of a unit, so the unit ends where the digits begin.
  have apart : c ≠ 's' ∧ c ≠ 'm' ∧ c ≠ 'h' := by
    refine ⟨?_, ?_, ?_⟩ <;> rintro rfl <;> exact absurd digit (by decide)
  cases named <;> simp [splitUnit, apart]

theorem spellsSplit {text : String} {n : Nat} {scale : Scale} : Spells text n scale ↔
    number? (splitUnit (Text.trim text.toList)).1 = some n ∧
      (splitUnit (Text.trim text.toList)).2 = scale := by
  constructor
  · rintro ⟨numeral, mark, joined, digits, named⟩
    rw [joined, splitUnitOf digits named]
    exact ⟨numberSome.mpr digits, rfl⟩
  · rintro ⟨number, rfl⟩
    obtain ⟨mark, joined, named⟩ := splitUnitJoined (Text.trim text.toList)
    exact ⟨_, mark, joined, numberSome.mp number, named⟩

theorem secsWithin (n m : Nat) : n * (m * perSecond) ≤ longest ↔ n * m ≤ Bounds.instant := by
  rw [← Nat.mul_assoc, longest, perSecond]
  omega

theorem scaleWithin {n : Nat} (fits : n ≤ Bounds.instant) (scale : Scale) :
    n * scale.nanos ≤ longest ↔ (scale = .minutes → n * 60 ≤ Bounds.instant) ∧
      (scale = .hours → n * 3600 ≤ Bounds.instant) := by
  cases scale with
  | millis | secs =>
    simp only [reduceCtorEq, false_imp_iff, and_self, iff_true]
    rw [Scale.nanos, longest, perSecond]
    omega
  | minutes | hours => simp [Scale.nanos, secsWithin]

theorem ofScaleRead {n : Nat} (fits : n ≤ Bounds.instant) (scale : Scale) : ofScale n scale =
    if n * scale.nanos ≤ longest then .ok ⟨n * scale.nanos⟩ else .error .product := by
  cases scale with
  | millis =>
    rw [if_pos ((scaleWithin fits .millis).mpr ⟨nofun, nofun⟩)]
    rfl
  | secs =>
    rw [if_pos ((scaleWithin fits .secs).mpr ⟨nofun, nofun⟩)]
    rfl
  | minutes | hours =>
    simp only [ofScale, exactProduct, Scale.nanos, secsWithin]
    split <;> simp [Except.map, ofSecs, Nat.mul_assoc]

variable {text : String} {n : Nat} {scale : Scale} {d : Span}

theorem ofTextSpelled (spelled : Spells text n scale) : ofText text =
    if n * scale.nanos ≤ longest then .ok (some ⟨n * scale.nanos⟩) else .error .product := by
  obtain ⟨number, rfl⟩ := spellsSplit.mp spelled
  have fits := (numberSome.mp number).fits
  simp only [ofText, number, ofScaleRead fits]
  split <;> rfl

theorem ofTextOther (other : ∀ n scale, ¬ Spells text n scale) : ofText text = .ok none := by
  have none : number? (splitUnit (Text.trim text.toList)).1 = none :=
    Option.eq_none_iff_forall_ne_some.mpr fun n number => other n _ (spellsSplit.mpr ⟨number, rfl⟩)
  simp only [ofText, none]

theorem ofTextEither (text : String) : (∃ d, Means text d ∧ ofText text = .ok (some d)) ∨
    (TooLong text ∧ ofText text = .error .product) ∨
    ((∀ n scale, ¬ Spells text n scale) ∧ ofText text = .ok none) := by
  by_cases spelled : ∃ n scale, Spells text n scale
  · obtain ⟨n, scale, spelled⟩ := spelled
    have read := ofTextSpelled spelled
    split at read
    · rename_i fits
      exact .inl ⟨_, ⟨n, scale, spelled, fits, rfl⟩, read⟩
    · rename_i long
      exact .inr (.inl ⟨⟨n, scale, spelled, Nat.lt_of_not_le long⟩, read⟩)
  · have other : ∀ n scale, ¬ Spells text n scale := fun n scale is => spelled ⟨n, scale, is⟩
    exact .inr (.inr ⟨other, ofTextOther other⟩)

theorem ofTextMeans : ofText text = .ok (some d) ↔ Means text d := by
  constructor
  · intro read
    rcases ofTextEither text with ⟨d', means, is⟩ | ⟨_, is⟩ | ⟨_, is⟩ <;> cases read.symm.trans is
    exact means
  · rintro ⟨n, scale, spelled, fits, rfl⟩
    rw [ofTextSpelled spelled, if_pos fits]

theorem ofTextTooLong {o : Overflow} : ofText text = .error o ↔ TooLong text ∧ o = .product := by
  constructor
  · intro read
    rcases ofTextEither text with ⟨_, _, is⟩ | ⟨long, is⟩ | ⟨_, is⟩ <;> cases read.symm.trans is
    exact ⟨long, rfl⟩
  · rintro ⟨⟨n, scale, spelled, long⟩, rfl⟩
    rw [ofTextSpelled spelled, if_neg (Nat.not_le_of_lt long)]

def Written (text : String) (n : Nat) (scale : Scale) : Prop :=
  ∃ lead numeral mark trail, text.toList = lead ++ ((numeral ++ mark) ++ trail) ∧
    Text.Blank lead ∧ Text.Blank trail ∧ Numeral numeral n ∧ Mark mark scale

theorem numeralFirst {s : List Char} (numeral : Numeral s n) :
    ∃ c rest, s = c :: rest ∧ Text.isBlank c = false := by
  obtain ⟨⟨sign, digits, rfl, signed, some, each, _⟩, _⟩ := numeral
  obtain ⟨c, rest, rfl⟩ := List.exists_cons_of_ne_nil some
  cases signed with
  | none => exact ⟨c, rest, rfl, Text.digitPlain (each c List.mem_cons_self)⟩
  | plus => exact ⟨'+', c :: rest, rfl, by decide⟩

theorem markLast {mark : List Char} (named : Mark mark scale) :
    mark = [] ∨ ∃ front c, mark = front ++ [c] ∧ Text.isBlank c = false := by
  cases named with
  | none => exact .inl rfl
  | millis => exact .inr ⟨['m'], 's', rfl, by decide⟩
  | secs => exact .inr ⟨[], 's', rfl, by decide⟩
  | minutes => exact .inr ⟨[], 'm', rfl, by decide⟩
  | hours => exact .inr ⟨[], 'h', rfl, by decide⟩

theorem spelledTight {numeral mark : List Char} (digits : Numeral numeral n) (named : Mark mark scale) :
    Text.Tight (numeral ++ mark) := by
  constructor
  · obtain ⟨c, rest, rfl, plain⟩ := numeralFirst digits
    simpa using plain
  · rcases markLast named with rfl | ⟨front, c, rfl, plain⟩
    · obtain ⟨front, c, rfl, digit⟩ := numeralLast digits
      simpa using Text.digitPlain digit
    · simpa [← List.append_assoc] using plain

theorem spellsWritten : Spells text n scale ↔ Written text n scale := by
  constructor
  · rintro ⟨numeral, mark, trimmed, digits, named⟩
    obtain ⟨lead, trail, split, before, behind⟩ := Text.trimSplit text.toList
    exact ⟨lead, numeral, mark, trail, trimmed ▸ split, before, behind, digits, named⟩
  · rintro ⟨lead, numeral, mark, trail, split, before, behind, digits, named⟩
    refine ⟨numeral, mark, ?_, digits, named⟩
    rw [split, Text.trimOf before behind (spelledTight digits named)]

def Countable (text : String) : Prop :=
  ∀ n, (Written text n .minutes → n * 60 ≤ Bounds.instant) ∧
    (Written text n .hours → n * 3600 ≤ Bounds.instant)

theorem countableWithin : Countable text ↔ ¬ TooLong text := by
  constructor
  · rintro countable ⟨n, scale, spelled, long⟩
    have fits := (numberSome.mp (spellsSplit.mp spelled).1).fits
    have written := spellsWritten.mp spelled
    refine Nat.not_le_of_lt long ((scaleWithin fits scale).mpr ⟨?_, ?_⟩)
    · rintro rfl
      exact (countable n).1 written
    · rintro rfl
      exact (countable n).2 written
  · intro short n
    have within {scale : Scale} (written : Written text n scale) : n ≤ Bounds.instant ∧
        n * scale.nanos ≤ longest := by
      have spelled := spellsWritten.mpr written
      exact ⟨(numberSome.mp (spellsSplit.mp spelled).1).fits,
        Nat.le_of_not_lt fun long => short ⟨n, scale, spelled, long⟩⟩
    refine ⟨fun written => ?_, fun written => ?_⟩
    · obtain ⟨fits, here⟩ := within written
      exact ((scaleWithin fits .minutes).mp here).1 rfl
    · obtain ⟨fits, here⟩ := within written
      exact ((scaleWithin fits .hours).mp here).2 rfl

theorem ofTextIffWritten (countable : Countable text) :
    (∀ d, ofText text = .ok (some d) ↔ ∃ n scale, Written text n scale ∧ d = ⟨n * scale.nanos⟩) ∧
      (ofText text = .ok none ↔ ∀ n scale, ¬ Written text n scale) := by
  have short := countableWithin.mp countable
  simp only [← spellsWritten]
  refine ⟨fun d => ofTextMeans.trans ⟨?_, ?_⟩, fun none n scale spelled => ?_, ofTextOther⟩
  · rintro ⟨n, scale, spelled, _, rfl⟩
    exact ⟨n, scale, spelled, rfl⟩
  · rintro ⟨n, scale, spelled, rfl⟩
    exact ⟨n, scale, spelled, Nat.le_of_not_lt fun long => short ⟨n, scale, spelled, long⟩, rfl⟩
  · rw [ofTextSpelled spelled] at none
    split at none <;> cases none

theorem paddedWritten : Countable "\u3000+0090m\n" ∧ Written "\u3000+0090m\n" 90 .minutes ∧
    ofText "\u3000+0090m\n" = .ok (some (.ofSecs 5400)) := by
  have written : Written "\u3000+0090m\n" 90 .minutes := by
    refine ⟨['\u3000'], "+0090".toList, ['m'], ['\n'], by decide, by decide, by decide, ⟨?_, by decide⟩,
      .minutes⟩
    exact ⟨['+'], "0090".toList, by decide, .plus, by decide, List.all_eq_true.mp rfl, by decide⟩
  have countable : Countable "\u3000+0090m\n" := by
    refine countableWithin.mpr fun long => ?_
    have read : ofText "\u3000+0090m\n" = .ok (some (.ofSecs 5400)) := by decide +kernel
    cases read.symm.trans (ofTextTooLong.mpr ⟨long, rfl⟩)
  exact ⟨countable, written, ((ofTextIffWritten countable).1 _).mpr ⟨90, .minutes, written, rfl⟩⟩

end Span
end Fleet
