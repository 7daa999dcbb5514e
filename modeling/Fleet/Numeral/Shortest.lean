import Fleet.Numeral

/-! The numeral that a binary floating value is written as: the fewest digits that
lie nearer to the value than to any other, among those the closest, and from halfway
the even one. Exponents of the leading digit from -5 to 15 are written out; others
get an exponent with its sign. -/
namespace Fleet
namespace Numeral

def compareScaled (a : Nat) (i : Int) (n : Nat) (j : Int) : Ordering :=
  compare (a * tenTo i.toNat * twoTo (-j).toNat) (n * twoTo j.toNat * tenTo (-i).toNat)

/-- Whether `d * 10 ^ e` lies in the interval of the reals that round to a magnitude.
Its ends belong to it when the significand is even; below a power of two it is half
as wide as above. -/
def roundsTo (magnitude d : Nat) (e : Int) : Bool :=
  let m := Binary64.significand magnitude
  let q := Binary64.exponent magnitude - 2
  let narrow := magnitude % Binary64.leadingBit = 0 && magnitude ≥ 2 * Binary64.leadingBit
  let low := compareScaled d e (if narrow then 4 * m - 1 else 4 * m - 2) q
  let high := compareScaled d e (4 * m + 2) q
  let even := m % 2 = 0
  (low = .gt || (even && low = .eq)) && (high = .lt || (even && high = .eq))

def scaleOf (magnitude : Nat) : Int :=
  let m := Binary64.significand magnitude
  let q := Binary64.exponent magnitude
  let guess : Int := ((m.log2 : Int) + q) * 30103 / 100000
  ([guess, guess + 1, guess + 2].find? fun k => compareScaled 1 k m q = .gt).getD (guess + 3)

def onGrid? (magnitude : Nat) (g : Int) : Option Nat :=
  let m := Binary64.significand magnitude
  let q := Binary64.exponent magnitude
  let below := m * twoTo q.toNat * tenTo (-g).toNat / (twoTo (-q).toNat * tenTo g.toNat)
  match roundsTo magnitude below g, roundsTo magnitude (below + 1) g with
  | true, true =>
      match compareScaled (2 * below + 1) g (2 * m) q with
      | .gt => some below
      | .lt => some (below + 1)
      | .eq => some (if below % 2 = 0 then below else below + 1)
  | true, false => some below
  | false, true => some (below + 1)
  | false, false => none

def stripZeros (d : Nat) (e : Int) : Nat × Int :=
  if d ≠ 0 ∧ d % 10 = 0 then stripZeros (d / 10) (e + 1) else (d, e)
termination_by d
decreasing_by omega

def shortest (magnitude : Nat) : Nat × Int :=
  let k := scaleOf magnitude
  let found := (List.range 17).findSome? fun i =>
    (onGrid? magnitude (k - (i + 1 : Nat))).map (·, k - (i + 1 : Nat))
  let q := Binary64.exponent magnitude
  let exact := (Binary64.significand magnitude * twoTo q.toNat * fiveTo (-q).toNat, -((-q).toNat : Int))
  let r := found.getD exact
  stripZeros r.1 r.2

def padded : Nat → Nat → List (Fin 10)
  | 0, _ => []
  | width + 1, n => padded width (n / 10) ++ [Fin.ofNat 10 n]

def layout (negative : Bool) (d : Nat) (e : Int) : Numeral :=
  let behind := (Nat.toDigits 10 d).length - 1
  let lead := e + behind
  if -5 ≤ lead ∧ lead < 16 then
    if 0 ≤ e then ⟨negative, d * tenTo e.toNat, [digitOf '0'], none⟩
    else
      let places := (-e).toNat
      ⟨negative, d / tenTo places, padded places d, none⟩
  else ⟨negative, d / tenTo behind, padded behind d, some lead⟩

def ofBinary (x : Binary64) : Numeral :=
  if x.magnitude = 0 then ⟨x.negative, 0, [digitOf '0'], none⟩
  else
    let r := shortest x.magnitude
    layout x.negative r.1 r.2

end Numeral

def Binary64.reread (x : Binary64) : Option Binary64 :=
  if x.isFinite then (Numeral.ofBinary x).toBinary? else none

end Fleet
