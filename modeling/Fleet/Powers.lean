/-! Powers of two, of five and of ten, on natural numbers alone. -/
namespace Fleet

def twoTo (n : Nat) : Nat := Nat.pow 2 n

def fiveTo (n : Nat) : Nat := Nat.pow 5 n

def tenTo (n : Nat) : Nat := Nat.pow 10 n

theorem twoToSucc (n : Nat) : twoTo (n + 1) = 2 * twoTo n := Nat.mul_comm _ _

theorem tenToSucc (n : Nat) : tenTo (n + 1) = 10 * tenTo n := Nat.mul_comm _ _

end Fleet
