/-!
Powers of two and ten, and the bounds of machine words.
-/

namespace SchemaCheck

def twoTo (exponent : Nat) : Nat := Nat.pow 2 exponent

def tenTo (exponent : Nat) : Nat := Nat.pow 10 exponent

theorem twoTo_pos (k : Nat) : 0 < twoTo k := Nat.pow_pos (by decide)

theorem twoTo_add (j k : Nat) : twoTo (j + k) = twoTo j * twoTo k := Nat.pow_add 2 j k

theorem twoTo_dvd {j k : Nat} (h : j ≤ k) : twoTo j ∣ twoTo k := Nat.pow_dvd_pow 2 h

theorem log2_twoTo (k : Nat) : (twoTo k).log2 = k := Nat.log2_two_pow

theorem log2_lt_iff {n k : Nat} (h : n ≠ 0) : n.log2 < k ↔ n < twoTo k := Nat.log2_lt h

def wordBound : Nat := twoTo 64

def signedBound : Nat := twoTo 63

def isSignedWord (n : Int) : Bool := -(signedBound : Int) ≤ n && n < (signedBound : Int)

end SchemaCheck
