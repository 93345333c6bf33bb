/-!
# Bounds of fixed-width numbers

* `wordBound`, `halfWordBound`   what numbers of 64 and of 32 bits lie below;
* `signedBound`                  what numbers of 64 bits with a sign lie below;
* `wrapWord`, `wrapSigned`       what 64 bits keep of a sum that may be too large for them.
-/

namespace ProxyMesh

/-- two to the power of 64 -/
def wordBound : Nat := 0x10000000000000000

/-- two to the power of 63 -/
def signedBound : Nat := 0x8000000000000000

/-- two to the power of 32 -/
def halfWordBound : Nat := 0x100000000

/-- a number that 64 bits with a sign hold -/
def isSigned (n : Int) : Bool := -(signedBound : Int) ≤ n && n < signedBound

/-- a sum without a sign in 64 bits: what does not fit wraps around -/
def wrapWord (n : Nat) : Nat := n % wordBound

/-- a sum with a sign in 64 bits: what does not fit wraps around -/
def wrapSigned (n : Int) : Int := n.bmod wordBound

theorem wrapWord_of_lt {n : Nat} (h : n < wordBound) : wrapWord n = n := Nat.mod_eq_of_lt h

theorem wrapWord_le (n : Nat) : wrapWord n ≤ n := Nat.mod_le n wordBound

theorem isSigned_iff {n : Int} : isSigned n = true ↔ -(signedBound : Int) ≤ n ∧ n < signedBound := by
  unfold isSigned
  rw [Bool.and_eq_true, decide_eq_true_iff, decide_eq_true_iff]

theorem wrapSigned_of_isSigned {n : Int} (h : isSigned n = true) : wrapSigned n = n := by
  obtain ⟨hlow, hhigh⟩ := isSigned_iff.1 h
  have hword : (wordBound : Int) = 2 * (signedBound : Int) := by decide
  exact Int.bmod_eq_of_le_mul_two (by omega) (by omega)

theorem wrapSigned_wrapSigned (n : Int) : wrapSigned (wrapSigned n) = wrapSigned n :=
  Int.bmod_bmod

theorem wrapSigned_add_left (m n : Int) : wrapSigned (wrapSigned m + n) = wrapSigned (m + n) :=
  Int.bmod_add_bmod

example : wordBound = 2 * signedBound ∧ wordBound = halfWordBound * halfWordBound := by decide

end ProxyMesh
