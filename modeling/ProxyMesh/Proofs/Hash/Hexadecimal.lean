import ProxyMesh.Hash.Sha256

/-!
# Digests in hexadecimal

A byte is written as two digits, so digits stand for one list of bytes, and cutting the digits at an
even place cuts the bytes.

* `flatMap_hexByte_inj`        digits are those of one list of bytes;
* `take_flatMap_hexByte`       the first `2 * n` digits are those of the first `n` bytes;
* `isAlphanum_of_mem_hex`      digits are letters and numerals, so no separator is one of them;
* `length_digest`              a digest has 32 bytes.
-/

namespace ProxyMesh.Sha256

theorem hexDigit_inj : ∀ m < 16, ∀ n < 16, Nat.digitChar m = Nat.digitChar n → m = n := by decide

theorem isAlphanum_hexDigit : ∀ n < 16, (Nat.digitChar n).isAlphanum = true := by decide

theorem hexByte_inj {a b : UInt8} (h : hexByte a = hexByte b) : a = b := by
  obtain ⟨hhigh, hlow⟩ := List.cons.inj h
  have ha := a.toNat_lt
  have hb := b.toNat_lt
  have hdiv : a.toNat / 16 = b.toNat / 16 := hexDigit_inj _ (by omega) _ (by omega) hhigh
  have hmod : a.toNat % 16 = b.toNat % 16 :=
    hexDigit_inj _ (by omega) _ (by omega) (List.cons.inj hlow).1
  apply UInt8.toNat_inj.1
  omega

theorem flatMap_hexByte_inj {a b : List UInt8} (h : a.flatMap hexByte = b.flatMap hexByte) :
    a = b := by
  induction a generalizing b with
  | nil =>
    cases b with
    | nil => rfl
    | cons y more => cases h
  | cons x rest ih =>
    cases b with
    | nil => cases h
    | cons y more =>
      rw [List.flatMap_cons, List.flatMap_cons] at h
      obtain ⟨hfirst, hrest⟩ := List.append_inj h rfl
      rw [hexByte_inj hfirst, ih hrest]

theorem take_flatMap_hexByte (b : List UInt8) (n : Nat) :
    (b.flatMap hexByte).take (2 * n) = (b.take n).flatMap hexByte := by
  induction n generalizing b with
  | zero => rfl
  | succ n ih =>
    cases b with
    | nil => rfl
    | cons x rest =>
      rw [List.flatMap_cons, List.take_succ_cons, List.flatMap_cons, ← ih rest]
      rfl

theorem isAlphanum_of_mem_hex {b : List UInt8} {c : Char} (h : c ∈ b.flatMap hexByte) :
    c.isAlphanum = true := by
  obtain ⟨x, -, hc⟩ := List.mem_flatMap.1 h
  have hx := x.toNat_lt
  unfold hexByte at hc
  rcases List.mem_cons.1 hc with rfl | hc
  · exact isAlphanum_hexDigit _ (by omega)
  · rw [List.mem_singleton.1 hc]
    exact isAlphanum_hexDigit _ (by omega)

theorem length_digest (message : ByteArray) : (digest message).length = 32 := by
  have hwords : ∀ s : State, (s.words.flatMap bytesOf).length = 32 := fun _ => rfl
  exact hwords _

end ProxyMesh.Sha256
