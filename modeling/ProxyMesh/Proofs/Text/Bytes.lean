import Mathlib.Data.Char
import ProxyMesh.Text.Lines

/-!
# Texts in the order of their bytes

Texts are ordered by their characters.  Where they are kept, they are ordered by their bytes, and it is
the same order: the first byte of a character says how many follow, and a larger character has a larger
byte where the two first differ.

* `bytes`               the bytes of a text, in UTF-8;
* `encoded_lt`          a larger character has larger bytes, whatever follows the two;
* `bytes_lt_iff`        **the order of the bytes is that of the texts**.
-/

namespace ProxyMesh.Text

/-- the bytes of a text -/
def bytes (s : String) : List UInt8 := s.toUTF8.data.toList

theorem bytes_eq (s : String) : bytes s = s.toList.flatMap String.utf8EncodeChar := by
  have hlist : s = String.ofList s.toList := String.ofList_toList.symm
  unfold bytes
  rw [hlist, String.toUTF8_eq_toByteArray, String.toByteArray_ofList, ← hlist]
  exact List.toList_data_toByteArray

section
variable {m n : Nat} (hm : m < 256) (hn : n < 256)
include hm hn

theorem byte_lt_iff : UInt8.ofNat m < UInt8.ofNat n ↔ m < n := by
  rw [UInt8.lt_iff_toNat_lt, UInt8.toNat_ofNat_of_lt' hm, UInt8.toNat_ofNat_of_lt' hn]

theorem byte_inj : UInt8.ofNat m = UInt8.ofNat n ↔ m = n := by
  rw [← UInt8.toNat_inj, UInt8.toNat_ofNat_of_lt' hm, UInt8.toNat_ofNat_of_lt' hn]

/-- the first bytes differ, or they are the same and what follows them differs -/
theorem byte_cons_lt_iff {s t : List UInt8} :
    UInt8.ofNat m :: s < UInt8.ofNat n :: t ↔ m < n ∨ m = n ∧ s < t := by
  rw [List.cons_lt_cons_iff, byte_lt_iff hm hn, byte_inj hm hn]

end

theorem encoded_lt {c d : Char} (h : c < d) (s t : List UInt8) :
    String.utf8EncodeChar c ++ s < String.utf8EncodeChar d ++ t := by
  have hlt : c.val.toNat < d.val.toNat := h
  have hbound : d.val.toNat < 0x110000 := by
    rcases d.valid with hd | hd
    · exact Nat.lt_trans hd (by decide)
    · exact hd.2
  unfold String.utf8EncodeChar
  generalize c.val.toNat = m at hlt
  generalize d.val.toNat = n at hlt hbound
  have hbits : ∀ k, k / 4096 = k / 64 / 64 ∧ k / 262144 = k / 64 / 64 / 64 := by omega
  simp only [hbits]
  repeat' split
  all_goals
    simp only [List.cons_append, List.nil_append]
    repeat rw [byte_cons_lt_iff (by omega) (by omega)]
    omega

theorem append_bytes_lt_iff (l s t : List UInt8) : l ++ s < l ++ t ↔ s < t := by
  induction l with
  | nil => rfl
  | cons b rest ih =>
    rw [List.cons_append, List.cons_append, List.cons_lt_cons_iff, ih,
      or_iff_right (UInt8.lt_irrefl b), and_iff_right rfl]

theorem encoded_lt_iff (s t : List Char) :
    s.flatMap String.utf8EncodeChar < t.flatMap String.utf8EncodeChar ↔ s < t := by
  induction s generalizing t with
  | nil =>
    cases t with
    | nil => simp
    | cons d more =>
      obtain ⟨b, rest, hd⟩ := List.exists_cons_of_ne_nil (String.utf8EncodeChar_ne_nil (c := d))
      rw [List.flatMap_nil, List.flatMap_cons, hd]
      exact iff_of_true (List.nil_lt_cons b _) (List.nil_lt_cons d more)
  | cons c rest ih =>
    cases t with
    | nil => simp
    | cons d more =>
      rw [List.flatMap_cons, List.flatMap_cons, List.cons_lt_cons_iff]
      rcases lt_trichotomy c d with h | rfl | h
      · exact iff_of_true (encoded_lt h _ _) (Or.inl h)
      · rw [append_bytes_lt_iff, ih, or_iff_right (lt_irrefl c), and_iff_right rfl]
      · refine iff_of_false (List.lt_asymm (encoded_lt h _ _)) ?_
        rintro (hlt | ⟨rfl, -⟩)
        · exact lt_asymm h hlt
        · exact lt_irrefl _ h

/-- **the order of the bytes is that of the texts** -/
theorem bytes_lt_iff {a b : String} : bytes a < bytes b ↔ a < b := by
  rw [bytes_eq, bytes_eq, encoded_lt_iff, String.lt_iff]

end ProxyMesh.Text
