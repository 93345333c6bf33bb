import Mathlib.Tactic.Ring
import ProxyMesh.Proofs.Tables
import ProxyMesh.Proofs.Text.Numerals
import ProxyMesh.Store.Database

/-!
# Keys and the texts that stand for them

Records are stored under texts: an id with zeros in front, a scope with the name of its balancer, two ids
with a stroke between them.  The texts come in the order of the keys, and no two keys share a text.

* `append_lt_append_iff`       texts that start with texts of one length;
* `digitsValue_lt_iff`         digits of one length come in the order of their values;
* `padded_append_lt_iff`       ids with zeros in front come in the order of the ids;
* `Scope.keyText_append_lt_iff`   rules come before tunnels;
* `Balancer.keyText_lt_iff`, `InternalUser.keyText_lt_iff`   **the order of the texts is that of the keys**;
* `Balancer.keyText_prefix_iff`   the texts of the balancers of one scope.
-/

namespace ProxyMesh

theorem append_lt_append_iff {a b : List Char} (h : a.length = b.length) (c d : List Char) :
    a ++ c < b ++ d ↔ a < b ∨ a = b ∧ c < d := by
  induction a generalizing b with
  | nil =>
    obtain rfl := List.length_eq_zero_iff.1 h.symm
    simp
  | cons x rest ih =>
    cases b with
    | nil => cases h
    | cons y more =>
      rw [List.cons_append, List.cons_append, List.cons_lt_cons_iff, List.cons_lt_cons_iff,
        ih (Nat.succ.inj h), List.cons.injEq, and_or_left, or_assoc, and_assoc]

namespace Text

theorem digitsValue_cons (c : Char) (s : List Char) :
    digitsValue (c :: s) = digitValue c * 10 ^ s.length + digitsValue s := by
  have hacc : ∀ (l : List Char) (acc : Nat), Nat.ofDigitChars 10 l acc =
      acc * 10 ^ l.length + Nat.ofDigitChars 10 l 0 := by
    intro l
    induction l with
    | nil => intro acc; simp
    | cons d rest ih =>
      intro acc
      rw [Nat.ofDigitChars_cons, Nat.ofDigitChars_cons, ih, ih (10 * 0 + _), List.length_cons, pow_succ]
      ring
  rw [digitsValue_eq, Nat.ofDigitChars_cons, hacc, digitsValue_eq, Nat.mul_zero, Nat.zero_add]
  rfl

theorem digitsValue_lt {s : List Char} (hs : ∀ c ∈ s, isDigit c = true) :
    digitsValue s < 10 ^ s.length := by
  induction s with
  | nil => exact Nat.one_pos
  | cons c rest ih =>
    have hc : digitValue c < 10 := (digitChar_digitValue (hs c List.mem_cons_self)).1
    have hrest := ih fun d hd => hs d (List.mem_cons_of_mem _ hd)
    have hlead : digitValue c * 10 ^ rest.length ≤ 9 * 10 ^ rest.length :=
      Nat.mul_le_mul_right _ (Nat.le_of_lt_succ hc)
    rw [digitsValue_cons, List.length_cons, pow_succ]
    omega

theorem digitsValue_lt_iff {s t : List Char} (hs : ∀ c ∈ s, isDigit c = true)
    (ht : ∀ c ∈ t, isDigit c = true) (h : s.length = t.length) :
    digitsValue s < digitsValue t ↔ s < t := by
  induction s generalizing t with
  | nil =>
    obtain rfl := List.length_eq_zero_iff.1 h.symm
    simp
  | cons c rest ih =>
    cases t with
    | nil => cases h
    | cons d more =>
      have hrest : ∀ c ∈ rest, isDigit c = true := fun x hx => hs x (List.mem_cons_of_mem _ hx)
      have hmore : ∀ c ∈ more, isDigit c = true := fun x hx => ht x (List.mem_cons_of_mem _ hx)
      have hlength : rest.length = more.length := Nat.succ.inj h
      have hlow := digitsValue_lt hrest
      have hhigh := digitsValue_lt hmore
      obtain ⟨hclo, -⟩ := isDigit_iff.1 (hs c List.mem_cons_self)
      obtain ⟨hdlo, -⟩ := isDigit_iff.1 (ht d List.mem_cons_self)
      have hc : digitValue c + 48 = c.toNat := Nat.sub_add_cancel hclo
      have hd : digitValue d + 48 = d.toNat := Nat.sub_add_cancel hdlo
      have hchar : c < d ↔ digitValue c < digitValue d := by
        rw [show c < d ↔ c.toNat < d.toNat from Iff.rfl]
        omega
      have hsame : c = d ↔ digitValue c = digitValue d := by
        rw [← Char.toNat_inj]
        omega
      rw [List.cons_lt_cons_iff, ← ih hrest hmore hlength, hchar, hsame, digitsValue_cons,
        digitsValue_cons, ← hlength]
      rw [← hlength] at hhigh
      rcases Nat.lt_trichotomy (digitValue c) (digitValue d) with hlt | heq | hgt
      · have hstep : (digitValue c + 1) * 10 ^ rest.length ≤ digitValue d * 10 ^ rest.length :=
          Nat.mul_le_mul_right _ hlt
        rw [Nat.add_mul] at hstep
        exact ⟨fun _ => Or.inl hlt, fun _ => by omega⟩
      · rw [heq]
        omega
      · have hstep : (digitValue d + 1) * 10 ^ rest.length ≤ digitValue c * 10 ^ rest.length :=
          Nat.mul_le_mul_right _ hgt
        rw [Nat.add_mul] at hstep
        omega

end Text

/-! ## ids -/

theorem toList_padded (id : Id) : id.padded.toList =
    Text.paddedNumeral (20 - (Text.numeral id).length) id := by
  unfold Id.padded Text.paddedNumeral Text.numeral
  dsimp only
  rw [String.toList_append, String.toList_ofList, String.length_toList]

theorem length_padded (id : Id) : id.padded.toList.length = 20 := by
  have hlength : (Text.numeral id).length ≤ 20 := by
    rw [Text.numeral_eq]
    exact (Nat.length_toDigits_le_iff (by decide) (by decide)).2
      (Nat.lt_of_lt_of_le id.toNat_lt (by decide))
  rw [toList_padded, Text.paddedNumeral, List.length_append, List.length_replicate]
  omega

theorem padded_lt_iff {a b : Id} : a.padded.toList < b.padded.toList ↔ a < b := by
  have hdigits : ∀ id : Id, ∀ c ∈ id.padded.toList, Text.isDigit c = true := by
    intro id c hc
    rw [toList_padded] at hc
    exact Text.isDigit_of_mem_paddedNumeral hc
  have hvalue : ∀ id : Id, Text.digitsValue id.padded.toList = id.toNat := by
    intro id
    rw [toList_padded, Text.digitsValue_paddedNumeral]
  rw [← Text.digitsValue_lt_iff (hdigits a) (hdigits b)
    ((length_padded a).trans (length_padded b).symm), hvalue, hvalue]
  exact Iff.rfl

theorem padded_inj {a b : Id} (h : a.padded = b.padded) : a = b := by
  have hread : ∀ id : Id, Text.readWord id.padded.toList = some id := by
    intro id
    rw [toList_padded, Text.readWord_paddedNumeral]
  have hboth : some a = some b := by rw [← hread a, h, hread b]
  exact Option.some.inj hboth

theorem padded_append_lt_iff (a b : Id) (s t : List Char) :
    a.padded.toList ++ s < b.padded.toList ++ t ↔ a < b ∨ a = b ∧ s < t := by
  have hsame : a.padded.toList = b.padded.toList ↔ a = b :=
    ⟨fun h => padded_inj (String.toList_inj.1 h), fun h => h ▸ rfl⟩
  rw [append_lt_append_iff ((length_padded a).trans (length_padded b).symm), padded_lt_iff, hsame]

/-! ## pairs -/

/-- pairs are ordered by the first part, then by the second -/
theorem before_pair_iff {κ κ' : Type} [Key κ] [Key κ'] {k l : κ × κ'} :
    before k l = true ↔ before k.1 l.1 = true ∨ k.1 = l.1 ∧ before k.2 l.2 = true := by
  show (before k.1 l.1 || (!before l.1 k.1 && before k.2 l.2)) = true ↔ _
  rw [Bool.or_eq_true, Bool.and_eq_true, Bool.not_eq_true']
  constructor
  · rintro (h | ⟨hnot, h⟩)
    · exact Or.inl h
    · cases hfirst : before k.1 l.1 with
      | true => exact Or.inl rfl
      | false => exact Or.inr ⟨Key.connex _ _ hfirst hnot, h⟩
  · rintro (h | ⟨hsame, h⟩)
    · exact Or.inl h
    · exact Or.inr ⟨hsame ▸ Key.irrefl _, h⟩

/-! ## scopes -/

theorem Scope.toList_keyText (a : Scope) (s : List Char) : a.keyText.toList ++ s =
    (a.kind ++ ":").toList ++ (a.id.padded.toList ++ s) := by
  unfold keyText
  rw [String.toList_append, List.append_assoc]

theorem Scope.eq_of_kind_of_id {a b : Scope} (hkind : a.kind = b.kind) (hid : a.id = b.id) : a = b := by
  cases a <;> cases b <;> simp_all [kind, id]

theorem Scope.before_iff {a b : Scope} : before a b = true ↔
    a.rank.1 < b.rank.1 ∨ a.rank.1 = b.rank.1 ∧ a.id < b.id := by
  show (decide (a.rank.1 < b.rank.1) || (!decide (b.rank.1 < a.rank.1) &&
    decide (a.rank.2 < b.rank.2))) = true ↔ _
  rw [Bool.or_eq_true, Bool.and_eq_true, Bool.not_eq_true', decide_eq_true_eq,
    decide_eq_false_iff_not, decide_eq_true_eq]
  cases a <;> cases b <;> simp [rank, id]

theorem Scope.keyText_append_lt_iff (a b : Scope) (s t : List Char) :
    a.keyText.toList ++ s < b.keyText.toList ++ t ↔ before a b = true ∨ a = b ∧ s < t := by
  rw [toList_keyText, toList_keyText, before_iff]
  have hsame : ∀ l m n : List Char, l ++ m < l ++ n ↔ m < n := by
    intro l m n
    rw [append_lt_append_iff rfl, or_iff_right (List.lt_irrefl l), and_iff_right rfl]
  have hrule : ("rule" ++ ":").toList = ['r', 'u', 'l', 'e', ':'] := by decide
  have htunnel : ("tunnel" ++ ":").toList = ['t', 'u', 'n', 'n', 'e', 'l', ':'] := by decide
  cases a with
  | rule a =>
    cases b with
    | rule b =>
      show ("rule" ++ ":").toList ++ _ < ("rule" ++ ":").toList ++ _ ↔ _
      rw [hsame, padded_append_lt_iff]
      simp [id, rank]
    | tunnel b =>
      show ("rule" ++ ":").toList ++ _ < ("tunnel" ++ ":").toList ++ _ ↔ _
      rw [hrule, htunnel]
      show 'r' :: _ < 't' :: _ ↔ _
      rw [List.cons_lt_cons_iff]
      simp [rank]
  | tunnel a =>
    cases b with
    | rule b =>
      show ("tunnel" ++ ":").toList ++ _ < ("rule" ++ ":").toList ++ _ ↔ _
      rw [hrule, htunnel]
      show 't' :: _ < 'r' :: _ ↔ _
      rw [List.cons_lt_cons_iff]
      simp [rank]
    | tunnel b =>
      show ("tunnel" ++ ":").toList ++ _ < ("tunnel" ++ ":").toList ++ _ ↔ _
      rw [hsame, padded_append_lt_iff]
      simp [id, rank]

/-! ## composite keys -/

theorem Balancer.keyText_lt_iff (k l : Scope × String) :
    keyText k < keyText l ↔ before k l = true := by
  have htext : ∀ k : Scope × String, (keyText k).toList = k.1.keyText.toList ++ '/' :: k.2.toList := by
    intro k
    unfold keyText
    rw [String.toList_append, String.toList_append, List.append_assoc]
    rfl
  have hname : before k.2 l.2 = true ↔ k.2 < l.2 := decide_eq_true_iff
  rw [before_pair_iff, hname, String.lt_iff, htext, htext, Scope.keyText_append_lt_iff,
    List.cons_lt_cons_iff, or_iff_right (by decide : ¬ '/' < '/'), and_iff_right rfl, ← String.lt_iff]

theorem InternalUser.keyText_lt_iff (k l : Id × Id) : keyText k < keyText l ↔ before k l = true := by
  have htext : ∀ k : Id × Id, (keyText k).toList =
      k.1.padded.toList ++ '/' :: (k.2.padded.toList ++ []) := by
    intro k
    unfold keyText
    rw [String.toList_append, String.toList_append, List.append_assoc, List.append_nil]
    rfl
  have hid : ∀ i j : Id, before i j = true ↔ i < j := fun _ _ => decide_eq_true_iff
  rw [before_pair_iff, hid, hid, String.lt_iff, htext, htext, padded_append_lt_iff,
    List.cons_lt_cons_iff, or_iff_right (by decide : ¬ '/' < '/'), and_iff_right rfl,
    padded_append_lt_iff]
  simp

/-- **the balancers of a scope are those whose texts begin with the text of the scope and a stroke** -/
theorem Balancer.keyText_prefix_iff (scope : Scope) (k : Scope × String) :
    (scope.keyText ++ "/").toList <+: (keyText k).toList ↔ k.1 = scope := by
  have htext : (keyText k).toList = (k.1.keyText ++ "/").toList ++ k.2.toList := String.toList_append
  have hparts : ∀ s : Scope, (s.keyText ++ "/").toList =
      (s.kind ++ ":").toList ++ (s.id.padded.toList ++ ['/']) := by
    intro s
    rw [String.toList_append, Scope.toList_keyText]
    rfl
  constructor
  · rintro ⟨rest, hrest⟩
    rw [htext, hparts, hparts] at hrest
    have hrule : ("rule" ++ ":").toList = ['r', 'u', 'l', 'e', ':'] := by decide
    have htunnel : ("tunnel" ++ ":").toList = ['t', 'u', 'n', 'n', 'e', 'l', ':'] := by decide
    -- the first letter tells rules from tunnels, and all ids have the same number of digits
    have hkind : k.1.kind = scope.kind := by
      cases hk : k.1 <;> cases scope <;> rw [hk] at hrest <;>
        simp only [Scope.kind, hrule, htunnel] at hrest ⊢ <;> simp at hrest
    have hid : scope.id.padded = k.1.id.padded := by
      simp only [hkind, List.append_assoc, List.append_cancel_left_eq] at hrest
      exact String.toList_inj.1 (List.append_inj_left hrest
        ((length_padded _).trans (length_padded _).symm))
    exact Scope.eq_of_kind_of_id hkind (padded_inj hid).symm
  · rintro rfl
    rw [htext]
    exact List.prefix_append _ _

end ProxyMesh
