import ProxyMesh.Traffic.Stat
import ProxyMesh.Proofs.User.Emails

/-!
# Traffic counts for the user that it is reported of

The runtime knows a user by e-mail and counts traffic under a name with the e-mail in it.  Such a name
has two free texts: the allocation of a reverse link, and the domain.  Neither is mistaken for more than
it is.  The letters before the first number say what kind of user it is, and a domain follows a sign
that no number, and no further part of a name, begins with.

* `User.statName`            the name that the traffic of a user is counted under;
* `readTail_eq_some_iff`     what is read as the end of a name;
* `readTail_append`          a text before the end of a name is read unless it holds the sign `>`;
* `classify?_of_user`, `classify?_of_internalUser`, `classify?_of_endpoint`   the readers of a name in
                             their order;
* `classify?_period`, `classify?_internal`, `classify?_reverse`, `classify?_tunnel`   each kind of user;
* `classify_statName`        **the name of a user is traced back to the user**, and no two users share an
                             e-mail.
-/

namespace ProxyMesh

/-- the name under which the runtime counts the traffic of a user -/
def User.statName (domain : String) (u : User) (d : Direction) : String :=
  "user>>>" ++ u.email domain ++ ">>>traffic>>>" ++ d.word

/-! ## the end of a name -/

section
variable {s t rest : List Char} {d : Direction} {c : Char}

theorem Direction.ofChars?_eq_some_iff : Direction.ofChars? s = some d ↔ s = d.word.toList := by
  constructor
  · intro h
    unfold Direction.ofChars? at h
    have hword := List.find?_some h
    exact (eq_of_beq hword).symm
  · rintro rfl
    cases d <;> decide

/-- what every name ends with -/
def tailOf (d : Direction) : List Char := trafficMark ++ d.word.toList

theorem tailOf_eq (d : Direction) : tailOf d = '>' :: (tailOf d).tail := by cases d <;> decide

theorem count_tailOf (d : Direction) : (tailOf d).count '>' = 6 := by cases d <;> decide

theorem readTail_eq_some_iff : readTail s = some (t, d) ↔ '>' ∉ t ∧ s = t ++ tailOf d := by
  constructor
  · intro h
    obtain ⟨rest, hrest, h⟩ := Option.bind_eq_some_iff.1 h
    obtain ⟨direction, hdirection, h⟩ := Option.bind_eq_some_iff.1 h
    obtain ⟨rfl, rfl⟩ := Prod.mk.inj (Option.some.inj h)
    refine ⟨Text.not_mem_takeWhile_ne '>' s, ?_⟩
    have hdrop := Text.stripStart_eq_some_iff.1 hrest
    rw [Direction.ofChars?_eq_some_iff.1 hdirection] at hdrop
    calc s = s.takeWhile (· != '>') ++ s.dropWhile (· != '>') :=
          List.takeWhile_append_dropWhile.symm
      _ = s.takeWhile (· != '>') ++ tailOf direction := by rw [hdrop]; rfl
  · rintro ⟨ht, rfl⟩
    have htake : (t ++ tailOf d).takeWhile (· != '>') = t := by
      rw [tailOf_eq, Text.takeWhile_ne ht]
    have hdrop : (t ++ tailOf d).dropWhile (· != '>') = trafficMark ++ d.word.toList := by
      rw [tailOf_eq, Text.dropWhile_ne ht, ← tailOf_eq]
      rfl
    refine Option.bind_eq_some_iff.2 ⟨d.word.toList, ?_, ?_⟩
    · rw [hdrop]
      exact Text.stripStart_append _ _
    · refine Option.bind_eq_some_iff.2 ⟨d, Direction.ofChars?_eq_some_iff.2 rfl, ?_⟩
      rw [htake]
      rfl

/-- a text before the end of a name is read unless it holds the sign that the end begins with -/
theorem readTail_append (t : List Char) (d : Direction) :
    readTail (t ++ tailOf d) = if '>' ∈ t then none else some (t, d) := by
  split
  next hmem =>
    refine Option.eq_none_iff_forall_ne_some.2 fun ⟨t', d'⟩ h => ?_
    obtain ⟨hfree, heq⟩ := readTail_eq_some_iff.1 h
    have hcount := congrArg (List.count '>') heq
    rw [List.count_append, List.count_append, count_tailOf, count_tailOf,
      List.count_eq_zero_of_not_mem hfree] at hcount
    have hpos := List.count_pos_iff.2 hmem
    omega
  next hmem => exact readTail_eq_some_iff.2 ⟨hmem, rfl⟩

/-! ## the numbers of a name -/

theorem readDigits_numeral (n : Id) (hs : s = c :: rest) (hc : Text.isDecimalDigit c = false) :
    readDigits (Text.numeral n ++ s) = some (Text.numeral n, s) := by
  have hdigits : ∀ x ∈ Text.numeral n, Text.isDecimalDigit x = true :=
    fun _ hx => Text.isDecimalDigit_of_isDigit (Text.isDigit_of_mem_numeral hx)
  have hne : (Text.numeral n).isEmpty = false :=
    List.isEmpty_eq_false_iff.2 (Text.numeral_ne_nil n)
  unfold readDigits
  rw [hs, Text.takeWhile_stop hdigits hc, Text.dropWhile_stop hdigits hc]
  simp [hne]

theorem isDecimalDigit_dot : Text.isDecimalDigit '.' = false := by decide +kernel

theorem isDecimalDigit_at : Text.isDecimalDigit '@' = false := by decide +kernel

theorem readWord_numeral (n : Id) : Text.readWord (Text.numeral n) = some n :=
  Text.readWord_paddedNumeral 0 n

/-- what follows the numbers is the end of the name, the sign before the domain included -/
theorem readUser_append (id profile : Id) (rest : List Char) :
    readUser ("user>>>period".toList ++ (Text.numeral id ++ (".profile".toList ++
      (Text.numeral profile ++ '@' :: rest)))) =
      (readTail ('@' :: rest)).map fun (text, d) => (Text.numeral id, Text.numeral profile, text, d) := by
  have hid := readDigits_numeral id
    (show ".profile".toList ++ (Text.numeral profile ++ '@' :: rest) = '.' :: _ from rfl)
    isDecimalDigit_dot
  have hprofile := readDigits_numeral profile (rfl : '@' :: rest = _) isDecimalDigit_at
  unfold readUser
  simp only [Text.stripStart_append, hid, hprofile, Option.bind_eq_bind, Option.bind_some]
  cases readTail ('@' :: rest) <;> rfl

theorem readInternalUser_append (rule node : Id) (rest : List Char) :
    readInternalUser ("user>>>rule".toList ++ (Text.numeral rule ++ (".node".toList ++
      (Text.numeral node ++ '@' :: rest)))) =
      (readTail ('@' :: rest)).map fun (_, d) => (Text.numeral rule, Text.numeral node, d) := by
  have hrule := readDigits_numeral rule
    (show ".node".toList ++ (Text.numeral node ++ '@' :: rest) = '.' :: _ from rfl)
    isDecimalDigit_dot
  have hnode := readDigits_numeral node (rfl : '@' :: rest = _) isDecimalDigit_at
  unfold readInternalUser
  simp only [Text.stripStart_append, hrule, hnode, Option.bind_eq_bind, Option.bind_some]
  cases readTail ('@' :: rest) <;> rfl

/-- the domain is not taken for the number of a user -/
theorem userPart_at (rest : List Char) : userPart ('@' :: rest) = none := rfl

end

/-! ## each kind of user -/

section
variable {domain : String} {d : Direction}

theorem toList_statName (domain : String) (u : User) (d : Direction) :
    (u.statName domain d).toList =
      "user>>>".toList ++ (u.name.localPart.toList ++ ('@' :: domain.toList ++ tailOf d)) := by
  unfold User.statName
  rw [User.email_eq]
  simp only [String.toList_append, List.append_assoc]
  rfl

theorem toList_statName_period (domain : String) (id profile : Id) (uuid : String) (d : Direction) :
    ((User.period id profile uuid).statName domain d).toList =
      "user>>>period".toList ++ (Text.numeral id ++ (".profile".toList ++
        (Text.numeral profile ++ '@' :: (domain.toList ++ tailOf d)))) := by
  rw [toList_statName]
  simp only [User.name, UserName.localPart, String.toList_append, List.append_assoc]
  rfl

theorem toList_statName_internal (domain : String) (rule node : Id) (uuid : String) (d : Direction) :
    ((User.internal rule node uuid).statName domain d).toList =
      "user>>>rule".toList ++ (Text.numeral rule ++ (".node".toList ++
        (Text.numeral node ++ '@' :: (domain.toList ++ tailOf d)))) := by
  rw [toList_statName]
  simp only [User.name, UserName.localPart, String.toList_append, List.append_assoc]
  rfl

/-- the sign before the domain is part of what the end of a name is read from -/
theorem readTail_domain (domain : String) (d : Direction) :
    readTail ('@' :: (domain.toList ++ tailOf d)) =
      if '>' ∈ domain.toList then none else some ('@' :: domain.toList, d) := by
  rw [← List.cons_append, readTail_append]
  simp

theorem classify?_of_user {name : String} {rest : List Char} {id profile : Id}
    (h : readUser name.toList = some (Text.numeral id, Text.numeral profile, rest, d)) :
    classify? name = some (.user id profile (userPart rest), d) := by
  unfold classify?
  dsimp only
  rw [h]
  simp [readWord_numeral]

theorem classify?_of_internalUser {name : String} {rule node : Id} (hu : readUser name.toList = none)
    (h : readInternalUser name.toList = some (Text.numeral rule, Text.numeral node, d)) :
    classify? name = some (.internalUser rule node, d) := by
  unfold classify?
  dsimp only
  rw [hu, h]
  simp [readWord_numeral]

theorem classify?_of_endpoint {name : String} (hu : readUser name.toList = none)
    (hi : readInternalUser name.toList = none) :
    classify? name =
      ((readEndpoint "inbound>>>".toList name.toList).map fun (tag, d) => (.inbound tag, d)).or
        ((readEndpoint "outbound>>>".toList name.toList).map fun (tag, d) => (.outbound tag, d)) := by
  unfold classify?
  dsimp only
  rw [hu, hi]
  cases readEndpoint "inbound>>>".toList name.toList <;> rfl

theorem classify?_of_noUser {name : String} {s : List Char} (hname : name.toList = "user>>>".toList ++ s)
    (hu : readUser name.toList = none) (hi : readInternalUser name.toList = none) :
    classify? name = none := by
  rw [classify?_of_endpoint hu hi, hname]
  simp [readEndpoint, Text.stripStart]

theorem classify?_period (domain : String) (id profile : Id) (uuid : String) (d : Direction) :
    classify? ((User.period id profile uuid).statName domain d) =
      if '>' ∈ domain.toList then none else some (.user id profile none, d) := by
  have hread := readUser_append id profile (domain.toList ++ tailOf d)
  rw [← toList_statName_period domain id profile uuid, readTail_domain] at hread
  split
  next hdomain =>
    rw [if_pos hdomain] at hread
    refine classify?_of_noUser (toList_statName _ _ _) hread ?_
    rw [toList_statName_period]
    simp [readInternalUser, Text.stripStart]
  next hdomain =>
    rw [if_neg hdomain] at hread
    rw [classify?_of_user hread, userPart_at]

theorem classify?_internal (domain : String) (rule node : Id) (uuid : String) (d : Direction) :
    classify? ((User.internal rule node uuid).statName domain d) =
      if '>' ∈ domain.toList then none else some (.internalUser rule node, d) := by
  have huser : readUser ((User.internal rule node uuid).statName domain d).toList = none := by
    rw [toList_statName_internal]
    simp [readUser, Text.stripStart]
  have hread := readInternalUser_append rule node (domain.toList ++ tailOf d)
  rw [← toList_statName_internal domain rule node uuid, readTail_domain] at hread
  split
  next hdomain =>
    rw [if_pos hdomain] at hread
    exact classify?_of_noUser (toList_statName _ _ _) huser hread
  next hdomain =>
    rw [if_neg hdomain] at hread
    exact classify?_of_internalUser huser hread

theorem classify?_reverse (domain : String) (scope : Scope) (binding : Id) (allocation uuid : String)
    (d : Direction) :
    classify? ((User.reverse scope binding allocation uuid).statName domain d) = none := by
  refine classify?_of_noUser (toList_statName _ _ _) ?_ ?_
  · rw [toList_statName]
    cases scope <;> simp [User.name, UserName.localPart, readUser, Text.stripStart]
  · rw [toList_statName]
    cases scope <;> simp [User.name, UserName.localPart, readInternalUser, Text.stripStart]

theorem classify?_tunnel (domain : String) (tunnel : Id) (uuid : String) (d : Direction) :
    classify? ((User.tunnel tunnel uuid).statName domain d) = none := by
  refine classify?_of_noUser (toList_statName _ _ _) ?_ ?_
  · rw [toList_statName]
    simp [User.name, UserName.localPart, readUser, Text.stripStart]
  · rw [toList_statName]
    simp [User.name, UserName.localPart, readInternalUser, Text.stripStart]

end

/-- **The name of a user is traced back to the user.**  Under a domain without the sign `>`, what the
runtime counts for a subscriber is counted for exactly the period and the profile, and what it counts for
an internal user for exactly the rule and the node, in that direction.  What it counts for a link or a
tunnel is counted for nobody, whatever the domain and the allocation are.  And users share an e-mail only
if they are the same user but for the secret. -/
theorem classify_statName (domain : String) (d : Direction) :
    (∀ id profile uuid, classify? ((User.period id profile uuid).statName domain d) =
      if '>' ∈ domain.toList then none else some (.user id profile none, d)) ∧
    (∀ rule node uuid, classify? ((User.internal rule node uuid).statName domain d) =
      if '>' ∈ domain.toList then none else some (.internalUser rule node, d)) ∧
    (∀ scope binding allocation uuid,
      classify? ((User.reverse scope binding allocation uuid).statName domain d) = none) ∧
    (∀ tunnel uuid, classify? ((User.tunnel tunnel uuid).statName domain d) = none) ∧
    ∀ u v : User, u.email domain = v.email domain ↔ u.name = v.name :=
  ⟨fun id profile uuid => classify?_period domain id profile uuid d,
    fun rule node uuid => classify?_internal domain rule node uuid d,
    fun scope binding allocation uuid => classify?_reverse domain scope binding allocation uuid d,
    fun tunnel uuid => classify?_tunnel domain tunnel uuid d,
    fun _ _ => User.email_eq_iff⟩

end ProxyMesh
