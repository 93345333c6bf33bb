import ProxyMesh.User.Basic
import ProxyMesh.Proofs.Text.Numerals

/-!
# E-mails tell users apart

Users are kept and routed by e-mail, so two users with one e-mail would be one user.  The first two
letters of an e-mail are those of the kind of user, and the numbers after them end at a dot or at the
sign before the domain; the free text of an allocation comes last.

* `UserName`        what an e-mail says about a user;
* `localPart`       the part before the domain;
* `name_ruleLink`, `name_tunnelLink`   the users of reverse links, by the scope of the binding;
* `localPart_inj`   no two names share it;
* `email_eq_iff`    **two users share an e-mail exactly if they have the same name**.
-/

namespace ProxyMesh

/-- a user without the secret -/
inductive UserName where
  | period (period profile : Id)
  | internal (rule node : Id)
  | ruleLink (binding : Id) (allocation : String)
  | tunnelLink (binding : Id) (allocation : String)
  | tunnel (tunnel : Id)
deriving DecidableEq, Repr

def User.name : User → UserName
  | .period id profile _ => .period id profile
  | .internal rule node _ => .internal rule node
  | .reverse (.rule _) binding allocation _ => .ruleLink binding allocation
  | .reverse (.tunnel _) binding allocation _ => .tunnelLink binding allocation
  | .tunnel id _ => .tunnel id

namespace UserName

/-- what stands before the domain -/
def localPart : UserName → String
  | .period id profile => "period" ++ toString id ++ ".profile" ++ toString profile
  | .internal rule node => "rule" ++ toString rule ++ ".node" ++ toString node
  | .ruleLink binding allocation => "reverse" ++ toString binding ++ "." ++ allocation
  | .tunnelLink binding allocation => "treverse" ++ toString binding ++ "." ++ allocation
  | .tunnel id => "tunnel" ++ toString id

theorem isDigit_dot : Text.isDigit '.' = false := by decide

theorem toString_inj {m n : Id} (h : toString m = toString n) : m = n :=
  Text.numeral_inj (congrArg String.toList h)

/-- behind one mark, numbers in front of a dot can be told apart, and so can what follows it -/
theorem numbered_inj {mark s t : String} {m n : Id}
    (h : mark ++ toString m ++ "." ++ s = mark ++ toString n ++ "." ++ t) : m = n ∧ s = t :=
  Text.numbered_inj rfl isDigit_dot h

theorem append_dot (s t u : String) : s ++ ("." ++ t) ++ u = s ++ "." ++ (t ++ u) := by
  simp only [String.append_assoc]

theorem localPart_period (id profile : Id) : (period id profile).localPart =
    "period" ++ toString id ++ "." ++ ("profile" ++ toString profile) :=
  append_dot ("period" ++ toString id) "profile" (toString profile)

theorem localPart_internal (rule node : Id) : (internal rule node).localPart =
    "rule" ++ toString rule ++ "." ++ ("node" ++ toString node) :=
  append_dot ("rule" ++ toString rule) "node" (toString node)

theorem localPart_inj {m n : UserName} (h : m.localPart = n.localPart) : m = n := by
  have hletters := congrArg String.toList h
  cases m with
  | period id profile =>
    cases n with
    | period id' profile' =>
      rw [localPart_period, localPart_period] at h
      obtain ⟨rfl, htail⟩ := numbered_inj h
      rw [toString_inj ((String.append_right_inj _).1 htail)]
    | _ => simp [localPart] at hletters
  | internal rule node =>
    cases n with
    | internal rule' node' =>
      rw [localPart_internal, localPart_internal] at h
      obtain ⟨rfl, htail⟩ := numbered_inj h
      rw [toString_inj ((String.append_right_inj _).1 htail)]
    | _ => simp [localPart] at hletters
  | ruleLink binding allocation =>
    cases n with
    | ruleLink binding' allocation' =>
      obtain ⟨rfl, rfl⟩ := numbered_inj h
      rfl
    | _ => simp [localPart] at hletters
  | tunnelLink binding allocation =>
    cases n with
    | tunnelLink binding' allocation' =>
      obtain ⟨rfl, rfl⟩ := numbered_inj h
      rfl
    | _ => simp [localPart] at hletters
  | tunnel id =>
    cases n with
    | tunnel id' => rw [toString_inj ((String.append_right_inj _).1 h)]
    | _ => simp [localPart] at hletters

end UserName

namespace User

variable {domain : String} {u v : User}

theorem name_ruleLink {b : Binding} {rule : Id} (h : b.scope = .rule rule)
    (seed allocation : String) :
    (reverseUser seed b allocation).name = .ruleLink b.id allocation := by
  unfold reverseUser
  rw [h]
  rfl

theorem name_tunnelLink {b : Binding} {tunnel : Id} (h : b.scope = .tunnel tunnel)
    (seed allocation : String) :
    (reverseUser seed b allocation).name = .tunnelLink b.id allocation := by
  unfold reverseUser
  rw [h]
  rfl

theorem email_eq (domain : String) (u : User) :
    u.email domain = u.name.localPart ++ "@" ++ domain := by
  unfold email name
  split <;> rfl

/-- **two users share an e-mail exactly if they have the same name** -/
theorem email_eq_iff : u.email domain = v.email domain ↔ u.name = v.name := by
  rw [email_eq, email_eq]
  constructor
  · intro h
    have hlocal := (String.append_left_inj _).1 ((String.append_left_inj _).1 h)
    exact UserName.localPart_inj hlocal
  · intro h
    rw [h]

end User
end ProxyMesh
