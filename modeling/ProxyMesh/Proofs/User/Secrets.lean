import ProxyMesh.Proofs.Hash.Hexadecimal
import ProxyMesh.Proofs.Topology.Keys
import ProxyMesh.Proofs.User.Emails
import ProxyMesh.User.Consumers

/-!
# Derived secrets are separate

A secret is a digest of the seed and of what names its holder, joined by colons, and an allocation may
hold colons as well.  It comes last, behind a word for the kind of holder and numbers, so what is hashed
can be read in one way.  The same goes for the domains of reverse links, with strokes.

* `SecretHolder`, `Issued`        who has a derived secret, and the users that are given one;
* `SecretHolder.hashed_inj`       no two holders have the same bytes hashed;
* `LinkName.hashed_inj`           the same for the domains of reverse links;
* `secretOf_eq_iff`, `domainLabel_domain`   a secret is 122 bits of a digest, the first label of a
                                  domain 48 bits;
* `uuid_eq_iff`, `domainLabel_eq_iff`   who shares one has found a collision of these bits;
* `secrets_separated`             **derived secrets and domains are separate**.
-/

namespace ProxyMesh

theorem isDigit_colon : Text.isDigit ':' = false := by decide

theorem isDigit_slash : Text.isDigit '/' = false := by decide

/-! ## what is hashed -/

/-- somebody whose secret is derived; the scope of a binding is no part of the secrets of its links -/
inductive SecretHolder where
  | link (binding : Id) (allocation : String)
  | internal (rule node : Id)
  | tunnel (tunnel : Id)
deriving DecidableEq, Repr

theorem secretText_eq (seed : String) (parts : List String) :
    secretText seed parts = seed ++ secretText "" parts := by
  have hfold : ∀ (l : List String) (s t : String), secretText (s ++ t) l = s ++ secretText t l := by
    intro l
    induction l with
    | nil =>
      intro s t
      rfl
    | cons part rest ih =>
      intro s t
      show secretText (s ++ t ++ ":" ++ part) rest = s ++ secretText (t ++ ":" ++ part) rest
      rw [← ih, String.append_assoc, String.append_assoc, String.append_assoc]
  rw [← hfold, String.append_empty]

namespace SecretHolder

/-- what is joined behind the seed -/
def parts : SecretHolder → List String
  | .link binding allocation => ["reverse", toString binding, allocation]
  | .internal rule node => ["internal", toString rule, toString node]
  | .tunnel id => ["tunnel", toString id]

/-- the bytes that are hashed for the secret -/
def hashed (seed : String) (x : SecretHolder) : ByteArray := (secretText seed x.parts).toUTF8

variable {x y : SecretHolder}

/-- two kinds of holders differ in the first letter -/
theorem parts_inj (h : secretText "" x.parts = secretText "" y.parts) : x = y := by
  have hletters := congrArg String.toList h
  cases x with
  | link binding allocation =>
    cases y with
    | link binding' allocation' =>
      obtain ⟨rfl, rfl⟩ := Text.numbered_inj rfl isDigit_colon h
      rfl
    | _ => simp [secretText, parts] at hletters
  | internal rule node =>
    cases y with
    | internal rule' node' =>
      obtain ⟨rfl, htail⟩ := Text.numbered_inj rfl isDigit_colon h
      rw [UserName.toString_inj htail]
    | _ => simp [secretText, parts] at hletters
  | tunnel id =>
    cases y with
    | tunnel id' => rw [UserName.toString_inj ((String.append_right_inj _).1 h)]
    | _ => simp [secretText, parts] at hletters

theorem hashed_inj (seed : String) : Function.Injective (hashed seed) := by
  intro x y h
  have htext : secretText seed x.parts = secretText seed y.parts := String.toByteArray_inj.1 h
  rw [secretText_eq seed x.parts, secretText_eq seed y.parts] at htext
  exact parts_inj ((String.append_right_inj seed).1 htext)

end SecretHolder

/-- what decides the domain of a reverse link -/
structure LinkName where
  scope : Scope
  binding : Id
  allocation : String
deriving DecidableEq, Repr

namespace LinkName

/-- the bytes that are hashed for the domain -/
def hashed (l : LinkName) : ByteArray := (reverseDomainText l.scope l.binding l.allocation).toUTF8

def domain (l : LinkName) (userDomain : String) : String :=
  reverseDomain l.scope l.binding l.allocation userDomain

theorem reverseDomainText_eq (scope : Scope) (binding : Id) (allocation : String) :
    reverseDomainText scope binding allocation =
      Balancer.keyText (scope, toString binding ++ "/" ++ allocation) := by
  unfold reverseDomainText Balancer.keyText
  rw [String.append_assoc, String.append_assoc, String.append_assoc, String.append_assoc,
    String.append_assoc]

theorem hashed_inj : Function.Injective hashed := by
  rintro ⟨scope, binding, allocation⟩ ⟨scope', binding', allocation'⟩ h
  have htext : reverseDomainText scope binding allocation =
      reverseDomainText scope' binding' allocation' := String.toByteArray_inj.1 h
  -- the text of a scope has a fixed length, and the number behind it ends at a stroke
  have hscope : scope' = scope := by
    apply (Balancer.keyText_prefix_iff scope (scope', toString binding' ++ "/" ++ allocation')).1
    rw [← reverseDomainText_eq, ← htext, reverseDomainText_eq]
    exact (Balancer.keyText_prefix_iff scope _).2 rfl
  subst hscope
  obtain ⟨rfl, rfl⟩ := Text.numbered_inj rfl isDigit_slash htext
  rfl

end LinkName

/-! ## what is kept of a digest -/

/-- two messages with digests that agree in what is kept of them -/
def Sha256.Collide (kept : List UInt8 → List UInt8) (m n : ByteArray) : Prop :=
  m ≠ n ∧ kept (digest m) = kept (digest n)

theorem Sha256.collide_iff {kept : List UInt8 → List UInt8} {m n : ByteArray} (h : m ≠ n) :
    Collide kept m n ↔ kept (digest m) = kept (digest n) := and_iff_right h

/-- sixteen bytes without the six bits for version and variant -/
def unstamped (b : List UInt8) : List UInt8 := (b.modify 6 (· &&& 0x0f)).modify 8 (· &&& 0x3f)

/-- what a secret keeps of a digest -/
def secretBits (digest : List UInt8) : List UInt8 := unstamped (digest.take 16)

/-- what a domain keeps of a digest -/
def domainBits (digest : List UInt8) : List UInt8 := digest.take 6

section
variable {mark mask : UInt8}

/-- a mark outside of the mask is masked out again -/
theorem mask_comp_stamp (h : mark &&& mask = 0) :
    (fun x => x &&& mask) ∘ (fun x => x &&& mask ||| mark) = fun x => x &&& mask := by
  funext x
  apply UInt8.toBitVec_inj.1
  have hbits : mark.toBitVec &&& mask.toBitVec = 0#8 := congrArg UInt8.toBitVec h
  show (x.toBitVec &&& mask.toBitVec ||| mark.toBitVec) &&& mask.toBitVec =
    x.toBitVec &&& mask.toBitVec
  rw [BitVec.and_comm, BitVec.and_or_distrib_left, BitVec.and_comm mask.toBitVec mark.toBitVec, hbits,
    BitVec.or_zero, BitVec.and_comm, BitVec.and_assoc, BitVec.and_self]

theorem stamp_comp_mask :
    (fun x => x &&& mask ||| mark) ∘ (fun x => x &&& mask) = fun x => x &&& mask ||| mark := by
  funext x
  show x &&& mask &&& mask ||| mark = x &&& mask ||| mark
  rw [UInt8.and_assoc, UInt8.and_self]

end

theorem unstamped_stampVersion (b : List UInt8) : unstamped (stampVersion b) = unstamped b := by
  unfold unstamped stampVersion
  rw [List.modify_modify_ne _ _ _ (by decide : 8 ≠ 6), List.modify_modify_eq, List.modify_modify_eq,
    mask_comp_stamp rfl, mask_comp_stamp rfl]

theorem stampVersion_unstamped (b : List UInt8) : stampVersion (unstamped b) = stampVersion b := by
  unfold unstamped stampVersion
  rw [List.modify_modify_ne _ _ _ (by decide : 8 ≠ 6), List.modify_modify_eq, List.modify_modify_eq,
    stamp_comp_mask, stamp_comp_mask]

theorem stampVersion_eq_iff {b c : List UInt8} :
    stampVersion b = stampVersion c ↔ unstamped b = unstamped c := by
  constructor
  · intro h
    rw [← unstamped_stampVersion b, h, unstamped_stampVersion]
  · intro h
    rw [← stampVersion_unstamped b, h, stampVersion_unstamped]

theorem not_mem_hex (b : List UInt8) {c : Char} (h : c.isAlphanum = false) :
    c ∉ b.flatMap Sha256.hexByte := by
  intro hmem
  rw [Sha256.isAlphanum_of_mem_hex hmem] at h
  cases h

theorem filter_uuidText {b : List UInt8} (hb : b.length = 16) :
    (uuidText b).toList.filter (· != '-') = b.flatMap Sha256.hexByte := by
  have hdigits : ∀ start count : Nat,
      (((b.drop start).take count).flatMap Sha256.hexByte).filter (· != '-') =
        ((b.drop start).take count).flatMap Sha256.hexByte := by
    intro start count
    apply List.filter_eq_self.2
    exact Text.bne_of_mem (not_mem_hex _ rfl)
  have hcut : ∀ start count : Nat,
      (b.drop start).take count ++ b.drop (start + count) = b.drop start := by
    intro start count
    rw [← List.drop_drop, List.take_append_drop]
  have hlast : (b.drop 10).take 6 = b.drop 10 := by
    apply List.take_of_length_le
    rw [List.length_drop]
    omega
  unfold uuidText
  show (String.ofList _ ++ "-" ++ String.ofList _ ++ "-" ++ String.ofList _ ++ "-" ++
    String.ofList _ ++ "-" ++ String.ofList _).toList.filter _ = _
  simp only [String.toList_append, String.toList_ofList, List.filter_append, hdigits]
  show _ ++ [] ++ _ ++ [] ++ _ ++ [] ++ _ ++ [] ++ _ = _
  simp only [List.append_nil, List.append_assoc, ← List.flatMap_append]
  rw [hlast, hcut 8 2, hcut 6 2, hcut 4 2, hcut 0 4, List.drop_zero]

theorem uuidText_inj {b c : List UInt8} (hb : b.length = 16) (hc : c.length = 16)
    (h : uuidText b = uuidText c) : b = c := by
  apply Sha256.flatMap_hexByte_inj
  rw [← filter_uuidText hb, h, filter_uuidText hc]

/-- the secret that is made of hashed bytes -/
def secretOf (message : ByteArray) : String :=
  uuidText (stampVersion ((Sha256.digest message).take 16))

theorem deriveUuid_eq (seed : String) (parts : List String) :
    deriveUuid seed parts = secretOf (secretText seed parts).toUTF8 := rfl

theorem secretOf_eq_iff {m n : ByteArray} :
    secretOf m = secretOf n ↔ secretBits (Sha256.digest m) = secretBits (Sha256.digest n) := by
  have hlength : ∀ k : ByteArray, (stampVersion ((Sha256.digest k).take 16)).length = 16 := by
    intro k
    unfold stampVersion
    rw [List.length_modify, List.length_modify, List.length_take, Sha256.length_digest]
    rfl
  unfold secretBits
  rw [← stampVersion_eq_iff]
  constructor
  · intro h
    exact uuidText_inj (hlength m) (hlength n) h
  · intro h
    exact congrArg uuidText h

/-- what stands before the first dot -/
def domainLabel (domain : String) : List Char := domain.toList.takeWhile (· != '.')

theorem domainLabel_domain (l : LinkName) (userDomain : String) :
    domainLabel (l.domain userDomain) =
      (domainBits (Sha256.digest l.hashed)).flatMap Sha256.hexByte := by
  unfold domainLabel LinkName.domain reverseDomain Sha256.hex Sha256.hexOfBytes
  rw [String.toList_append, String.toList_append, String.toList_ofList, String.toList_ofList,
    List.append_assoc, show 12 = 2 * 6 from rfl, Sha256.take_flatMap_hexByte]
  exact Text.takeWhile_ne (not_mem_hex _ rfl) _

/-! ## who shares what -/

/-- the users with secrets that are derived from the seed -/
inductive Issued (seed : String) : SecretHolder → User → Prop where
  | link (b : Binding) (allocation : String) :
      Issued seed (.link b.id allocation) (reverseUser seed b allocation)
  | internal {s : Store} {rule node : Id} (hseed : s.siteSettings.reverseSeed = seed)
      (hnew : s.internalUsers.get? (rule, node) = none) :
      Issued seed (.internal rule node) (.ofInternal (s.internalUserFor rule node).1)
  | tunnel {t : Tunnel} (hseed : t.seed = seed) : Issued seed (.tunnel t.id) (tunnelUser t)

variable {seed : String} {x y : SecretHolder} {u v : User}

theorem Issued.uuid_eq (h : Issued seed x u) : u.uuid = secretOf (x.hashed seed) := by
  cases h with
  | link b allocation => exact deriveUuid_eq seed _
  | @internal s rule node hseed hnew =>
    subst hseed
    unfold Store.internalUserFor Store.ensureInternalUser
    rw [hnew]
    exact deriveUuid_eq s.siteSettings.reverseSeed _
  | @tunnel t hseed =>
    subst hseed
    exact deriveUuid_eq t.seed _

theorem uuid_eq_iff (hu : Issued seed x u) (hv : Issued seed y v) (h : x ≠ y) :
    u.uuid = v.uuid ↔ Sha256.Collide secretBits (x.hashed seed) (y.hashed seed) := by
  have hhashed : x.hashed seed ≠ y.hashed seed := (SecretHolder.hashed_inj seed).ne h
  rw [hu.uuid_eq, hv.uuid_eq, secretOf_eq_iff, Sha256.collide_iff hhashed]

theorem domainLabel_eq_iff {l m : LinkName} (h : l ≠ m) (d e : String) :
    domainLabel (l.domain d) = domainLabel (m.domain e) ↔
      Sha256.Collide domainBits l.hashed m.hashed := by
  have hhashed : l.hashed ≠ m.hashed := LinkName.hashed_inj.ne h
  rw [domainLabel_domain, domainLabel_domain, Sha256.collide_iff hhashed]
  constructor
  · intro hdigits
    exact Sha256.flatMap_hexByte_inj hdigits
  · intro hbits
    rw [hbits]

/-- **derived secrets and domains are separate**: each comes from bytes that nobody else has hashed,
so what two of them share they share by a collision of cut digests -/
theorem secrets_separated (seed : String) :
    Function.Injective (SecretHolder.hashed seed) ∧
    (∀ {x : SecretHolder} {u : User}, Issued seed x u → u.uuid = secretOf (x.hashed seed)) ∧
    (∀ {x y : SecretHolder} {u v : User}, Issued seed x u → Issued seed y v → x ≠ y →
      (u.uuid = v.uuid ↔ Sha256.Collide secretBits (x.hashed seed) (y.hashed seed))) ∧
    Function.Injective LinkName.hashed ∧
    (∀ (l : LinkName) (d : String), domainLabel (l.domain d) =
      (domainBits (Sha256.digest l.hashed)).flatMap Sha256.hexByte) ∧
    ∀ {l m : LinkName}, l ≠ m → ∀ d e : String,
      (domainLabel (l.domain d) = domainLabel (m.domain e) ↔
        Sha256.Collide domainBits l.hashed m.hashed) :=
  ⟨SecretHolder.hashed_inj seed, Issued.uuid_eq, uuid_eq_iff, LinkName.hashed_inj,
    domainLabel_domain, domainLabel_eq_iff⟩

/-- a site with a seed of its own and no users -/
def seededStore : Store :=
  { Store.empty with site := some { Site.default with reverseSeed := "s:reverse" } }

def seededBinding : Binding :=
  ⟨7, "link", .rule 7, 1, some 2, ⟨"", none, none, none⟩, [⟨"2", 1⟩]⟩

/-- the numbers are the same, and so are the two links but for a stroke -/
theorem secrets_separated_sameNumbers :
    ((reverseUser "s:reverse" seededBinding "2").uuid =
        (User.ofInternal (seededStore.internalUserFor 7 2).1).uuid ↔
      Sha256.Collide secretBits "s:reverse:reverse:7:2".toUTF8 "s:reverse:internal:7:2".toUTF8) ∧
    (domainLabel (LinkName.domain ⟨.rule 7, 1, "2/main"⟩ "relaygrid.local") =
        domainLabel (LinkName.domain ⟨.rule 7, 12, "main"⟩ "relaygrid.local") ↔
      Sha256.Collide domainBits "rule:00000000000000000007/1/2/main".toUTF8
        "rule:00000000000000000007/12/main".toUTF8) := by
  have hlink : Issued "s:reverse" (.link 7 "2") (reverseUser "s:reverse" seededBinding "2") :=
    .link seededBinding "2"
  have hinternal : Issued "s:reverse" (.internal 7 2)
      (.ofInternal (seededStore.internalUserFor 7 2).1) := .internal rfl rfl
  have hlinkBytes : (SecretHolder.link 7 "2").hashed "s:reverse" =
      "s:reverse:reverse:7:2".toUTF8 := by decide +kernel
  have hinternalBytes : (SecretHolder.internal 7 2).hashed "s:reverse" =
      "s:reverse:internal:7:2".toUTF8 := by decide +kernel
  have hfirst : LinkName.hashed ⟨.rule 7, 1, "2/main"⟩ =
      "rule:00000000000000000007/1/2/main".toUTF8 := by decide +kernel
  have hsecond : LinkName.hashed ⟨.rule 7, 12, "main"⟩ =
      "rule:00000000000000000007/12/main".toUTF8 := by decide +kernel
  obtain ⟨-, -, hsecrets, -, -, hdomains⟩ := secrets_separated "s:reverse"
  constructor
  · rw [hsecrets hlink hinternal (by decide), hlinkBytes, hinternalBytes]
  · rw [hdomains (by decide), hfirst, hsecond]

end ProxyMesh
