import ProxyMesh.Proofs.Tag.Codec

/-!
# The tags of a document

Four kinds of things in a document have tags: outbounds and the ends of reverse links, the interconnects
of bridges, balancers, and the inbounds of tunnels.  They stand in five sections.  The first two letters
of a tag tell its kind, so no tag can stand for two things, whatever the names in it are.

* `TagSection`               where the tags of a document stand;
* `DocumentTag`              what a tag stands for;
* `DocumentTag.mark`         its first two letters;
* `balancerTag_inj`, `tunnelInboundTag_inj`   the tags of one kind;
* `DocumentTag.text_injective`   **no two things have the same tag**.
-/

namespace ProxyMesh

inductive TagSection where
  | outbounds
  | bridges
  | portals
  | balancers
  | forwards
deriving DecidableEq

def TagSection.all : List TagSection := [outbounds, bridges, portals, balancers, forwards]

/-- what a tag stands for -/
inductive DocumentTag where
  | link (ref : TagRef)
  | interconnect (bridge : TagRef)
  | balancer (scope : Scope) (name : String)
  | forward (tunnel : Id)

namespace DocumentTag

def text : DocumentTag → String
  | .link ref => ref.encode
  | .interconnect bridge => interconnectTag bridge.encode
  | .balancer scope name => balancerTag scope name
  | .forward tunnel => tunnelInboundTag tunnel

/-- where the tag stands -/
def home : DocumentTag → TagSection
  | .link (.outbound ..) => .outbounds
  | .link (.reverse _ .bridge ..) => .bridges
  | .link (.reverse _ .portal ..) => .portals
  | .interconnect _ => .outbounds
  | .balancer .. => .balancers
  | .forward _ => .forwards

/-- the binding that the tag is made for -/
def binding? : DocumentTag → Option Id
  | .link ref => some ref.binding
  | .interconnect bridge => some bridge.binding
  | _ => none

/-- the first two letters of the tag -/
def mark : DocumentTag → String
  | .link (.outbound scope _) => TagRef.outboundMark scope
  | .link (.reverse scope side ..) => TagRef.reverseMark scope side
  | .interconnect _ => "ic"
  | .balancer (.rule _) _ => "lb"
  | .balancer (.tunnel _) _ => "tl"
  | .forward _ => "ti"

theorem take_text (t : DocumentTag) : t.text.toList.take 2 = t.mark.toList := by
  match t with
  | .link (.outbound scope _) => cases scope <;> simp [text, mark, TagRef.encode, TagRef.outboundMark]
  | .link (.reverse scope side ..) =>
    cases scope <;> cases side <;> simp [text, mark, TagRef.encode, TagRef.reverseMark]
  | .interconnect _ => simp [text, mark, interconnectTag, TagRef.interconnectMark]
  | .balancer (.rule _) _ => simp [text, mark, balancerTag]
  | .balancer (.tunnel _) _ => simp [text, mark, balancerTag]
  | .forward _ => simp [text, mark, tunnelInboundTag]

theorem mark_link (ref : TagRef) :
    (link ref).mark ∈ ["ro", "to", "rb", "rp", "tb", "tp"] := by
  match ref with
  | .outbound scope _ => cases scope <;> simp [mark, TagRef.outboundMark]
  | .reverse scope side .. => cases scope <;> cases side <;> simp [mark, TagRef.reverseMark]

theorem mark_balancer (scope : Scope) (name : String) : (balancer scope name).mark ∈ ["lb", "tl"] := by
  cases scope <;> simp [mark]

end DocumentTag

/-! ## the tags of one kind -/

theorem interconnectTag_inj {t t' : String} (h : interconnectTag t = interconnectTag t') : t = t' :=
  (String.append_right_inj _).1 h

theorem tunnelInboundTag_inj {m n : Id} (h : tunnelInboundTag m = tunnelInboundTag n) : m = n :=
  Text.numeral_inj (congrArg String.toList ((String.append_right_inj _).1 h))

theorem balancerTag_inj {scope scope' : Scope} {name name' : String}
    (h : balancerTag scope name = balancerTag scope' name') : scope = scope' ∧ name = name' := by
  have hmark : (DocumentTag.balancer scope name).mark = (DocumentTag.balancer scope' name').mark := by
    rw [← String.toList_inj, ← DocumentTag.take_text, ← DocumentTag.take_text]
    exact congrArg (·.toList.take 2) h
  cases scope with
  | rule m =>
    cases scope' with
    | rule n =>
      obtain ⟨rfl, rfl⟩ := Text.numbered_inj rfl TagRef.isDigit_underscore h
      exact ⟨rfl, rfl⟩
    | tunnel n => exact absurd hmark (by simp [DocumentTag.mark])
  | tunnel m =>
    cases scope' with
    | rule n => exact absurd hmark (by simp [DocumentTag.mark])
    | tunnel n =>
      obtain ⟨rfl, rfl⟩ := Text.numbered_inj rfl TagRef.isDigit_underscore h
      exact ⟨rfl, rfl⟩

/-- **No two things in a document have the same tag**, whatever the names of allocations and balancers
are. -/
theorem DocumentTag.text_injective : Function.Injective text := by
  intro t t' h
  have hmark : t.mark = t'.mark := by
    rw [← String.toList_inj, ← take_text, ← take_text, h]
  cases t with
  | link ref =>
    have hlink := mark_link ref
    rw [hmark] at hlink
    cases t' with
    | link ref' => exact congrArg link (TagRef.encode_injective h)
    | interconnect bridge => exact absurd hlink (by simp [mark])
    | balancer scope name => cases scope <;> exact absurd hlink (by simp [mark])
    | forward tunnel => exact absurd hlink (by simp [mark])
  | interconnect bridge =>
    cases t' with
    | link ref => exact absurd (hmark ▸ mark_link ref) (by simp [mark])
    | interconnect bridge' =>
      exact congrArg interconnect (TagRef.encode_injective (interconnectTag_inj h))
    | balancer scope name => cases scope <;> exact absurd hmark (by simp [mark])
    | forward tunnel => exact absurd hmark (by simp [mark])
  | balancer scope name =>
    have hbalancer := mark_balancer scope name
    rw [hmark] at hbalancer
    cases t' with
    | link ref => cases scope <;> exact absurd (hmark ▸ mark_link ref) (by simp [mark])
    | interconnect bridge => exact absurd hbalancer (by simp [mark])
    | balancer scope' name' =>
      obtain ⟨rfl, rfl⟩ := balancerTag_inj h
      rfl
    | forward tunnel => exact absurd hbalancer (by simp [mark])
  | forward tunnel =>
    cases t' with
    | link ref => exact absurd (hmark ▸ mark_link ref) (by simp [mark])
    | interconnect bridge => exact absurd hmark (by simp [mark])
    | balancer scope name => exact absurd (hmark ▸ mark_balancer scope name) (by simp [mark])
    | forward tunnel' => exact congrArg forward (tunnelInboundTag_inj h)

end ProxyMesh
