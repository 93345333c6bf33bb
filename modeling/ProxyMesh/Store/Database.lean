import ProxyMesh.Store.Basic
import ProxyMesh.Topology.Documents
import ProxyMesh.Topology.Shapes

/-!
# The store as it is kept

A record is kept as the text of its document: in the table of its kind, under a text that stands for its
key.  It is read anew each time it is asked for, and one that cannot be read fails all that it is read for.

* `Naming`               what records are named by, and the texts of such names;
* `Kind`                 the kinds of records, and the table of each;
* `Edit`                 a record is put, or a key is deleted;
* `Kind.print`, `read`   the text of a record, and the record of a text;
* `Database.put`, `delete`, `get`, `list`   one record, or all of a kind;
* `Database.balancersFor`   the balancers of one rule or tunnel, by a scan;
* `Database.load`, `Store.editsTo`   all records, and the edits that lead from one store to another;
* `Database.update`      work on the records themselves.
-/

namespace ProxyMesh

/-! ## names -/

/-- the text that stands for the key of a balancer -/
def Balancer.keyText (k : Scope × String) : String := k.1.keyText ++ "/" ++ k.2

/-- the text that stands for the key of an internal user -/
def InternalUser.keyText (k : Id × Id) : String := k.1.padded ++ "/" ++ k.2.padded

instance : Key Unit where
  before _ _ := false
  irrefl _ := rfl
  trans _ _ _ h := nomatch h
  connex _ _ _ _ := rfl

/-- what records are named by: nothing, as there is only one, an id, a name, a scope and a name, two ids -/
inductive Naming where
  | only
  | id
  | name
  | scopedName
  | pair

namespace Naming

abbrev KeyOf : Naming → Type
  | .only => Unit
  | .id => Id
  | .name => String
  | .scopedName => Scope × String
  | .pair => Id × Id

instance : (n : Naming) → Key n.KeyOf
  | .only => inferInstanceAs (Key Unit)
  | .id => inferInstanceAs (Key Id)
  | .name => inferInstanceAs (Key String)
  | .scopedName => inferInstanceAs (Key (Scope × String))
  | .pair => inferInstanceAs (Key (Id × Id))

instance : (n : Naming) → DecidableEq n.KeyOf
  | .only => inferInstanceAs (DecidableEq Unit)
  | .id => inferInstanceAs (DecidableEq Id)
  | .name => inferInstanceAs (DecidableEq String)
  | .scopedName => inferInstanceAs (DecidableEq (Scope × String))
  | .pair => inferInstanceAs (DecidableEq (Id × Id))

/-- the text that stands for a key -/
def text : (n : Naming) → n.KeyOf → String
  | .only => fun _ => "site"
  | .id => Id.padded
  | .name => fun name => name
  | .scopedName => Balancer.keyText
  | .pair => InternalUser.keyText

end Naming

/-! ## kinds of records -/

inductive Kind where
  | node
  | program
  | site
  | rule
  | balancer
  | binding
  | tunnel
  | inboundType
  | fixedInbound
  | profile
  | plan
  | period
  | internalUser
deriving DecidableEq

/-- a row that does not hold a record of its kind -/
inductive StoreError where
  | codec (reason : String)
deriving DecidableEq, Repr

def StoreError.message : StoreError → String
  | .codec reason => "record codec error: " ++ reason

instance : Keyed Site Unit := ⟨fun _ => ()⟩

namespace Kind

def all : List Kind := [node, program, site, rule, balancer, binding, tunnel, inboundType, fixedInbound,
  profile, plan, period, internalUser]

abbrev Record : Kind → Type
  | .node => Node
  | .program => Program
  | .site => Site
  | .rule => Rule
  | .balancer => Balancer
  | .binding => Binding
  | .tunnel => Tunnel
  | .inboundType => InboundType
  | .fixedInbound => FixedInbound
  | .profile => Profile
  | .plan => Plan
  | .period => Period
  | .internalUser => InternalUser

instance : (kind : Kind) → DecidableEq kind.Record
  | .node => inferInstanceAs (DecidableEq Node)
  | .program => inferInstanceAs (DecidableEq Program)
  | .site => inferInstanceAs (DecidableEq Site)
  | .rule => inferInstanceAs (DecidableEq Rule)
  | .balancer => inferInstanceAs (DecidableEq Balancer)
  | .binding => inferInstanceAs (DecidableEq Binding)
  | .tunnel => inferInstanceAs (DecidableEq Tunnel)
  | .inboundType => inferInstanceAs (DecidableEq InboundType)
  | .fixedInbound => inferInstanceAs (DecidableEq FixedInbound)
  | .profile => inferInstanceAs (DecidableEq Profile)
  | .plan => inferInstanceAs (DecidableEq Plan)
  | .period => inferInstanceAs (DecidableEq Period)
  | .internalUser => inferInstanceAs (DecidableEq InternalUser)

abbrev naming : Kind → Naming
  | .site => .only
  | .program => .name
  | .inboundType => .name
  | .balancer => .scopedName
  | .internalUser => .pair
  | _ => .id

abbrev KeyOf (kind : Kind) : Type := kind.naming.KeyOf

instance : (kind : Kind) → Keyed kind.Record kind.KeyOf
  | .node => inferInstanceAs (Keyed Node Id)
  | .program => inferInstanceAs (Keyed Program String)
  | .site => inferInstanceAs (Keyed Site Unit)
  | .rule => inferInstanceAs (Keyed Rule Id)
  | .balancer => inferInstanceAs (Keyed Balancer (Scope × String))
  | .binding => inferInstanceAs (Keyed Binding Id)
  | .tunnel => inferInstanceAs (Keyed Tunnel Id)
  | .inboundType => inferInstanceAs (Keyed InboundType String)
  | .fixedInbound => inferInstanceAs (Keyed FixedInbound Id)
  | .profile => inferInstanceAs (Keyed Profile Id)
  | .plan => inferInstanceAs (Keyed Plan Id)
  | .period => inferInstanceAs (Keyed Period Id)
  | .internalUser => inferInstanceAs (Keyed InternalUser (Id × Id))

/-- the name of the table -/
def shelf : Kind → String
  | .node => "nodes"
  | .program => "programs"
  | .site => "site"
  | .rule => "rules"
  | .balancer => "balancers"
  | .binding => "bindings"
  | .tunnel => "tunnels"
  | .inboundType => "inbound_types"
  | .fixedInbound => "static_inbounds"
  | .profile => "profiles"
  | .plan => "plans"
  | .period => "periods"
  | .internalUser => "internal_users"

def toJson : (kind : Kind) → kind.Record → Json
  | .node => Node.toJson
  | .program => Program.toJson
  | .site => Site.toJson
  | .rule => Rule.toJson
  | .balancer => Balancer.toJson
  | .binding => Binding.toJson
  | .tunnel => Tunnel.toJson
  | .inboundType => InboundType.toJson
  | .fixedInbound => FixedInbound.toJson
  | .profile => Profile.toJson
  | .plan => Plan.toJson
  | .period => Period.toJson
  | .internalUser => InternalUser.toJson

def decoder : (kind : Kind) → Json.Decoder kind.Record
  | .node => Node.decoder
  | .program => Program.decoder
  | .site => Site.decoder
  | .rule => Rule.decoder
  | .balancer => Balancer.decoder
  | .binding => Binding.decoder
  | .tunnel => Tunnel.decoder
  | .inboundType => InboundType.decoder
  | .fixedInbound => FixedInbound.decoder
  | .profile => Profile.decoder
  | .plan => Plan.decoder
  | .period => Period.decoder
  | .internalUser => InternalUser.decoder

def shape : Kind → Json.Shape
  | .node => Shapes.node
  | .program => Shapes.program
  | .site => Shapes.site
  | .rule => Shapes.rule
  | .balancer => Shapes.balancer
  | .binding => Shapes.binding
  | .tunnel => Shapes.tunnel
  | .inboundType => Shapes.inboundType
  | .fixedInbound => Shapes.fixedInbound
  | .profile => Shapes.profile
  | .plan => Shapes.plan
  | .period => Shapes.period
  | .internalUser => Shapes.internalUser

/-- the text that a record is kept as -/
def print (kind : Kind) (a : kind.Record) : String := (kind.toJson a).compact

/-- the record that a text holds -/
def read (kind : Kind) (text : String) : Except StoreError kind.Record :=
  match Json.decode kind.decoder text with
  | some a => .ok a
  | none => .error (.codec (((Json.firstFault? kind.shape text).map (·.message)).getD "not a record"))

end Kind

namespace Store

def table (s : Store) : (kind : Kind) → Table kind.Record
  | .node => s.nodes
  | .program => s.programs
  | .site => .ofList s.site.toList
  | .rule => s.rules
  | .balancer => s.balancers
  | .binding => s.bindings
  | .tunnel => s.tunnels
  | .inboundType => s.inboundTypes
  | .fixedInbound => s.fixedInbounds
  | .profile => s.profiles
  | .plan => s.plans
  | .period => s.periods
  | .internalUser => s.internalUsers

def setTable (s : Store) : (kind : Kind) → Table kind.Record → Store
  | .node => fun t => { s with nodes := t }
  | .program => fun t => { s with programs := t }
  | .site => fun t => { s with site := t.records.head? }
  | .rule => fun t => { s with rules := t }
  | .balancer => fun t => { s with balancers := t }
  | .binding => fun t => { s with bindings := t }
  | .tunnel => fun t => { s with tunnels := t }
  | .inboundType => fun t => { s with inboundTypes := t }
  | .fixedInbound => fun t => { s with fixedInbounds := t }
  | .profile => fun t => { s with profiles := t }
  | .plan => fun t => { s with plans := t }
  | .period => fun t => { s with periods := t }
  | .internalUser => fun t => { s with internalUsers := t }

end Store

/-! ## edits -/

/-- a record is put, or a key is deleted -/
inductive Change (α κ : Type) where
  | put (a : α)
  | delete (k : κ)

section
variable {α κ : Type} [Key κ] [Keyed α κ]

def Table.change (t : Table α) : Change α κ → Table α
  | .put a => t.put a
  | .delete k => t.erase k

/-- what makes one table another: keys deleted, then the records put that are new or other ones -/
def Table.changesTo [DecidableEq α] (before after : Table α) : List (Change α κ) :=
  ((before.records.filter fun a => !after.contains (key a)).map fun a => .delete (key a)) ++
    ((after.records.filter fun a => before.get? (key a) ≠ some a).map .put)

end

/-- a record of one kind is put, or a key is deleted -/
structure Edit where
  kind : Kind
  change : Change kind.Record kind.KeyOf

/-- what makes one store another -/
def Store.editsTo (before after : Store) : List Edit :=
  Kind.all.flatMap fun kind => ((before.table kind).changesTo (after.table kind)).map (Edit.mk kind)

/-! ## tables of texts -/

/-- the text begins with `lead` -/
def beginsWith (lead text : String) : Bool := lead.toList.isPrefixOf text.toList

/-- what the rows hold from `lead` on, as long as their texts begin with it -/
def scan {α : Type} (lead : String) (rows : TextMap α) : List α :=
  ((rows.records.dropWhile fun r => before r.1 lead).takeWhile fun r => beginsWith lead r.1).map (·.2)

/-- tables by name, in each the texts of records under the texts of their keys -/
abbrev Database := TextMap (TextMap String)

namespace Database

def rows (d : Database) (kind : Kind) : TextMap String := ((d.get? kind.shelf).map (·.2)).getD .empty

def setRows (d : Database) (kind : Kind) (rows : TextMap String) : Database :=
  Table.put d (kind.shelf, rows)

def put (d : Database) (kind : Kind) (a : kind.Record) : Database :=
  d.setRows kind ((d.rows kind).put (kind.naming.text (key a), kind.print a))

/-- the key deleted; true if it was there -/
def delete (d : Database) (kind : Kind) (k : kind.KeyOf) : Bool × Database :=
  ((d.rows kind).contains (kind.naming.text k),
    d.setRows kind ((d.rows kind).erase (kind.naming.text k)))

def get (d : Database) (kind : Kind) (k : kind.KeyOf) : Except StoreError (Option kind.Record) :=
  match (d.rows kind).get? (kind.naming.text k) with
  | none => .ok none
  | some row => (kind.read row.2).map some

def list (d : Database) (kind : Kind) : Except StoreError (List kind.Record) :=
  (d.rows kind).records.mapM fun row => kind.read row.2

/-- the balancers of one rule or tunnel -/
def balancersFor (d : Database) (scope : Scope) : Except StoreError (List Balancer) :=
  (scan (scope.keyText ++ "/") (d.rows .balancer)).mapM (Kind.read .balancer)

def edit (d : Database) (e : Edit) : Database :=
  match e.change with
  | .put a => d.put e.kind a
  | .delete k => (d.delete e.kind k).2

def edits (d : Database) (history : List Edit) : Database := history.foldl edit d

/-- all records -/
def load (d : Database) : Except StoreError Store :=
  Kind.all.foldlM (fun s kind => do pure (s.setTable kind (.ofList (← d.list kind)))) Store.empty

/-- work on the records themselves: all are read first, and what the work changed is written back -/
def update {α : Type} (d : Database) (work : Store → α × Store) : Except StoreError (α × Database) := do
  let before ← d.load
  let (answer, after) := work before
  pure (answer, d.edits (before.editsTo after))

/-- every record of the snapshot is put -/
def importSnapshot (d : Database) (snapshot : Snapshot) : Database :=
  d.edits (Store.empty.editsTo (Store.empty.importSnapshot snapshot))

end Database
end ProxyMesh
