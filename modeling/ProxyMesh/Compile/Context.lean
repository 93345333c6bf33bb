import ProxyMesh.Fragment.Objects
import ProxyMesh.Fragment.Dependents
import ProxyMesh.Settings.Basic
import ProxyMesh.Template.Render
import ProxyMesh.User.Basic

/-!
# Fragments of a node's document

A fragment is a template that renders to JSON objects.  One that does not is left out and reported.

* `Options`            where a node keeps its files, and where blobs are served;
* `Context`            what the compile of one node starts from;
* `FragmentKind`       what a template is for;
* `SkipReason`         why a fragment is left out;
* `Context.fragment`   the objects of a fragment and the files that it took.
-/

namespace ProxyMesh

structure Options where
  workDir : String
  baseUrl : String
deriving DecidableEq, Repr

/-- the options that the settings give; the directory ends in no slash -/
def Options.ofSettings (s : CompilerSettings) : Options :=
  ⟨String.ofList (Text.dropEndWhile (· = '/') s.workDir.toList), s.baseUrl⟩

inductive FragmentKind where
  | outbound
  | rules
  | consumer
  | inbound
  | fixedInbound
  | baseConfig
  | strategy
deriving DecidableEq, Repr

namespace FragmentKind

def all : List FragmentKind :=
  [outbound, rules, consumer, inbound, fixedInbound, baseConfig, strategy]

def word : FragmentKind → String
  | .outbound => "outbound"
  | .rules => "rules"
  | .consumer => "consumer"
  | .inbound => "inbound"
  | .fixedInbound => "static_inbound"
  | .baseConfig => "base_config"
  | .strategy => "strategy"

/-- the word without underscores, every part with a capital -/
def title : FragmentKind → String
  | .outbound => "Outbound"
  | .rules => "Rules"
  | .consumer => "Consumer"
  | .inbound => "Inbound"
  | .fixedInbound => "StaticInbound"
  | .baseConfig => "BaseConfig"
  | .strategy => "Strategy"

def ofWord? (w : String) : Option FragmentKind := all.find? (·.word == w)

end FragmentKind

inductive SkipReason where
  | template
  | undefinedVariable (marker : String)
  | dependent (error : DependentError)
  | objects (error : ObjectsError)
deriving DecidableEq

def templateFailed (kind : FragmentKind) : String := kind.word ++ " template failed"

def SkipReason.message (kind : FragmentKind) : SkipReason → String
  | .template => templateFailed kind
  | .undefinedVariable marker => "undefined variable (" ++ marker ++ ")"
  | .dependent e => e.message
  | .objects e => "not JSON: " ++ e.message

/-- what stands for a variable that is not there -/
def invalidMarker : String := "__INVALID__"

/-- a rendered template; a variable that is not there makes the whole text a marker -/
def renderMarked (template : String) (vars : Json) : Option String :=
  match Template.render template vars with
  | .ok text => some text
  | .error (.missing path) => some (invalidMarker ++ ":" ++ path.getD "?")
  | .error .broken => none

/-- the marker in a text, up to a blank or a quote -/
def markerIn (text : String) : Option String :=
  (Text.cutAt invalidMarker.toList text.toList).map fun (_, after) =>
    invalidMarker ++ String.ofList (after.takeWhile fun c => !Text.isBlank c && c != '"')

/-- what the compile of a node starts from -/
structure Context where
  node : Node
  site : Site
  options : Options
  now : Nat

namespace Context

/-- the content of a named file, the node's own before the site's -/
def fileContent (c : Context) (name : String) : Option String :=
  ((c.node.files.get? name).or (c.site.files.get? name)).map (·.2)

/-- the objects of a fragment, and the dependent files that it took -/
def fragment (c : Context) (template : String) (vars : Json) :
    Except SkipReason (List Json) × List (String × FileSpec) :=
  match renderMarked template vars with
  | none => (.error .template, [])
  | some text =>
    match markerIn text with
    | some marker => (.error (.undefinedVariable marker), [])
    | none =>
      match substitute c.fileContent c.options.workDir text with
      | (.error e, files) => (.error (.dependent e), files)
      | (.ok text, files) =>
        match parseObjects text with
        | .ok objects => (.ok objects, files)
        | .error e => (.error (.objects e), files)

/-! ## what templates see -/

/-- fixed settings of place and language -/
def environment : Json := .ofFields [("timezone", .str "UTC"), ("locale", .str "en")]

def nodeJson (c : Context) : Json := .ofFields [
  ("id", .ofWord c.node.id), ("name", .str c.node.name), ("address", .ofText c.node.address),
  ("architecture", .str c.node.architecture)]

def userJson (c : Context) (u : User) : Json := u.toJson c.site.userDomain

def email (c : Context) (u : User) : String := u.email c.site.userDomain

/-- the environment, the node and more -/
def varsWith (c : Context) (more : List (String × Json)) : Json :=
  .ofFields ([("env", environment), ("node", c.nodeJson)] ++ more)

end Context

end ProxyMesh
