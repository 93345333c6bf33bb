import ProxyMesh.Compile.Hops
import ProxyMesh.Compile.Document
import ProxyMesh.File.Source
import ProxyMesh.Time.Civil

/-!
# What a node needs to start its runtime

* `programPath`   where a program is on a node, and the file to install if it is not there yet;
* `assets`        the directory of the geo data, and the files to install;
* `compile`       the artifacts of a node as of a time; the only thing it changes in the store are the
                  node's own internal users.
-/

namespace ProxyMesh

inductive CompileError where
  | nodeNotFound (node : Id)
  | runtimeDisabled (node : Id)
  | programNotFound (node : Id) (program : String)
  /-- a digest whose first six bytes are no text -/
  | brokenDigest (digest : String)
deriving DecidableEq, Repr

def CompileError.message : CompileError → String
  | .nodeNotFound node => "node not found: " ++ toString node
  | .runtimeDisabled node => "runtime disabled on node " ++ toString node
  | .programNotFound node program =>
    "program " ++ Text.quoted program ++ " not available for node " ++ toString node
  | .brokenDigest digest => "digest " ++ Text.quoted digest ++ " cannot be shortened"

structure Report where
  skippedFragments : List SkippedFragment
  skippedRules : List Id
  droppedRules : Nat
  outbounds : Nat
  balancers : Nat
  consumers : Nat
deriving DecidableEq

structure Artifacts where
  nodeId : Id
  configText : String
  configHash : String
  binaryPath : String
  configPath : String
  files : List FileSpec
  supervisor : String
  balancers : List CompiledBalancer
  report : Report
deriving DecidableEq

/-- a text without its first line; a text of one line as it is -/
def withoutFirstLine (text : String) : String :=
  match Text.cutAt ['\n'] text.toList with
  | some (_, rest) => String.ofList rest
  | none => text

/-- the supervisor stanza without the line of its time -/
def Artifacts.supervisorBody (a : Artifacts) : String := withoutFirstLine a.supervisor

/-- the first six digits of a text's digest -/
def shortDigest (text : String) : String := String.ofList ((Sha256.hex text).toList.take 6)

/-- where a build is installed, and the file to install -/
def installedBinary (o : Options) (program : String) (b : Binary) :
    Except CompileError (Option (String × Option FileSpec)) :=
  match Source.parse b.source with
  | .error _ => .ok none
  | .ok (.path path) => .ok (some (path, none))
  | .ok source =>
    match shortHash? b.hash with
    | none => .error (.brokenDigest b.hash)
    | some short =>
      let dest := o.workDir ++ "/bin/" ++ program ++ "_" ++ short
      .ok (some (dest, (source.fetchUrl o.baseUrl).map fun url => .download dest url b.hash))

/-- where a program is on a node -/
def programPath (s : Store) (o : Options) (node : Node) (program : String) :
    Except CompileError (Option (String × Option FileSpec)) :=
  if program.isEmpty then .ok none
  else match (s.programs.get? program).bind (·.locate node) with
    | none => .ok none
    | some (.installed path) => .ok (some (path, none))
    | some (.binary b) => installedBinary o program b

/-- the geo data of a site: file names and programs -/
def assetPrograms (site : Site) : List (String × String) :=
  ((site.geositeProgram.map ("geosite.dat", ·)).toList) ++
    ((site.geoipProgram.map ("geoip.dat", ·)).toList)

/-- the directory part of a path -/
def directoryOf (path : String) : Option String :=
  match path.toList.reverse.dropWhile (· != '/') with
  | [] => none
  | _ :: rest => some (String.ofList rest.reverse)

/-- the directory of the geo data, and the files to install; data on the node counts only if none has
to be installed -/
def assets (s : Store) (o : Options) (node : Node) (site : Site) :
    Option String × List FileSpec :=
  let located := (assetPrograms site).filterMap fun (file, program) =>
    ((s.programs.get? program).bind (·.locate node)).map (file, ·)
  let downloads := located.filterMap fun (file, location) =>
    match location with
    | .binary b => some (file, b)
    | .installed _ => none
  let onNode := located.filterMap fun (_, location) =>
    match location with
    | .binary _ => none
    | .installed path => some path
  if downloads.isEmpty then (onNode.head?.bind directoryOf, [])
  else
    let combined := String.join (downloads.map (·.2.hash))
    let dir := o.workDir ++ "/bin/assets_" ++ shortDigest combined
    let files := downloads.filterMap fun (file, b) =>
      match Source.parse b.source with
      | .ok source =>
        (source.fetchUrl o.baseUrl).map fun url => FileSpec.download (dir ++ "/" ++ file) url b.hash
      | .error _ => none
    (some dir, files)

/-- the supervisor stanza of the runtime -/
def supervisorStanza (binary config : String) (assetsDir : Option String) (now : Nat) : String :=
  "# config=" ++ (Time.timestampText now).getD (toString now) ++ "\n[program:proxy_runtime]\ncommand=" ++
    binary ++ " -c " ++ config ++ "\n" ++
    (assetsDir.map fun dir => "environment=XRAY_LOCATION_ASSET=" ++ dir ++ "\n").getD "" ++
    "autostart=true\nautorestart=true\npriority=10\n"

/-- everything that rules and tunnels put into the document, and the store with the node's users -/
def draftOf (c : Context) (s : Store) : Draft × Store :=
  let (d, s) := s.rules.records.foldl (addRule c) (.empty, s)
  (s.tunnels.records.foldl (addTunnel c s) d, s)

/-- the artifacts, once node and program are known -/
def buildArtifacts (c : Context) (s : Store) (binaryPath : String) (binaryFile : Option FileSpec) :
    Artifacts × Store :=
  let (d, s) := draftOf c s
  let (balancers, d) := compileBalancers c s d
  let (inbounds, d) := renderInbounds c s d
  let (base, d) := baseDocument c d
  let doc := mergeDocument base d balancers inbounds
  let text := Json.pretty (.obj doc)
  let hash := Sha256.hex text
  let configPath := c.options.workDir ++ "/conf/runtime_" ++ String.ofList (hash.toList.take 6) ++ ".json"
  let (assetsDir, assetFiles) := assets s c.options c.node c.site
  ({ nodeId := c.node.id
     configText := text
     configHash := hash
     binaryPath
     configPath
     files := binaryFile.toList ++ assetFiles ++ [.inline configPath text] ++
       d.dependents.records.map (·.2)
     supervisor := supervisorStanza binaryPath configPath assetsDir c.now
     balancers
     report := {
       skippedFragments := d.skippedFragments
       skippedRules := d.skippedRules
       droppedRules := droppedRules d balancers
       outbounds := outboundCount doc
       balancers := balancers.length
       consumers := d.consumers.records.length } }, s)

/-- the artifacts of a node as of `now` -/
def compile (s : Store) (o : Options) (nodeId : Id) (now : Nat) :
    Except CompileError Artifacts × Store :=
  match s.nodes.get? nodeId with
  | none => (.error (.nodeNotFound nodeId), s)
  | some node =>
    if !node.runtimeEnabled then (.error (.runtimeDisabled nodeId), s)
    else
      let site := s.siteSettings
      let program := site.runtimeProgram.getD ""
      match programPath s o node program with
      | .error e => (.error e, s)
      | .ok none => (.error (.programNotFound nodeId program), s)
      | .ok (some (path, file)) =>
        let (artifacts, s) := buildArtifacts ⟨node, site, o, now⟩ s path file
        (.ok artifacts, s)

end ProxyMesh
