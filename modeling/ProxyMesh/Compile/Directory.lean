import ProxyMesh.Compile.Artifacts

/-!
# Artifacts in a directory

* `Directory`             the files of a directory by name, any bytes in each;
* `Artifacts.isCurrent`   the directory holds these artifacts, the line of the time aside;
* `Artifacts.writes`      what has to be written, the document last: its digest marks the directory
                          as complete;
* `Directory.write`       the artifacts written, unless they are there already.
-/

namespace ProxyMesh

abbrev Directory := TextMap ByteArray

def configFile : String := "config.json"
def supervisorFile : String := "supervisor.conf"
def filesFile : String := "files.json"

namespace Directory

def bytes? (d : Directory) (name : String) : Option ByteArray := (d.get? name).map (·.2)

/-- the text of a file, if there is one and its bytes spell a text -/
def text? (d : Directory) (name : String) : Option String :=
  (d.bytes? name).bind String.fromUTF8?

/-- the directory with these texts in its files -/
def putTexts (d : Directory) (texts : List (String × String)) : Directory :=
  d.putAll (texts.map fun (name, text) => (name, text.toUTF8))

end Directory

namespace Artifacts

/-- the list of files as it is written -/
def filesText (a : Artifacts) : String := Json.pretty (.ofList FileSpec.toJson a.files)

def isCurrent (a : Artifacts) (d : Directory) : Bool :=
  ((d.bytes? configFile).map Sha256.hexOfBytes) == some a.configHash &&
    withoutFirstLine ((d.text? supervisorFile).getD "") == a.supervisorBody &&
    d.text? filesFile == some a.filesText

/-- names and contents in the order in which they are written -/
def writes (a : Artifacts) : List (String × String) :=
  [(supervisorFile, a.supervisor), (filesFile, a.filesText), (configFile, a.configText)]

end Artifacts

/-- true with the artifacts in the directory, false if they were there -/
def Directory.write (d : Directory) (a : Artifacts) : Bool × Directory :=
  if a.isCurrent d then (false, d) else (true, d.putTexts a.writes)

end ProxyMesh
