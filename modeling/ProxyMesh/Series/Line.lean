import ProxyMesh.Series.Point
import ProxyMesh.Number.Layout

/-!
# Points as lines

    measurement,tag=value field=1i,other="text" 1700000000

A backslash stands in front of every backslash and of every character that would end the part that
it is in; inside quotes only the quote and the backslash have one.

* `Point.line?`      the line of a point, none without fields;
* `linesText`        the lines of a batch, separated by line feeds.
-/

namespace ProxyMesh

/-- a backslash in front of backslashes and of the special characters -/
def escape (special : List Char) (s : List Char) : List Char :=
  s.flatMap fun c => if c = '\\' || special.contains c then ['\\', c] else [c]

/-- what ends a measurement -/
def measurementSpecial : List Char := [',', ' ']

/-- what ends a key or a tag's value -/
def keySpecial : List Char := [',', '=', ' ']

def FieldValue.chars : FieldValue → List Char
  | .int n => (toString n).toList ++ ['i']
  | .float x => (Layout.positional.text x).toList
  | .bool b => (if b then "true" else "false").toList
  | .str s => '"' :: (escape ['"'] s.toList ++ ['"'])

namespace Point

def tagChars (t : String × String) : List Char :=
  ',' :: (escape keySpecial t.1.toList ++ '=' :: escape keySpecial t.2.toList)

def fieldChars (f : String × FieldValue) : List Char :=
  escape keySpecial f.1.toList ++ '=' :: f.2.chars

/-- the characters of a line -/
def lineChars (p : Point) : List Char :=
  escape measurementSpecial p.measurement.toList ++ p.tags.records.flatMap tagChars ++
    ' ' :: ([','].intercalate (p.fields.records.map fieldChars) ++ ' ' :: (toString p.time).toList)

def line? (p : Point) : Option String :=
  if p.fields.records.isEmpty then none else some (String.ofList p.lineChars)

end Point

def linesText (points : List Point) : String := "\n".intercalate (points.filterMap Point.line?)

example : ((Point.bare "link health" 5).withTag "name" "a b,c=d" |>.withField "reason"
    (.str "say \"hi\"")).line? =
      some "link\\ health,name=a\\ b\\,c\\=d reason=\"say \\\"hi\\\"\" 5" := by decide +kernel

end ProxyMesh
