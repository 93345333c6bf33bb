import ProxyMesh.Text.Classes

/-!
# Quoted text

* `quoted`   a text between double quotes on one visible line: the usual escapes for quote,
             backslash and line ends, `\u{..}` with the code point for what would not show.
-/

namespace ProxyMesh.Text

def hexDigits (n : Nat) : String := String.ofList (Nat.toDigits 16 n)

/-- one character as it stands between the quotes -/
def quotedChar (c : Char) : String :=
  if c = '\x00' then "\\0"
  else if c = '\t' then "\\t"
  else if c = '\r' then "\\r"
  else if c = '\n' then "\\n"
  else if c = '"' then "\\\""
  else if c = '\\' then "\\\\"
  else if extendsGrapheme c || !isPrintable c then "\\u\x7b" ++ hexDigits c.toNat ++ "\x7d"
  else c.toString

def quoted (s : String) : String := "\"" ++ String.join (s.toList.map quotedChar) ++ "\""

example : quoted "a\"b\\\n" = "\"a\\\"b\\\\\\n\"" := by decide +kernel

end ProxyMesh.Text
