import ResourcePool.Text.Hex
import ResourcePool.Text.Printable

/-! Quoted text: blanks other than the space, quotes, backslashes and all that
has no shape of its own are written as escapes. -/
namespace ResourcePool.Text

def escape (c : Char) : String :=
  match c with
  | '\x00' => "\\0"
  | '\t' => "\\t"
  | '\n' => "\\n"
  | '\r' => "\\r"
  | '"' => "\\\""
  | '\\' => "\\\\"
  | c => if standsAlone c then c.toString else "\\u\x7b" ++ hex c.toNat ++ "\x7d"

def quoted (text : String) : String :=
  "\"" ++ String.join (text.toList.map escape) ++ "\""

def quotedOption : Option String → String
  | none => "None"
  | some text => "Some(" ++ quoted text ++ ")"

end ResourcePool.Text
