import TabletRecords.Text.Hex
import TabletRecords.Text.Visible

/-!
Quoted texts. In a description a quote and a backslash are escaped, the four common controls have
letters, and any other character that is not visible by itself is written by its code point. JSON
has letters for five controls and writes the other ones with four digits.
-/
namespace TabletRecords.Text

def escape (c : Char) : String :=
  match c with
  | '\x00' => "\\0"
  | '\t' => "\\t"
  | '\r' => "\\r"
  | '\n' => "\\n"
  | '"' => "\\\""
  | '\\' => "\\\\"
  | c => if isVisible c then c.toString else "\\u\x7b" ++ hexDigits c.toNat ++ "\x7d"

def quote (s : String) : String :=
  "\"" ++ String.join (s.toList.map escape) ++ "\""

def escapeJson (c : Char) : String :=
  match c with
  | '\x08' => "\\b"
  | '\t' => "\\t"
  | '\n' => "\\n"
  | '\x0c' => "\\f"
  | '\r' => "\\r"
  | '"' => "\\\""
  | '\\' => "\\\\"
  | c => if c.toNat < 0x20 then "\\u00" ++ hexOfByte (UInt8.ofNat c.toNat) else c.toString

def quoteJson (s : String) : String :=
  "\"" ++ String.join (s.toList.map escapeJson) ++ "\""

end TabletRecords.Text
