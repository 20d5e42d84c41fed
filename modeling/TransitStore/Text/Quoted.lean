import TransitStore.Text.Visible

/-!
# Quoted text

Two ways to write a text between double quotes.

* `quoted` is for messages.  It escapes the quote, the backslash and hidden
  characters, and leaves every other character as it is.
* `jsonString` is the string form of JSON.
-/

namespace TransitStore.Text

/-- The digits of a number in base sixteen, in lower case. -/
def hexDigits (n : Nat) : String := String.ofList (Nat.toDigits 16 n)

/-- One character inside a quoted message. -/
def quotedChar : Char → String
  | '"' => "\\\""
  | '\\' => "\\\\"
  | '\n' => "\\n"
  | '\t' => "\\t"
  | '\r' => "\\r"
  | '\x00' => "\\0"
  | c => if isVisible c then c.toString else "\\u\x7b" ++ hexDigits c.toNat ++ "\x7d"

/-- A text between quotes, for messages. -/
def quoted (s : String) : String :=
  "\"" ++ String.join (s.toList.map quotedChar) ++ "\""

/-- One character inside a JSON string.  Control characters without a short
escape take four hexadecimal digits. -/
def jsonChar : Char → String
  | '"' => "\\\""
  | '\\' => "\\\\"
  | '\x08' => "\\b"
  | '\x0c' => "\\f"
  | '\n' => "\\n"
  | '\r' => "\\r"
  | '\t' => "\\t"
  | c =>
    if c.toNat < 0x20 then
      let digits := hexDigits c.toNat
      "\\u" ++ "".pushn '0' (4 - digits.length) ++ digits
    else c.toString

/-- A text as a JSON string. -/
def jsonString (s : String) : String :=
  "\"" ++ String.join (s.toList.map jsonChar) ++ "\""

example : quoted "a\"b\\c\x07é'" = "\"a\\\"b\\\\c\\u\x7b7\x7dé'\"" := by decide +kernel

example : quoted "e\u0301" = "\"e\\u\x7b301\x7d\"" := by decide +kernel

example : jsonString "\x08\x1f/\n" = "\"\\b\\u001f/\\n\"" := by decide +kernel

end TransitStore.Text
