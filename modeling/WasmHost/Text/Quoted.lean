import WasmHost.Text.Hidden

/-!
# Texts with escapes

Two ways to write a text so that no character of it is lost on the reader: in quotes, with an escape
for every hidden character, and for a terminal, with an escape for the characters that command it.
-/

namespace WasmHost

/-- A number in hexadecimal digits. -/
def hexDigits (n : Nat) : String :=
  String.ofList (Nat.toDigits 16 n)

/-- The escape that names a code point. -/
def codePointEscape (c : Char) : String :=
  "\\u\x7b" ++ hexDigits c.toNat ++ "\x7d"

/-- Whether a character is a visible one of the first 127. -/
def isPlain (c : Char) : Bool :=
  32 ≤ c.toNat && c.toNat < 127

/-- A character inside a quoted text: quotes, backslashes and hidden characters are escaped. -/
def escapedChar (c : Char) : String :=
  match c with
  | '"' => "\\\""
  | '\\' => "\\\\"
  | '\n' => "\\n"
  | '\t' => "\\t"
  | '\r' => "\\r"
  | '\x00' => "\\0"
  | c =>
    if isPlain c then c.toString
    else if isHidden c then codePointEscape c
    else c.toString

/-- A text in quotes. -/
def quoted (text : String) : String :=
  "\"" ++ String.join (text.toList.map escapedChar) ++ "\""

/-- A character in a text for a terminal: those that start a command, move the cursor, delete or
ring the bell are escaped. -/
def terminalChar (c : Char) : String :=
  match c with
  | '\x07' => "\\x07"
  | '\x08' => "\\x08"
  | '\x0c' => "\\x0c"
  | '\x1b' => "\\x1b"
  | '\x7f' => "\\x7f"
  | c => if 128 ≤ c.toNat && c.toNat < 160 then codePointEscape c else c.toString

/-- A text for a terminal. -/
def terminalText (text : String) : String :=
  String.join (text.toList.map terminalChar)

end WasmHost
