import PgStatement.Text.Printable
import PgStatement.Text.Digits

/-!
# Quoted text

The form a text takes inside an inspected value, in messages and log fields: between double quotes,
with the quote, the backslash and the common controls behind a backslash and every other
unprintable character as its code point in hexadecimal. The apostrophe stays as it is.
-/

namespace PgStatement.Text

/-- One character inside double quotes. -/
def quotedChar (c : Char) : List Char :=
  match c with
  | '"' => ['\\', '"']
  | '\\' => ['\\', '\\']
  | '\n' => ['\\', 'n']
  | '\r' => ['\\', 'r']
  | '\t' => ['\\', 't']
  | '\x00' => ['\\', '0']
  | c =>
    if isPrintable c then [c]
    else ['\\', 'u', '\x7b'] ++ Nat.toDigits 16 c.toNat ++ ['\x7d']

/-- **Text between double quotes**, on one line and without unprintable characters. -/
def quoted (s : String) : String :=
  String.ofList ('"' :: s.toList.flatMap quotedChar ++ ['"'])

end PgStatement.Text
