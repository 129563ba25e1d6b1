import RackTraffic.Text.Hidden

/-!
# Quoted text

An error message that cites a text puts it between double quotes and writes each of its characters
so that the text can be told from its quotes and from the message. A quote and a backslash get a
backslash before them; tab, line feed, carriage return and the null character have short escapes;
any other character that does not show on its own is written by its code point, `\u{200b}`. All
others stand for themselves, an apostrophe included.
-/

namespace RackTraffic.Text

def hexDigits (n : Nat) : List Char := Nat.toDigits 16 n

/-- How a character is written between quotes. -/
def quoteChar (c : Char) : List Char :=
  match c with
  | '\x00' => ['\\', '0']
  | '\t' => ['\\', 't']
  | '\r' => ['\\', 'r']
  | '\n' => ['\\', 'n']
  | '"' => ['\\', '"']
  | '\\' => ['\\', '\\']
  | c => if isHidden c then ['\\', 'u', '\x7b'] ++ hexDigits c.toNat ++ ['\x7d'] else [c]

def quote (s : String) : String :=
  String.ofList ('"' :: s.toList.flatMap quoteChar ++ ['"'])

end RackTraffic.Text
