import ControlStream.Text.Hidden

/-!
# Quoted text

A text is shown between double quotes. A double quote, a backslash, a tab, a carriage return, a
line feed and NUL have short escapes, every other hidden character is spelt by its number in
lower-case hexadecimal, and all else stands as it is.
-/

namespace ControlStream

namespace Text

def spellNumber (c : Char) : List Char :=
  '\\' :: 'u' :: '\x7b' :: (Nat.toDigits 16 c.toNat ++ ['\x7d'])

def quoteChar (c : Char) : List Char :=
  match c with
  | '"' => ['\\', '"']
  | '\\' => ['\\', '\\']
  | '\t' => ['\\', 't']
  | '\r' => ['\\', 'r']
  | '\n' => ['\\', 'n']
  | '\x00' => ['\\', '0']
  | _ => if isHidden c then spellNumber c else [c]

def quote (text : String) : String :=
  String.ofList ('"' :: (text.toList.flatMap quoteChar ++ ['"']))

end Text

end ControlStream
