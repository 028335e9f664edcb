import ProviderDocs.Text.Printable

/-!
# Quoted text for messages

A message shows a text between double quotes, on one line and without invisible characters.
-/

namespace ProviderDocs.Text

/-- `\u` with the code point in braces, in small hexadecimal digits. -/
def codePointEscape (c : Char) : List Char :=
  ['\\', 'u', '\x7b'] ++ Nat.toDigits 16 c.toNat ++ ['\x7d']

def quotedChar (c : Char) : List Char :=
  match c with
  | '\x00' => ['\\', '0']
  | '\t' => ['\\', 't']
  | '\n' => ['\\', 'n']
  | '\r' => ['\\', 'r']
  | '"' => ['\\', '"']
  | '\\' => ['\\', '\\']
  | c => if isCombining c || !isPrintable c then codePointEscape c else [c]

end ProviderDocs.Text

namespace ProviderDocs

def quoted (text : String) : String :=
  String.ofList ('"' :: text.toList.flatMap Text.quotedChar ++ ['"'])

end ProviderDocs
