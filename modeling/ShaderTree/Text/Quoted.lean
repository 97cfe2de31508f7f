import ShaderTree.Text.Invisible

/-!
# Quoted text

Text between double quotes, on one line and without characters that cannot be
seen: the quote, the backslash and the common control characters are written
with a backslash, every other invisible character by its number.
-/

namespace ShaderTree

namespace Text

/-- A character by its number in hexadecimal digits. -/
def byNumber (c : Char) : List Char :=
  "\\u\x7b".toList ++ Nat.toDigits 16 c.toNat ++ ['\x7d']

def quoteChar (c : Char) : List Char :=
  match c with
  | '"' => ['\\', '"']
  | '\\' => ['\\', '\\']
  | '\n' => ['\\', 'n']
  | '\r' => ['\\', 'r']
  | '\t' => ['\\', 't']
  | '\x00' => ['\\', '0']
  | c => if isInvisible c then byNumber c else [c]

def quote (s : String) : String :=
  String.ofList ('"' :: s.toList.flatMap quoteChar ++ ['"'])

end Text

end ShaderTree
