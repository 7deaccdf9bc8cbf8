import SchemaLoom.Text.Hidden

/-!
# Quoted literals

String literals of generated code and of conversion messages. The quote, the backslash and
the usual control characters have short escapes; characters without a glyph of their own are
written by their code point.
-/
namespace SchemaLoom.Text

def quoteChar (c : Char) : List Char :=
  match c with
  | '"' => ['\\', '"']
  | '\\' => ['\\', '\\']
  | '\n' => ['\\', 'n']
  | '\r' => ['\\', 'r']
  | '\t' => ['\\', 't']
  | '\x00' => ['\\', '0']
  | _ =>
    if isHidden c then '\\' :: 'u' :: '\x7b' :: Nat.toDigits 16 c.toNat ++ ['\x7d'] else [c]

/-- The literal that spells `s`. -/
def quoted (s : String) : String :=
  String.ofList ('"' :: s.toList.flatMap quoteChar ++ ['"'])

end SchemaLoom.Text
