import SchemaLoom.Json.Basic

/-!
# Writing JSON

Values are written on one line or indented by two blanks a level. In strings the quote, the
backslash and the control characters below the blank are escaped, all else stands as it is.
-/
namespace SchemaLoom

/-- Digits followed by the power of ten, left out when it is zero. -/
def Decimal.render (d : Decimal) : String :=
  if d.exponent = 0 then toString d.mantissa
  else toString d.mantissa ++ "e" ++ toString d.exponent

namespace Json

def hexDigit (n : Nat) : Char :=
  if n < 10 then Char.ofNat ('0'.toNat + n) else Char.ofNat ('a'.toNat + (n - 10))

def escapeChar (c : Char) : List Char :=
  match c with
  | '"' => ['\\', '"']
  | '\\' => ['\\', '\\']
  | '\n' => ['\\', 'n']
  | '\r' => ['\\', 'r']
  | '\t' => ['\\', 't']
  | '\x08' => ['\\', 'b']
  | '\x0c' => ['\\', 'f']
  | _ =>
    if c.toNat < 0x20 then
      ['\\', 'u', '0', '0', hexDigit (c.toNat / 16), hexDigit (c.toNat % 16)]
    else [c]

def quote (s : String) : String :=
  String.ofList ('"' :: s.toList.flatMap escapeChar ++ ['"'])

/-- The literal of a value that is neither an array nor an object. -/
def renderScalar : Json → String
  | .bool true => "true"
  | .bool false => "false"
  | .number d => d.render
  | .string s => quote s
  | .unpaired => "\"\\ud800\""
  | _ => "null"

mutual
def render : Json → String
  | .array items => "[" ++ renderItems items ++ "]"
  | .object fields => "\x7b" ++ renderFields fields ++ "\x7d"
  | v => v.renderScalar

def renderItems : List Json → String
  | [] => ""
  | [v] => v.render
  | v :: vs => v.render ++ "," ++ renderItems vs

def renderFields : List (String × Json) → String
  | [] => ""
  | [(k, v)] => quote k ++ ":" ++ v.render
  | (k, v) :: fs => quote k ++ ":" ++ v.render ++ "," ++ renderFields fs
end

def newline (level : Nat) : String := "\n" ++ String.ofList (List.replicate (2 * level) ' ')

mutual
/-- The value with one item or field a line, opened at the given level of indentation. -/
def prettyAt (level : Nat) : Json → String
  | .array [] => "[]"
  | .array items => "[" ++ prettyItems (level + 1) items ++ newline level ++ "]"
  | .object [] => "\x7b\x7d"
  | .object fields => "\x7b" ++ prettyFields (level + 1) fields ++ newline level ++ "\x7d"
  | v => v.renderScalar

def prettyItems (level : Nat) : List Json → String
  | [] => ""
  | [v] => newline level ++ v.prettyAt level
  | v :: vs => newline level ++ v.prettyAt level ++ "," ++ prettyItems level vs

def prettyFields (level : Nat) : List (String × Json) → String
  | [] => ""
  | [(k, v)] => newline level ++ quote k ++ ": " ++ v.prettyAt level
  | (k, v) :: fs =>
    newline level ++ quote k ++ ": " ++ v.prettyAt level ++ "," ++ prettyFields level fs
end

def pretty (v : Json) : String := v.prettyAt 0

end Json
end SchemaLoom
