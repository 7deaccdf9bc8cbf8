import SchemaLoom.Json.Basic

/-!
# JSON tokens

A text is cut into tokens one character at a time. The lexer is in one of six modes; blanks
separate tokens and are dropped. A string literal is collected as pieces, characters and
escaped UTF-16 units, and spelt when its closing quote is met.
-/
namespace SchemaLoom.Json

inductive Token where
  | openArray
  | closeArray
  | openObject
  | closeObject
  | comma
  | colon
  /-- A scalar; a string literal that spells no text is `Json.unpaired`. -/
  | scalar (value : Json)

/-- A part of a string literal. -/
inductive Piece where
  | char (c : Char)
  /-- A UTF-16 unit written as an escape. -/
  | unit (n : Nat)
deriving DecidableEq, Repr

namespace Piece

def isHigh (n : Nat) : Bool := 0xD800 ≤ n && n < 0xDC00
def isLow (n : Nat) : Bool := 0xDC00 ≤ n && n < 0xE000

/-- The character a pair of surrogate units stands for. -/
def paired (high low : Nat) : Char :=
  Char.ofNat (0x10000 + (high - 0xD800) * 0x400 + (low - 0xDC00))

/-- The text of a literal, unless half of a surrogate pair stands alone in it. -/
def spell : List Piece → Option (List Char)
  | [] => some []
  | .char c :: ps => (c :: ·) <$> spell ps
  | .unit n :: ps =>
    if isHigh n then
      match ps with
      | .unit m :: qs => if isLow m then (paired n m :: ·) <$> spell qs else none
      | _ => none
    else if isLow n then none
    else (Char.ofNat n :: ·) <$> spell ps

end Piece

def isBlank (c : Char) : Bool := c == ' ' || c == '\t' || c == '\n' || c == '\r'

def isNumberChar (c : Char) : Bool :=
  c.isDigit || c == '-' || c == '+' || c == '.' || c == 'e' || c == 'E'

def hexValue? (c : Char) : Option Nat :=
  if c.isDigit then some (c.toNat - '0'.toNat)
  else if 'a' ≤ c ∧ c ≤ 'f' then some (c.toNat - 'a'.toNat + 10)
  else if 'A' ≤ c ∧ c ≤ 'F' then some (c.toNat - 'A'.toNat + 10)
  else none

/-- The character a backslash and `c` stand for. -/
def simpleEscape? (c : Char) : Option Char :=
  match c with
  | '"' => some '"'
  | '\\' => some '\\'
  | '/' => some '/'
  | 'b' => some '\x08'
  | 'f' => some '\x0c'
  | 'n' => some '\n'
  | 'r' => some '\r'
  | 't' => some '\t'
  | _ => none

end Json

namespace Decimal

def ofDigits (digits : List Char) : Nat :=
  digits.foldl (fun n c => n * 10 + (c.toNat - '0'.toNat)) 0

/-- An exponent after its mark: an optional sign and at least one digit. -/
def readExponent (cs : List Char) : Option Int :=
  let magnitude (ds : List Char) : Option Nat :=
    if ds ≠ [] ∧ ds.all Char.isDigit then some (ofDigits ds) else none
  match cs with
  | '-' :: ds => (fun n : Nat => -(n : Int)) <$> magnitude ds
  | '+' :: ds => Int.ofNat <$> magnitude ds
  | ds => Int.ofNat <$> magnitude ds

/-- A number literal without its sign: digits without a needless leading zero, then a fraction
and an exponent if wanted. -/
def readUnsigned (cs : List Char) : Option Decimal := do
  let whole := cs.takeWhile Char.isDigit
  let rest := cs.dropWhile Char.isDigit
  guard (whole ≠ [] ∧ (whole.length = 1 ∨ whole.head? ≠ some '0'))
  let (fraction, rest) ← match rest with
    | '.' :: more =>
      let digits := more.takeWhile Char.isDigit
      if digits = [] then none else some (digits, more.dropWhile Char.isDigit)
    | _ => some ([], rest)
  let exponent ← match rest with
    | [] => some 0
    | mark :: more => if mark = 'e' ∨ mark = 'E' then readExponent more else none
  return ⟨ofDigits (whole ++ fraction), exponent - fraction.length⟩

def read? (cs : List Char) : Option Decimal :=
  match cs with
  | '-' :: rest => (fun d => { d with mantissa := -d.mantissa }) <$> readUnsigned rest
  | _ => readUnsigned cs

end Decimal

namespace Json

/-- What the lexer is in the middle of; collected parts are in reverse. -/
inductive Mode where
  | idle
  | word (letters : List Char)
  | digits (chars : List Char)
  | text (pieces : List Piece)
  | escape (pieces : List Piece)
  /-- An escaped unit of which `count` digits with the value `value` have been read. -/
  | unit (pieces : List Piece) (count value : Nat)

def wordToken? (letters : List Char) : Option Token :=
  match String.ofList letters with
  | "null" => some (.scalar .null)
  | "true" => some (.scalar (.bool true))
  | "false" => some (.scalar (.bool false))
  | _ => none

def textToken (pieces : List Piece) : Token :=
  match Piece.spell pieces with
  | some cs => .scalar (.string (String.ofList cs))
  | none => .scalar .unpaired

/-- The lexer with its tokens so far in reverse. -/
structure Lexer where
  tokens : List Token
  mode : Mode

namespace Lexer

def start : Lexer := ⟨[], .idle⟩

def emit (l : Lexer) (t : Token) : Lexer := ⟨t :: l.tokens, .idle⟩

/-- A character outside of any word, number and string literal. -/
def begin (tokens : List Token) (c : Char) : Option Lexer :=
  if isBlank c then some ⟨tokens, .idle⟩
  else if c.isAlpha then some ⟨tokens, .word [c]⟩
  else if c.isDigit || c == '-' then some ⟨tokens, .digits [c]⟩
  else match c with
    | '[' => some ⟨.openArray :: tokens, .idle⟩
    | ']' => some ⟨.closeArray :: tokens, .idle⟩
    | '\x7b' => some ⟨.openObject :: tokens, .idle⟩
    | '\x7d' => some ⟨.closeObject :: tokens, .idle⟩
    | ',' => some ⟨.comma :: tokens, .idle⟩
    | ':' => some ⟨.colon :: tokens, .idle⟩
    | '"' => some ⟨tokens, .text []⟩
    | _ => none

/-- Ends a word or number at a place where neither goes on. -/
def settle (l : Lexer) : Option (List Token) :=
  match l.mode with
  | .idle => some l.tokens
  | .word letters => (· :: l.tokens) <$> wordToken? letters.reverse
  | .digits chars => (fun d => .scalar (.number d) :: l.tokens) <$> Decimal.read? chars.reverse
  | _ => none

def feed (l : Lexer) (c : Char) : Option Lexer :=
  match l.mode with
  | .idle => begin l.tokens c
  | .word letters =>
    if c.isAlpha then some { l with mode := .word (c :: letters) }
    else l.settle >>= (begin · c)
  | .digits chars =>
    if isNumberChar c then some { l with mode := .digits (c :: chars) }
    else l.settle >>= (begin · c)
  | .text pieces =>
    if c = '"' then some (l.emit (textToken pieces.reverse))
    else if c = '\\' then some { l with mode := .escape pieces }
    else if c.toNat < 0x20 then none
    else some { l with mode := .text (.char c :: pieces) }
  | .escape pieces =>
    if c = 'u' then some { l with mode := .unit pieces 0 0 }
    else (fun d => { l with mode := .text (.char d :: pieces) }) <$> simpleEscape? c
  | .unit pieces count value =>
    (fun d =>
      if count = 3 then { l with mode := .text (.unit (value * 16 + d) :: pieces) }
      else { l with mode := .unit pieces (count + 1) (value * 16 + d) }) <$> hexValue? c

end Lexer

def tokenize (cs : List Char) : Option (List Token) :=
  (cs.foldlM Lexer.feed Lexer.start >>= Lexer.settle).map List.reverse

end Json
end SchemaLoom
