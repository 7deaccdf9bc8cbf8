import SchemaLoom.Text.Alphanumeric
import SchemaLoom.Text.Case

/-!
# Words of a name and case styles

A name is cut into words at every character that is no letter or numeral, between a small and
a capital letter, and before the last capital of a row of capitals that a small letter
follows. Numerals stay with the word they follow. The styles write the words back as
`snake_case`, `lowerCamel` and `UpperCamel`.
-/
namespace SchemaLoom.Text

/-- The case of the last cased character since the last cut. -/
inductive LetterCase where
  | uncased
  | small
  | capital
deriving DecidableEq, Repr

/-- The case after one more character. -/
def LetterCase.next (k : LetterCase) (c : Char) : LetterCase :=
  if isSmall c then .small else if isCapital c then .capital else k

/-- Cuts a run of word characters; `word` is the current word in reverse. -/
def cutRun (k : LetterCase) (word : List Char) : List Char → List (List Char)
  | [] => []
  | [c] => [(c :: word).reverse]
  | c :: d :: rest =>
    if k.next c = .small ∧ isCapital d then
      (c :: word).reverse :: cutRun .uncased [] (d :: rest)
    else if k = .capital ∧ isCapital c ∧ isSmall d then
      word.reverse :: cutRun .uncased [c] (d :: rest)
    else
      cutRun (k.next c) (c :: word) (d :: rest)

/-- The runs of word characters of a text, empty runs included. -/
def runs : List Char → List (List Char)
  | [] => [[]]
  | c :: cs =>
    match runs cs with
    | [] => [[]]
    | r :: rs => if isWordChar c then (c :: r) :: rs else [] :: r :: rs

def words (name : String) : List (List Char) :=
  (runs name.toList).flatMap (cutRun .uncased [])

/-- A word in small letters; a sigma at its end takes the final form. -/
def smallWord : List Char → List Char
  | [] => []
  | [c] => if c = 'Σ' then ['ς'] else toSmall c
  | c :: cs => toSmall c ++ smallWord cs

/-- A word with a capital in front and small letters behind. -/
def capitalWord : List Char → List Char
  | [] => []
  | c :: cs => toCapital c ++ smallWord cs

def snakeCase (name : String) : String :=
  "_".intercalate ((words name).map fun w => String.ofList (smallWord w))

def upperCamel (name : String) : String :=
  String.ofList ((words name).flatMap capitalWord)

def lowerCamel (name : String) : String :=
  match words name with
  | [] => ""
  | w :: ws => String.ofList (smallWord w ++ ws.flatMap capitalWord)

end SchemaLoom.Text
