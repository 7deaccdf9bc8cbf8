/-!
# Output paths

Two paths are the same when their components are: empty components and dots are dropped,
save a dot in front. Joining puts a relative path under a directory.
-/
namespace SchemaLoom.Output

/-- The parts of a text between the slashes. -/
def segments : List Char → List (List Char)
  | [] => [[]]
  | c :: cs =>
    if c = '/' then [] :: segments cs
    else match segments cs with
      | [] => [[c]]
      | s :: ss => (c :: s) :: ss

def isDot (segment : List Char) : Bool := segment == ['.']

/-- What a path means, apart from how it is spelt. -/
structure PathKey where
  rooted : Bool
  components : List (List Char)
deriving DecidableEq, Repr

def isRooted (path : String) : Bool := path.toList.head? = some '/'

def pathKey (path : String) : PathKey :=
  let parts := segments path.toList
  let kept := parts.filter fun s => !s.isEmpty && !isDot s
  if isRooted path then ⟨true, kept⟩
  else if (parts.head?.map isDot).getD false then ⟨false, ['.'] :: kept⟩
  else ⟨false, kept⟩

def samePath (p q : String) : Bool := pathKey p = pathKey q

def join (dir path : String) : String :=
  if isRooted path then path
  else if dir = "" || dir.toList.getLast? = some '/' then dir ++ path
  else dir ++ "/" ++ path

end SchemaLoom.Output
