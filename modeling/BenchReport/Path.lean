
namespace BenchReport

abbrev Path := String

namespace Path

def pieces : List Char → List (List Char)
  | [] => [[]]
  | c :: cs =>
    if c = '/' then [] :: pieces cs
    else
      match pieces cs with
      | [] => [[c]]
      | p :: ps => (c :: p) :: ps

def isIdle (piece : List Char) : Bool := piece = [] ∨ piece = ['.']

def isAbsolute (p : Path) : Bool := p.toList.head? = some '/'

def join (base other : Path) : Path :=
  if isAbsolute other ∨ base.isEmpty then other
  else if base.toList.getLast? = some '/' then base ++ other
  else base ++ "/" ++ other

def dropIdle : List Char → List Char
  -- the path is spelled backwards
  | [] => []
  | ['/'] => ['/']
  | '/' :: cs => dropIdle cs
  | '.' :: '/' :: cs => dropIdle ('/' :: cs)
  | cs => cs

def meaningful (cs : List Char) : List Char := (dropIdle cs.reverse).reverse

def withoutSlashes (p : Path) : Path :=
  let kept := p.toList.reverse.dropWhile (· = '/')
  if kept.isEmpty then String.ofList (p.toList.take 1) else String.ofList kept.reverse

def fileName? (cs : List Char) : Option (List Char) :=
  let name := ((meaningful cs).reverse.takeWhile (· ≠ '/')).reverse
  if name = [] ∨ name = ['.'] ∨ name = ['.', '.'] then none else some name

def extensionLength (name : List Char) : Nat :=
  let tail := name.reverse.takeWhile (· ≠ '.')
  if tail.length + 1 < name.length then tail.length + 1 else 0

def setExtension (p : Path) (extension : String) : Path :=
  match fileName? p.toList with
  | none => p
  | some name =>
    let stem := (meaningful p.toList).take ((meaningful p.toList).length - extensionLength name)
    String.ofList stem ++ "." ++ extension

/-- A path with another extension. The one that it has is first taken off behind its dot, which may
leave a path that ends in `..` and so has no name to extend. -/
def withExtension (p : Path) (extension : String) : Path :=
  match fileName? p.toList with
  | none => p
  | some name =>
    let kept := p.toList.take (p.toList.length - (extensionLength name - 1))
    setExtension (String.ofList kept) extension

end Path

end BenchReport
