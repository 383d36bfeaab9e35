import BenchReport.Path
import BenchReport.Text.Bytes
/-!
A disk as the files and directories that it holds, each under its place. Paths that are not absolute
start at the working directory. A name has at most 255 bytes, a whole path less than 4096, and
neither holds a NUL.
-/

namespace BenchReport

inductive DiskError where
  | notFound
  | occupied
  | notDirectory
  | isDirectory
  | nameTooLong
  | nulInName
deriving DecidableEq

namespace DiskError

def code? : DiskError → Option Nat
  | notFound => some 2
  | occupied => some 17
  | notDirectory => some 20
  | isDirectory => some 21
  | nameTooLong => some 36
  | nulInName => none

def reason : DiskError → String
  | notFound => "No such file or directory"
  | occupied => "File exists"
  | notDirectory => "Not a directory"
  | isDirectory => "Is a directory"
  | nameTooLong => "File name too long"
  | nulInName => "file name contained an unexpected NUL byte"

def message (e : DiskError) : String :=
  match e.code? with
  | some code => e.reason ++ " (os error " ++ toString code ++ ")"
  | none => e.reason

end DiskError

inductive DiskEntry where
  | directory
  | file (content : Bytes)
deriving DecidableEq

structure Place where
  text : String
deriving DecidableEq

namespace Place

def root : Place := ⟨""⟩

def child (p : Place) (name : List Char) : Place := ⟨p.text ++ "/" ++ String.ofList name⟩

def parent (p : Place) : Place :=
  ⟨String.ofList ((p.text.toList.reverse.dropWhile (· ≠ '/')).drop 1).reverse⟩

end Place

structure Disk where
  home : Place
  entries : List (Place × DiskEntry)
deriving DecidableEq

namespace Disk

def bare (names : List String) : Disk :=
  names.foldl
    (fun d name =>
      let p := d.home.child name.toList
      ⟨p, (p, .directory) :: d.entries⟩)
    ⟨.root, [(.root, .directory)]⟩

def find? (d : Disk) (p : Place) : Option DiskEntry := d.entries.lookup p

def put (d : Disk) (p : Place) (e : DiskEntry) : Disk :=
  { d with entries := (p, e) :: d.entries.filter (·.1 ≠ p) }

def checkPath (path : Path) : Except DiskError Unit :=
  if path.isEmpty then .error .notFound
  else if path.toList.any (·.toNat = 0) then .error .nulInName
  else if 4096 ≤ path.utf8ByteSize then .error .nameTooLong
  else .ok ()

def enter (d : Disk) (p : Place) (piece : List Char) : Except DiskError Place :=
  match d.find? p with
  | none => .error .notFound
  | some (.file _) => .error .notDirectory
  | some .directory =>
    if Path.isIdle piece then .ok p
    else if piece = ['.', '.'] then .ok p.parent
    else if 255 < (String.ofList piece).utf8ByteSize then .error .nameTooLong
    else .ok (p.child piece)

def start (d : Disk) (path : Path) : Place := if path.isAbsolute then .root else d.home

def locate (d : Disk) (path : Path) : Except DiskError Place := do
  checkPath path
  (Path.pieces path.toList).foldlM d.enter (d.start path)

def entryAt (d : Disk) (path : Path) : Except DiskError DiskEntry := do
  let p ← d.locate path
  match d.find? p with
  | some e => .ok e
  | none => .error .notFound

/-- Makes what is missing on the way from a place along some pieces. A name is not made when only
idle pieces follow it. A file on the way is in the way of those that follow, but once a directory
has been made each name is tried by itself, and then the file is reported instead. -/
def makeMissing (d : Disk) (made : Bool) (p : Place) :
    List (List Char) → Disk × Except DiskError Unit
  | [] => (d, if d.find? p = some .directory then .ok () else .error .occupied)
  | piece :: rest =>
    match d.enter p piece with
    | .error e =>
      if e = .notDirectory ∧ made ∧ !(piece :: rest).all Path.isIdle then (d, .error .occupied)
      else (d, .error e)
    | .ok next =>
      if (d.find? next).isSome then makeMissing d made next rest
      else if !rest.isEmpty ∧ rest.all Path.isIdle then (d, .error .notFound)
      else makeMissing (d.put next .directory) true next rest

def createDirectories (d : Disk) (path : Path) : Disk × Except DiskError Unit :=
  if path.isEmpty then (d, .ok ())
  else
    match checkPath path with
    | .error e => (d, .error e)
    | .ok () =>
      makeMissing d false (d.start path) (Path.pieces (Path.withoutSlashes path).toList)

def write (d : Disk) (path : Path) (content : Bytes) : Except DiskError Disk := do
  let p ← d.locate path
  match d.find? p with
  | some .directory => .error .isDirectory
  | _ => .ok (d.put p (.file content))

end Disk

end BenchReport
