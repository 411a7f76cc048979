/-! A tree of files and how paths lead through it. Directories are there for the files in
them, and paths start at the root of the tree. What lies around the tree is a directory that
leads nowhere else. -/
namespace HugoStory

inductive Lookup
  | file (contents : ByteArray)
  | directory
  | missing
  /-- The path goes on behind a file. -/
  | throughFile

structure FileTree where
  files : List (List (List Char) × ByteArray)

namespace FileTree

def parts : List Char → List (List Char)
  | [] => [[]]
  | c :: rest =>
    if c = '/' then [] :: parts rest
    else
      match parts rest with
      | [] => [[c]]
      | part :: others => (c :: part) :: others

def isIdle (part : List Char) : Bool := part = [] || part = ['.']

def isParent (part : List Char) : Bool := part = ['.', '.']

def ofList (files : List (String × ByteArray)) : FileTree :=
  ⟨files.map fun (path, contents) =>
    ((parts path.toList).filter (fun part => !isIdle part), contents)⟩

def node (tree : FileTree) (names : List (List Char)) : Lookup :=
  match tree.files.lookup names with
  | some contents => .file contents
  | none =>
    if names = [] ∨ tree.files.any fun file => names.isPrefixOf file.1 then .directory
    else .missing

/-- Follows parts of a path from the end of `names`, or from around the tree. -/
def walk (tree : FileTree) (names : Option (List (List Char))) : List (List Char) → Lookup
  | [] =>
    match names with
    | none => .directory
    | some names => tree.node names
  | part :: rest =>
    match names with
    | none => if isIdle part ∨ isParent part then walk tree none rest else .missing
    | some names =>
      match tree.node names with
      | .missing => .missing
      | .throughFile => .throughFile
      | .file _ => .throughFile
      | .directory =>
        if isIdle part then walk tree (some names) rest
        else if isParent part then
          walk tree (if names = [] then none else some names.dropLast) rest
        else walk tree (some (names ++ [part])) rest

/-- What a path leads to. An empty path leads nowhere, and one that starts with a slash leads
around the tree. -/
def lookup (tree : FileTree) (path : String) : Lookup :=
  match path.toList with
  | [] => .missing
  | '/' :: rest => tree.walk none (parts rest)
  | text => tree.walk (some []) (parts text)

def lastName? (path : String) : Option String :=
  match ((parts path.toList).filter fun part => !isIdle part).getLast? with
  | none => none
  | some part => if isParent part then none else some (String.ofList part)

end FileTree

end HugoStory
