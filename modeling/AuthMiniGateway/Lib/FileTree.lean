import Mathlib

/-!
# File trees

A directory is the list of its entries. A path is the list of its components, and it is resolved from a
directory without following links.
-/

structure RegularFile where
  links : Nat
  bytes : List UInt8
  deriving DecidableEq, Repr

namespace RegularFile

def length (file : RegularFile) : Nat := file.bytes.length

end RegularFile

inductive Directory where
  | empty
  | regular (name : String) (file : RegularFile) (rest : Directory)
  | symlink (name : String) (rest : Directory)
  | special (name : String) (rest : Directory)
  | directory (name : String) (inside rest : Directory)
  deriving DecidableEq, Repr

namespace Directory

inductive Entry where
  | regular (file : RegularFile)
  | symlink
  | special
  | directory (inside : Directory)
  deriving DecidableEq, Repr

def entry? : Directory → String → Option Entry
  | empty, _ => none
  | regular name file rest, wanted => if name = wanted then some (.regular file) else rest.entry? wanted
  | symlink name rest, wanted => if name = wanted then some .symlink else rest.entry? wanted
  | special name rest, wanted => if name = wanted then some .special else rest.entry? wanted
  | directory name inside rest, wanted =>
    if name = wanted then some (.directory inside) else rest.entry? wanted

def Entry.resolve : Entry → List String → Option Entry
  | entry, [] => some entry
  | .directory inside, name :: path => (inside.entry? name).bind fun entry => entry.resolve path
  | .regular _, _ :: _ => none
  | .symlink, _ :: _ => none
  | .special, _ :: _ => none

def resolve (tree : Directory) (path : List String) : Option Entry := (Entry.directory tree).resolve path

/-! ### Sizes -/

def total : Directory → Nat
  | empty => 0
  | regular _ file rest => file.length + rest.total
  | symlink _ rest => rest.total
  | special _ rest => rest.total
  | directory _ inside rest => inside.total + rest.total

end Directory
