import AgentReporting.Text.Split

/-! # File paths

A path is its root mark and its parts. Empty parts and single dots vanish when a
path is read; two dots stay, until the path is resolved against a directory. Symbolic links
are left out: a resolved path is what its parts say.
-/

namespace AgentReporting

structure FilePath where
  absolute : Bool
  parts : List String
deriving DecidableEq

namespace FilePath

def ofString (s : String) : FilePath :=
  let parts := (Text.pieces '/' [] s.toList).filter fun p => p != [] && p != ['.']
  ⟨s.toList.head? == some '/', parts.map String.ofList⟩

/-- The last part, empty when there is none. -/
def name (p : FilePath) : String := p.parts.getLast?.getD ""

def parent (p : FilePath) : FilePath := { p with parts := p.parts.dropLast }

/-- The name without its last suffix; a dot at either end begins no suffix. -/
def stem (p : FilePath) : String :=
  match Text.beforeLast? ['.'] p.name.toList with
  | none => p.name
  | some before =>
    if before.isEmpty || before.length + 1 == p.name.length then p.name else String.ofList before

/-- Drops the part before each pair of dots; above the root there is nothing. -/
def collapse (parts : List String) : List String :=
  (parts.foldl (fun kept part => if part == ".." then kept.tail else part :: kept) []).reverse

/-- The absolute path that `p` names, seen from `directory`. -/
def resolve (directory : FilePath) (p : FilePath) : FilePath :=
  ⟨true, collapse (if p.absolute then p.parts else directory.parts ++ p.parts)⟩

end FilePath

end AgentReporting
