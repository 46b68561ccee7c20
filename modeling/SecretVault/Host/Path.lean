import SecretVault.Text.CodePoint

/-!
File paths. A path keeps its parts as they were written, but for empty parts and single points,
which mean nothing; two points are kept.
-/

namespace SecretVault

def slash : CodePoint := .ofChar '/'

/-- Cuts a text at every slash. -/
def splitSlash : CodePoints → List CodePoints
  | [] => [[]]
  | p :: s =>
    match splitSlash s with
    | [] => [[p]]
    | part :: parts => if p == slash then [] :: part :: parts else (p :: part) :: parts

/-- A path: the slashes it begins with, and its parts. -/
structure Path where
  root : CodePoints
  parts : List CodePoints
  deriving DecidableEq

namespace Path

/-- The slashes that a path begins with. Two are kept, any other number counts as one. -/
def rootOf (s : CodePoints) : CodePoints :=
  match s.takeWhile (· == slash) with
  | [] => ""
  | [_, _] => "//"
  | _ => "/"

def ofText (s : CodePoints) : Path where
  root := rootOf s
  parts := (splitSlash s).filter fun part => part != "" && part != "."

/-- Writes a path; the empty one is a point. -/
def text (p : Path) : CodePoints :=
  if p.root == "" && p.parts.isEmpty then "." else p.root ++ List.intercalate "/" p.parts

def parent (p : Path) : Path :=
  { p with parts := p.parts.dropLast }

/-- The path followed by another one, or that one if it begins with a slash. -/
def join (p q : Path) : Path :=
  if q.root == "" then { p with parts := p.parts ++ q.parts } else q

/-- Whether the path starts from the root folder. -/
def isAbsolute (p : Path) : Bool :=
  p.root != ""

end Path

end SecretVault
