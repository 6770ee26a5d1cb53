import ShaderVariants.Text.CellWidth

/-!
# Clusters

Characters that take no column of a terminal belong to the one in front of them, and so do those
that a joiner joins to it. A text is broken between such clusters only.
-/

namespace ShaderVariants.Text

/-- Characters that are shown together, and the columns that they take. -/
structure Cluster where
  characters : List Char
  width : Nat
  deriving DecidableEq, Repr

/-- The cluster with more characters, which may widen it. -/
def Cluster.add (cluster : Cluster) (characters : List Char) (width : Nat) : Cluster :=
  ⟨cluster.characters ++ characters, cluster.width + width⟩

/-- The clusters of characters and of those in front of them, which are `before`, the latest
first; `last` is the last character that may still be widened. -/
def clustersAfter (before : List Cluster) (last : Option Char) : List Char → List Cluster
  | [] => before.reverse
  | c :: rest =>
    let width := if c = joiner || c = pictorialSelector then 0 else cellWidthOf c
    match before with
    | [] => clustersAfter [⟨[c], width⟩] (if width = 0 then none else some c) rest
    | cluster :: others =>
      if c = joiner then
        match rest with
        | [] => (cluster.add [c] 0 :: others).reverse
        | joined :: rest => clustersAfter (cluster.add [c, joined] 0 :: others) last rest
      else if c = pictorialSelector then
        if last.any pictorials.contains then
          clustersAfter (cluster.add [c] 1 :: others) none rest
        else clustersAfter (cluster.add [c] 0 :: others) last rest
      else if width = 0 then clustersAfter (cluster.add [c] 0 :: others) last rest
      else clustersAfter (⟨[c], width⟩ :: before) (some c) rest

def clusters (cs : List Char) : List Cluster := clustersAfter [] none cs

/-- The clusters at the beginning that fit into a width. The rest of the width is blank where a
cluster is too wide for it. -/
def fitting (width : Nat) : List Cluster → List Char
  | [] => []
  | cluster :: rest =>
    if cluster.width ≤ width then cluster.characters ++ fitting (width - cluster.width) rest
    else List.replicate width ' '

/-- Pieces of a text, each as long as a width allows; `piece` is the beginning of the first one,
`taken` wide. -/
def choppedAfter (width : Nat) (piece : List Char) (taken : Nat) : List Cluster → List (List Char)
  | [] => [piece]
  | cluster :: rest =>
    if width < taken + cluster.width then
      piece :: choppedAfter width cluster.characters cluster.width rest
    else choppedAfter width (piece ++ cluster.characters) (taken + cluster.width) rest

/-- Pieces of a text, each as long as a width allows. -/
def chopped (width : Nat) (cs : List Char) : List (List Char) :=
  choppedAfter width [] 0 (clusters cs)

end ShaderVariants.Text
