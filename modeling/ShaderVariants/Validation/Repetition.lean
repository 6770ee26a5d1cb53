import ShaderVariants.Location

/-!
# Repetitions

Finding what occurs more than once in a list, under a key by which items count as equal.
-/

namespace ShaderVariants.Repetition

variable {α β : Type} [DecidableEq β]

/-- The first item of each key that is not among those already seen. -/
def firstsFrom (key : α → β) (seen : List β) : List α → List α
  | [] => []
  | item :: rest =>
    if key item ∈ seen then firstsFrom key seen rest
    else item :: firstsFrom key (key item :: seen) rest

/-- The first item of each key, in order. -/
def firsts (key : α → β) (items : List α) : List α := firstsFrom key [] items

/-- The first item of each key that occurs more than once, in order. -/
def repeated (key : α → β) (items : List α) : List α :=
  (firsts key items).filter fun item => 1 < items.countP fun other => key other = key item

/-- Where the last item of a key was written, if that is known. -/
def lastLocation (key : α → β) (location : α → Option Location) (wanted : β)
    (items : List α) : Option Location :=
  (items.reverse.find? fun item => key item = wanted).bind location

end ShaderVariants.Repetition
