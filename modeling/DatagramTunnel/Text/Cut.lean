/-!
# Cutting texts at a separator

`splitFirst` and `splitLast` cut a list in two around one separator, `splitLastMark` around several
elements in a row, and `fields` cuts it into all the parts between separators. Each is pinned down
by how its parts join up again.
-/

namespace DatagramTunnel.Text

variable {α : Type} [DecidableEq α]

/-- The parts before and after the first separator. -/
def splitFirst (separator : α) : List α → Option (List α × List α)
  | [] => none
  | c :: rest =>
    if c = separator then some ([], rest)
    else (splitFirst separator rest).map fun (before, after) => (c :: before, after)

/-- The parts before and after the last separator. -/
def splitLast (separator : α) : List α → Option (List α × List α)
  | [] => none
  | c :: rest => match splitLast separator rest with
    | some (before, after) => some (c :: before, after)
    | none => if c = separator then some ([], rest) else none

/-- The parts before and after the last place where all of `mark` stands. -/
def splitLastMark (mark : List α) : List α → Option (List α × List α)
  | [] => none
  | c :: rest => match splitLastMark mark rest with
    | some (before, after) => some (c :: before, after)
    | none => if mark.isPrefixOf (c :: rest) then some ([], (c :: rest).drop mark.length) else none

/-- The parts between separators; there is one more of them than of separators. -/
def fields (separator : α) (text : List α) : List (List α) :=
  match text with
  | [] => [[]]
  | c :: rest =>
    if c = separator then [] :: fields separator rest
    else match fields separator rest with
      | [] => [[c]]
      | part :: parts => (c :: part) :: parts

/-- The parts with the separator between neighbours. -/
def join (separator : List α) : List (List α) → List α
  | [] => []
  | [part] => part
  | part :: parts => part ++ separator ++ join separator parts

/-- Cuts a list into pieces of `size` elements, the last one shorter. -/
def chunks (size : Nat) (items : List α) : List (List α) :=
  match items with
  | [] => []
  | item :: rest => (item :: rest.take (size - 1)) :: chunks size (rest.drop (size - 1))
termination_by items.length
decreasing_by simp only [List.length_drop, List.length_cons]; omega

end DatagramTunnel.Text
