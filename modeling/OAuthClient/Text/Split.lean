/-!
# Cutting text at separators

Splitting a list at the elements a test picks, and cutting it at the first of them. Nothing but the separators is lost:
joining the pieces with the separator gives the list back.
-/

namespace OAuthClient.Text

variable {α : Type}

/-- The pieces of a list between the elements that satisfy a test. There is always one piece more than separators, so the
empty list has one empty piece. -/
def piecesBy (p : α → Bool) : List α → List (List α)
  | [] => [[]]
  | c :: cs =>
    if p c then [] :: piecesBy p cs
    else match piecesBy p cs with
      | [] => [[c]]
      | w :: ws => (c :: w) :: ws

/-- The pieces of a list between the occurrences of a separator. -/
def pieces [BEq α] (sep : α) (cs : List α) : List (List α) :=
  piecesBy (· == sep) cs

/-- The part of a list before the first occurrence of a separator, and the part after it; `none` when there is no separator. -/
def cut [BEq α] (sep : α) : List α → List α × Option (List α)
  | [] => ([], none)
  | c :: cs =>
    if c == sep then ([], some cs)
    else let (before, after) := cut sep cs; (c :: before, after)

/-- The part of a list before the last occurrence of a separator, and the part after it; `none` when there is no separator. -/
def cutLast [BEq α] (sep : α) (cs : List α) : Option (List α × List α) :=
  match cut sep cs.reverse with
  | (_, none) => none
  | (after, some before) => some (before.reverse, after.reverse)

/-- The pieces put together again, with a separator between neighbours. -/
def join (sep : List α) : List (List α) → List α
  | [] => []
  | [w] => w
  | w :: ws => w ++ sep ++ join sep ws

/-- Removes the elements that satisfy a test from the end of a list. -/
def dropEndWhile (p : α → Bool) (cs : List α) : List α :=
  (cs.reverse.dropWhile p).reverse

/-- Removes the elements that satisfy a test from both ends of a list. -/
def trim (p : α → Bool) (cs : List α) : List α :=
  dropEndWhile p (cs.dropWhile p)

/-- What follows a given beginning of a list, when the list begins so. -/
def after? [BEq α] : List α → List α → Option (List α)
  | [], cs => some cs
  | _ :: _, [] => none
  | s :: ss, c :: cs => if s == c then after? ss cs else none

end OAuthClient.Text
