namespace MarkupLint

/-!
# Searching in a text

Texts are lists of characters here: each search walks the list once and can be
unfolded character by character.
-/

/-- What follows `start` in `text`, when `text` begins with it. -/
def afterStart? : (start text : List Char) → Option (List Char)
  | [], text => some text
  | _ :: _, [] => none
  | expected :: start, character :: text =>
      if expected = character then
        afterStart? start text
      else
        none

/-- Whether `piece` stands somewhere in the text. -/
def occursIn (piece : List Char) : List Char → Bool
  | [] => piece.isEmpty
  | character :: text =>
      piece.isPrefixOf (character :: text) || occursIn piece text

/-- The pieces of a list between the occurrences of one item. -/
def splitAtEach [DecidableEq α] (separator : α) : List α → List (List α)
  | [] => [[]]
  | item :: items =>
      match splitAtEach separator items with
      | [] => [[item]]
      | piece :: pieces =>
          if item = separator then
            [] :: piece :: pieces
          else
            (item :: piece) :: pieces

/-- The pieces in order with `separator` between neighbours. -/
def joinWith (separator : List α) : List (List α) → List α
  | [] => []
  | [piece] => piece
  | piece :: pieces => piece ++ separator ++ joinWith separator pieces

end MarkupLint
