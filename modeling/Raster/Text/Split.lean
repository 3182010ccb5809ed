/-!
# Splitting at a separator

A text with `n` separators has `n + 1` parts, some of which may be empty.
-/

namespace Raster.Text

/-- Split at every occurrence of a character; there is always a first part. -/
def splitChars (sep : Char) : List Char → List (List Char)
  | [] => [[]]
  | c :: cs =>
    match splitChars sep cs with
    | [] => [[c]]
    | part :: parts => if c = sep then [] :: part :: parts else (c :: part) :: parts

end Raster.Text
