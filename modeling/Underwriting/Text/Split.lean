/-!
Splitting a text at a separator. There is one part more than there are separators, and parts may be
empty.
-/

namespace Underwriting.Text

def splitAt (separator : Char) : List Char → List (List Char)
  | [] => [[]]
  | char :: rest =>
      if char = separator then [] :: splitAt separator rest
      else
        match splitAt separator rest with
        | [] => [[char]]
        | part :: parts => (char :: part) :: parts

def splitText (separator : Char) (text : String) : List String :=
  (splitAt separator text.toList).map String.ofList

end Underwriting.Text
