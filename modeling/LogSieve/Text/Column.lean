/-!
# Columns of text

Texts cut or filled to a width. The width of a text is its number of characters.
-/

namespace LogSieve.Text

/-- Cuts a text that is longer than `width` characters; the last one kept is an ellipsis. -/
def truncate (text : String) (width : Nat) : String :=
  if text.length ≤ width then text
  else String.ofList (text.toList.take (width - 1) ++ ['…'])

/-- Fills a text up with blanks on the right. -/
def padRight (width : Nat) (text : String) : String :=
  text ++ String.ofList (List.replicate (width - text.length) ' ')

/-- Fills a text up with blanks on the left. -/
def padLeft (width : Nat) (text : String) : String :=
  String.ofList (List.replicate (width - text.length) ' ') ++ text

end LogSieve.Text
