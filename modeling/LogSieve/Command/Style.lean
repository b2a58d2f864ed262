import LogSieve.Text.Column
import LogSieve.Text.Decimal

/-!
# Colours

Pieces of text in colours of a terminal, where colours are wanted.
-/

namespace LogSieve.Command

open LogSieve.Text

/-- How a piece of text looks. -/
inductive Style where
  | normal
  | bold
  | dimmed
  | red
  | green
  | yellow
  | boldRed
  | boldGreen
deriving DecidableEq, Inhabited, Repr

/-- The codes of a style. -/
def Style.codes? : Style → Option String
  | .normal => none
  | .bold => some "1"
  | .dimmed => some "2"
  | .red => some "31"
  | .green => some "32"
  | .yellow => some "33"
  | .boldRed => some "1;31"
  | .boldGreen => some "1;32"

/-- Ends every style. -/
def reset : String := "\x1b[0m"

/-- A piece of text in a style, which starts anew wherever the text itself ends it. -/
def paint (colors : Bool) (style : Style) (text : String) : String :=
  match style.codes? with
  | some codes =>
      let start := "\x1b[" ++ codes ++ "m"
      if colors then start ++ String.intercalate (reset ++ start) (text.splitOn reset) ++ reset
      else text
  | none => text

/-- A piece of text in a style, filled up on the right inside of it. -/
def paintColumn (colors : Bool) (style : Style) (width : Nat) (text : String) : String :=
  paint colors style (padRight width text)

end LogSieve.Command
