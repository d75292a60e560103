set_option autoImplicit false

namespace FleetSearch.Text

def dropReturn : List Char -> List Char
  | '\r' :: rest => rest
  | line => line

def linesFrom : (line : List Char) -> (lines : List (List Char)) -> List Char -> List (List Char)
  | [], lines, [] => lines.reverse
  | line, lines, [] => (line.reverse :: lines).reverse
  | line, lines, '\n' :: rest => linesFrom [] ((dropReturn line).reverse :: lines) rest
  | line, lines, c :: rest => linesFrom (c :: line) lines rest

-- The lines of a text without their breaks. A break is `\n` or `\r\n`, and no line follows a break
-- at the end.
def lines (text : List Char) : List (List Char) :=
  linesFrom [] [] text

example : lines "a\r\n\nb".toList = [['a'], [], ['b']] := by decide

end FleetSearch.Text
