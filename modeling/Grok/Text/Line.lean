import Grok.Text.Basic

namespace Grok.Text

/-- The lines of a text. A line ends at a line feed, or at a carriage return and the line feed after
it; the text after the last end is a line only if it is not empty. -/
def lines : Text → List Text
  | [] => []
  | '\r' :: '\n' :: rest => [] :: lines rest
  | c :: rest =>
    if c = '\n' then [] :: lines rest
    else
      match lines rest with
      | [] => [[c]]
      | line :: more => (c :: line) :: more

end Grok.Text
