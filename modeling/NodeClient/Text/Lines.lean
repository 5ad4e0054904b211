import NodeClient.Text.Utf8

/-!
Input text as lines.
-/

namespace NodeClient.Text

/-- Every CR becomes LF, and an LF right after a CR is dropped. -/
def newlinesFrom (afterReturn : Bool) : Text → Text
  | [] => []
  | c :: s =>
    if c = CodePoint.carriageReturn then CodePoint.newline :: newlinesFrom true s
    else if c = CodePoint.newline && afterReturn then newlinesFrom false s
    else c :: newlinesFrom false s

/-- CR LF and a lone CR become LF. -/
def universalNewlines (s : Text) : Text := newlinesFrom false s

/-- The lines that end in LF, and what follows the last of them unless it is empty. -/
def linesOf (s : Text) : List Text :=
  let pieces := splitAll CodePoint.newline s
  if pieces.getLast? = some [] then pieces.dropLast else pieces

/-- The lines of an input without the CR and LF marks at their ends. -/
def inputLines (s : Text) : List Text := (linesOf s).map dropLineEnd

/-- The text of a byte stream that may hold any bytes. -/
def ofInput (bytes : Bytes) : Text := universalNewlines (Utf8.decodeSmuggling bytes)

end NodeClient.Text
