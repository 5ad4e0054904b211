import NodeClient.Text.Printable

/-!
Text and bytes in quotation marks, with escapes for what cannot be printed. Apostrophes enclose the
text unless it holds an apostrophe and no double quote.
-/

namespace NodeClient

def quoteMark (s : Text) : CodePoint :=
  if s.contains CodePoint.apostrophe && !s.contains CodePoint.quote then CodePoint.quote
  else CodePoint.apostrophe

namespace CodePoint

def escapeLetter? (c : CodePoint) : Option CodePoint :=
  if c = newline then some (ofChar 'n')
  else if c = carriageReturn then some (ofChar 'r')
  else if c.val = 0x09 then some (ofChar 't')
  else none

def numericEscape (c : CodePoint) : Text :=
  if c.val < 0x100 then backslash :: ofChar 'x' :: Text.hex 2 c.val
  else if c.val < 0x10000 then backslash :: ofChar 'u' :: Text.hex 4 c.val
  else backslash :: ofChar 'U' :: Text.hex 8 c.val

def escaped (mark c : CodePoint) : Text :=
  if c = mark || c = backslash then [backslash, c]
  else match c.escapeLetter? with
    | some letter => [backslash, letter]
    | none => if c.isPrintable then [c] else c.numericEscape

end CodePoint

def Text.quoted (s : Text) : Text :=
  let mark := quoteMark s
  mark :: s.flatMap (CodePoint.escaped mark) ++ [mark]

/-- Bytes are quoted as the code points of their values, none above U+007E printed as itself. -/
def quotedBytes (bytes : List UInt8) : Text :=
  let s := bytes.map CodePoint.ofByte
  let mark := quoteMark s
  let piece (c : CodePoint) : Text :=
    if c.isAscii then CodePoint.escaped mark c else c.numericEscape
  CodePoint.ofChar 'b' :: mark :: s.flatMap piece ++ [mark]

end NodeClient
