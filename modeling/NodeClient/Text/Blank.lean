import NodeClient.Text.Ranges
import NodeClient.Text.Basic

/-!
Blank code points: the Unicode spaces, the separators U+001C to U+001F and the line marks.
-/

namespace NodeClient

def blanks : Ranges := ⟨[
  0x9, 0xE, 0x1C, 0x21, 0x85, 0x86, 0xA0, 0xA1, 0x1680, 0x1681, 0x2000, 0x200B, 0x2028, 0x202A,
  0x202F, 0x2030, 0x205F, 0x2060, 0x3000, 0x3001]⟩

def CodePoint.isBlank (c : CodePoint) : Bool := blanks.contains c.val

namespace Text

def strip (s : Text) : Text := trim CodePoint.isBlank s

def isBlank (s : Text) : Bool := s.all CodePoint.isBlank

end Text

end NodeClient
