import NodeClient.Json.Value
import NodeClient.Number.Shortest

/-!
JSON text of a value, all of it ASCII: on one line without blanks, or indented by two spaces a
level. As in the reader, no bound is set to the depth of nesting, where a runtime gives up on values
that are nested deeper than its calls may be.
-/

namespace NodeClient.Json

def numberWords : NumberWords := ⟨"NaN", "Infinity"⟩

def unitEscape (unit : Nat) : Text := CodePoint.backslash :: CodePoint.ofChar 'u' :: Text.hex 4 unit

/-- The letters that stand for control characters after a backslash. -/
def shortEscapes : List (Nat × CodePoint) :=
  [(0x08, 'b'), (0x09, 't'), (0x0A, 'n'), (0x0C, 'f'), (0x0D, 'r')]

/-- Code points above U+FFFF become two code units. -/
def escaped (c : CodePoint) : Text :=
  if c = CodePoint.quote || c = CodePoint.backslash then [CodePoint.backslash, c]
  else match shortEscapes.lookup c.val with
    | some letter => [CodePoint.backslash, letter]
    | none =>
      if 0x20 ≤ c.val && c.val < 0x7F then [c]
      else if c.val < 0x10000 then unitEscape c.val
      else unitEscape (0xD800 + (c.val - 0x10000) / 0x400) ++
        unitEscape (0xDC00 + (c.val - 0x10000) % 0x400)

def stringText (s : Text) : Text := CodePoint.quote :: s.flatMap escaped ++ [CodePoint.quote]

/-- What stands after a colon, and before an item at a depth. -/
structure Layout where
  afterColon : Text
  lineAt : Nat → Text

def compactLayout : Layout := ⟨[], fun _ => []⟩

def indentedLayout : Layout :=
  ⟨" ", fun depth => CodePoint.newline :: List.replicate (2 * depth) (CodePoint.ofChar ' ')⟩

def comma : Text := ","
def colon : Text := ":"

namespace Value

mutual

def write (layout : Layout) (depth : Nat) : Value → Text
  | .null => "null"
  | .bool true => "true"
  | .bool false => "false"
  | .int n => Text.ofInt n
  | .float x => x.written numberWords
  | .str s => stringText s
  | .arr [] => "[]"
  | .arr (v :: rest) =>
    CodePoint.ofChar '[' :: layout.lineAt (depth + 1) ++ v.write layout (depth + 1) ++
      writeItems layout (depth + 1) rest ++ layout.lineAt depth ++ [CodePoint.ofChar ']']
  | .obj [] => [CodePoint.ofChar '{', CodePoint.ofChar '}']
  | .obj ((k, v) :: rest) =>
    CodePoint.ofChar '{' :: layout.lineAt (depth + 1) ++ stringText k ++ colon ++
      layout.afterColon ++ v.write layout (depth + 1) ++ writeMembers layout (depth + 1) rest ++
      layout.lineAt depth ++ [CodePoint.ofChar '}']

def writeItems (layout : Layout) (depth : Nat) : List Value → Text
  | [] => []
  | v :: rest =>
    comma ++ layout.lineAt depth ++ v.write layout depth ++ writeItems layout depth rest

def writeMembers (layout : Layout) (depth : Nat) : List (Text × Value) → Text
  | [] => []
  | (k, v) :: rest =>
    comma ++ layout.lineAt depth ++ stringText k ++ colon ++ layout.afterColon ++
      v.write layout depth ++ writeMembers layout depth rest

end

def compact (v : Value) : Text := v.write compactLayout 0

def indented (v : Value) : Text := v.write indentedLayout 0

end Value

end NodeClient.Json
