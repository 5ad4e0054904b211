import NodeClient.Failure
import NodeClient.Yaml.Cursor

/-!
What is wrong with a YAML text, and where: the activity in which the problem showed, the problem,
and the places of both with a snippet of the text.
-/

namespace NodeClient.Yaml

/-- What was being done when a problem showed. -/
inductive Activity where
  | nextToken
  | simpleKey
  | directive
  | anchor
  | alias
  | tag
  | tagUri
  | directiveUri
  | blockScalar
  | doubleQuoted
  | quoted
  | node
  | blockNode
  | flowNode
  | blockCollection
  | blockMapping
  | flowSequence
  | flowMapping
  | mapping
  | orderedMap
  | pairs
  | singleDocument
  | firstAnchor (name : Text)

inductive Problem where
  | cannotStart (found : CodePoint)
  | noColon
  | sequenceHere
  | keyHere
  | valueHere
  | expectedName (found : CodePoint)
  | expectedDigitOrDot (found : CodePoint)
  | expectedDigitOrSpace (found : CodePoint)
  | expectedDigit (found : CodePoint)
  | expectedSpace (found : CodePoint)
  | expectedCommentOrBreak (found : CodePoint)
  | expectedClosing (found : CodePoint)
  | expectedBang (found : CodePoint)
  | expectedUri (found : CodePoint)
  | expectedUriDigits (found : CodePoint)
  | undecodableUri
  | zeroIndentation
  | expectedIndicators (found : CodePoint)
  | expectedEscapeDigits (count : Nat) (found : CodePoint)
  | unknownEscape (found : CodePoint)
  | endOfStream
  | documentSeparator
  | expectedDocumentStart (token : Text)
  | duplicateYamlDirective
  | incompatibleVersion
  | duplicateHandle (handle : Text)
  | undefinedHandle (handle : Text)
  | expectedNode (token : Text)
  | expectedBlockEnd (token : Text)
  | expectedCommaOrBracket (token : Text)
  | expectedCommaOrBrace (token : Text)
  | undefinedAlias (name : Text)
  | secondAnchor
  | anotherDocument
  | noConstructor (tag : Text)
  | expectedScalar (found : Text)
  | expectedSequence (found : Text)
  | expectedMapping (found : Text)
  | expectedMergeMapping (found : Text)
  | expectedMerge (found : Text)
  | unhashableKey
  | expectedSequenceFor (found : Text)
  | expectedSingleMapping (found : Text)
  | expectedSingleItem (count : Nat)
  | binaryNotAscii (reason : Text)
  | binaryInvalid (reason : Text)

structure Fault where
  activity : Option (Activity × Option Mark)
  problem : Problem
  mark : Option Mark

inductive Stop where
  | fault (f : Fault)
  | unacceptable (found : CodePoint) (position : Nat)
  | broke (b : Breakdown)

abbrev Scan := Except Stop

def Activity.text : Activity → Text
  | .nextToken => "while scanning for the next token"
  | .simpleKey => "while scanning a simple key"
  | .directive => "while scanning a directive"
  | .anchor => "while scanning an anchor"
  | .alias => "while scanning an alias"
  | .tag => "while scanning a tag"
  | .tagUri => "while parsing a tag"
  | .directiveUri => "while parsing a directive"
  | .blockScalar => "while scanning a block scalar"
  | .doubleQuoted => "while scanning a double-quoted scalar"
  | .quoted => "while scanning a quoted scalar"
  | .node => "while parsing a node"
  | .blockNode => "while parsing a block node"
  | .flowNode => "while parsing a flow node"
  | .blockCollection => "while parsing a block collection"
  | .blockMapping => "while parsing a block mapping"
  | .flowSequence => "while parsing a flow sequence"
  | .flowMapping => "while parsing a flow mapping"
  | .mapping => "while constructing a mapping"
  | .orderedMap => "while constructing an ordered map"
  | .pairs => "while constructing pairs"
  | .singleDocument => "expected a single document in the stream"
  | .firstAnchor name => "found duplicate anchor " ++ name.quoted ++ "; first occurrence"

def quotedChar (c : CodePoint) : Text := Text.quoted [c]

def Problem.text : Problem → Text
  | .cannotStart c => "found character " ++ quotedChar c ++ " that cannot start any token"
  | .noColon => "could not find expected ':'"
  | .sequenceHere => "sequence entries are not allowed here"
  | .keyHere => "mapping keys are not allowed here"
  | .valueHere => "mapping values are not allowed here"
  | .expectedName c => "expected alphabetic or numeric character, but found " ++ quotedChar c
  | .expectedDigitOrDot c => "expected a digit or '.', but found " ++ quotedChar c
  | .expectedDigitOrSpace c => "expected a digit or ' ', but found " ++ quotedChar c
  | .expectedDigit c => "expected a digit, but found " ++ quotedChar c
  | .expectedSpace c => "expected ' ', but found " ++ quotedChar c
  | .expectedCommentOrBreak c => "expected a comment or a line break, but found " ++ quotedChar c
  | .expectedClosing c => "expected '>', but found " ++ quotedChar c
  | .expectedBang c => "expected '!', but found " ++ quotedChar c
  | .expectedUri c => "expected URI, but found " ++ quotedChar c
  | .expectedUriDigits c =>
    "expected URI escape sequence of 2 hexadecimal numbers, but found " ++ quotedChar c
  | .undecodableUri => "'utf-8' codec can't decode the URI escapes"
  | .zeroIndentation => "expected indentation indicator in the range 1-9, but found 0"
  | .expectedIndicators c =>
    "expected chomping or indentation indicators, but found " ++ quotedChar c
  | .expectedEscapeDigits n c =>
    "expected escape sequence of " ++ Text.ofNat n ++ " hexadecimal numbers, but found " ++
      quotedChar c
  | .unknownEscape c => "found unknown escape character " ++ quotedChar c
  | .endOfStream => "found unexpected end of stream"
  | .documentSeparator => "found unexpected document separator"
  | .expectedDocumentStart token => "expected '<document start>', but found " ++ token.quoted
  | .duplicateYamlDirective => "found duplicate YAML directive"
  | .incompatibleVersion => "found incompatible YAML document (version 1.* is required)"
  | .duplicateHandle handle => "duplicate tag handle " ++ handle.quoted
  | .undefinedHandle handle => "found undefined tag handle " ++ handle.quoted
  | .expectedNode token => "expected the node content, but found " ++ token.quoted
  | .expectedBlockEnd token => "expected <block end>, but found " ++ token.quoted
  | .expectedCommaOrBracket token => "expected ',' or ']', but got " ++ token.quoted
  | .expectedCommaOrBrace token => "expected ',' or '\x7d', but got " ++ token.quoted
  | .undefinedAlias name => "found undefined alias " ++ name.quoted
  | .secondAnchor => "second occurrence"
  | .anotherDocument => "but found another document"
  | .noConstructor tag => "could not determine a constructor for the tag " ++ tag.quoted
  | .expectedScalar found => "expected a scalar node, but found " ++ found
  | .expectedSequence found => "expected a sequence node, but found " ++ found
  | .expectedMapping found => "expected a mapping node, but found " ++ found
  | .expectedMergeMapping found => "expected a mapping for merging, but found " ++ found
  | .expectedMerge found =>
    "expected a mapping or list of mappings for merging, but found " ++ found
  | .unhashableKey => "found unhashable key"
  | .expectedSequenceFor found => "expected a sequence, but found " ++ found
  | .expectedSingleMapping found => "expected a mapping of length 1, but found " ++ found
  | .expectedSingleItem n =>
    "expected a single mapping item, but found " ++ Text.ofNat n ++ " items"
  | .binaryNotAscii reason => "failed to convert base64 data into ascii: " ++ reason
  | .binaryInvalid reason => "failed to decode base64 data: " ++ reason

/-- A line that goes on for this many code points on one side of a place is cut there. -/
def snippetReach : Nat := 37

/-- How many of the nearest code points a cut side keeps. -/
def snippetKept : Nat := 32

def dots : Text := " ... "

/-- The line around a place, cut where it is long, and a mark below the place. -/
def snippet (whole : Text) (m : Mark) : Text :=
  let before := (whole.take m.index).reverse.takeWhile fun c => !isBreakOrEnd c
  let after := (whole.drop m.index).takeWhile fun c => !isBreakOrEnd c
  let headCut : Bool := snippetReach ≤ before.length
  let tailCut : Bool := snippetReach ≤ after.length
  let shownBefore := (if headCut then before.take snippetKept else before).reverse
  let shownAfter := if tailCut then after.take snippetKept else after
  let head : Text := if headCut then dots else []
  let tail : Text := if tailCut then dots else []
  let indent : Text := "    "
  let offset := List.replicate (shownBefore.length + head.length) (CodePoint.ofChar ' ')
  indent ++ head ++ shownBefore ++ shownAfter ++ tail ++ "\n" ++ indent ++ offset ++ "^"

def Mark.text (whole : Text) (m : Mark) : Text :=
  "  in \"<unicode string>\", line " ++ Text.ofNat (m.line + 1) ++ ", column " ++
    Text.ofNat (m.column + 1) ++ ":\n" ++ snippet whole m

def samePlace (a : Mark) (b : Option Mark) : Bool :=
  match b with
  | some b => a.line == b.line && a.column == b.column
  | none => false

/-- The diagnostic, a line for each part; the place of the activity is left out where it is that of
the problem. -/
def Fault.text (whole : Text) (f : Fault) : Text :=
  let activity : List Text :=
    match f.activity with
    | none => []
    | some (a, none) => [a.text]
    | some (a, some m) => if samePlace m f.mark then [a.text] else [a.text, m.text whole]
  let place : List Text := (f.mark.map (·.text whole)).toList
  Text.joinWith [CodePoint.newline] (activity ++ [f.problem.text] ++ place)

def unacceptableText (c : CodePoint) (position : Nat) : Text :=
  let width := (Nat.toDigits 16 c.val).length
  "unacceptable character #x" ++ Text.hex (max 4 width) c.val ++
    ": special characters are not allowed\n  in \"<unicode string>\", position " ++
    Text.ofNat position

end NodeClient.Yaml
