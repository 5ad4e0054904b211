import NodeClient.Proofs.CommandLine.Escape
import NodeClient.Proofs.Json.LineMarks
import NodeClient.Proofs.Text.Encoded

/-! An item of the inventory on the command line and in a file. Two runs that ask for the same item
in the two ways differ in one of their words, and in the marks at the ends of the lines that they
read for JSON; neither makes a difference to what they do. -/

namespace NodeClient

/-! The text of the file -/

def itemFile : Text := "item.json"

theorem Path.read_itemFile : read itemFile = ⟨[], [itemFile]⟩ := by decide

theorem FileTree.bytes_itemFile {t : FileTree} {bytes : Bytes}
    (h : t.at? (t.workingDirectory ++ [itemFile]) = some (.file bytes)) :
    t.bytes ⟨[], [itemFile]⟩ = .ok bytes := by
  have htext : Path.text ⟨[], [itemFile]⟩ = itemFile := rfl
  have hencodes : (Utf8.encodeSmuggling? itemFile).isNone = false := by decide
  have hnul : (itemFile.any fun c => c.val == 0) = false := by decide
  have hlength : byteLength itemFile = 9 := by decide
  have hup : itemFile ≠ ".." := by decide
  simp [FileTree.bytes, find, htext, hencodes, hnul, hlength, follow, hup, h]

/-- This world with a file for an item. -/
def World.holding (w : World) (item : Bytes) : World :=
  let files := w.surroundings.files
  let entries := (files.workingDirectory ++ [itemFile], .file item) :: files.entries
  { w with surroundings := { w.surroundings with files := { files with entries := entries } } }

namespace Invocation

variable {s : Surroundings} {name text : Text} {path : Path} {bytes : Bytes} {v : Json.Value}

theorem itemText_self (h : text.head? ≠ some fileMark) : itemText s text = .ok text := by
  unfold itemText
  split
  · rfl
  · rename_i c name
    have hc : c ≠ CodePoint.ofChar '@' := by simpa [fileMark] using h
    exact if_pos (bne_iff_ne.mpr hc)

theorem itemText_file (hpath : (Path.read name).expand s.homes = .ok path)
    (hfile : s.files.bytes path = .ok bytes) (hbytes : Utf8.encode? text = some bytes) :
    itemText s (fileMark :: name) = .ok (Text.universalNewlines text) := by
  simp [itemText, fileMark, hpath, hfile, fileText, Utf8.decode?_encode? hbytes]

theorem readItem_eq_ok : readItem text = .ok v ↔ Json.read text = .ok v := by
  unfold readItem
  split <;> simp_all

/-- JSON text is the same item on the command line and in a file. -/
theorem checkedItem_file (hread : Json.read text = .ok v)
    (hpath : (Path.read name).expand s.homes = .ok path)
    (hfile : s.files.bytes path = .ok bytes) (hbytes : Utf8.encode? text = some bytes) :
    checkedItem s (fileMark :: name) = checkedItem s text := by
  have hmark : text.head? ≠ some fileMark :=
    (Json.read_eq_ok_iff.mp hread).head?_ne (by decide) (by decide)
  have hinline : readItem text = .ok v := readItem_eq_ok.mpr hread
  have hlines : readItem (Text.universalNewlines text) = .ok v :=
    readItem_eq_ok.mpr (Json.read_universalNewlines.mpr hread)
  simp only [checkedItem, itemText_self hmark, itemText_file hpath hfile hbytes, hinline, hlines,
    bind, Except.bind]

end Invocation

/-! The words around an item -/

namespace CommandLine

/-- What begins like no option and like no name of a command. -/
def IsItem (item : Text) : Prop := ∃ c rest, item = c :: rest ∧ c ≠ hyphen ∧ c.isLetter = false

namespace IsItem

variable {item : Text}

theorem ne_doubleHyphen (h : IsItem item) : item ≠ doubleHyphen := by
  obtain ⟨c, rest, rfl, hhyphen, -⟩ := h
  intro heq
  exact hhyphen (List.cons.inj heq).1

theorem ne_name (h : IsItem item) {name : Text} (hname : name.head?.any CodePoint.isLetter = true) :
    item ≠ name := by
  obtain ⟨c, rest, rfl, -, hletter⟩ := h
  rintro rfl
  rw [List.head?_cons, Option.any_some, hletter] at hname
  cases hname

theorem readWord (h : IsItem item) (known : Spellings) : readWord known item = .argument := by
  obtain ⟨c, rest, rfl, hhyphen, -⟩ := h
  cases rest with
  | nil => rfl
  | cons d rest => exact if_pos (bne_iff_ne.mpr hhyphen)

/-- No command has this name. -/
theorem readCommand (h : IsItem item) (words : List Text) :
    readCommand item words = .error .usage := by
  have hraw : item ≠ rawWord := h.ne_name (by decide)
  have hnone : Method.ofName? item = none := by
    refine List.find?_eq_none.mpr fun m _ hm => h.ne_name ?_ (of_decide_eq_true hm).symm
    cases m <;> decide
  rw [CommandLine.readCommand, if_neg hraw, hnone]

end IsItem

/-- What two command lines come to that differ in an item only: the same thing, or a command for the
inventory with the same options and either item. -/
inductive Alike (item item' : Text) : Reading Invocation → Reading Invocation → Prop where
  | same (reading : Reading Invocation) : Alike item item' reading reading
  | items (o : Options) : Alike item item' (.ok ⟨o, .inventory item⟩) (.ok ⟨o, .inventory item'⟩)

def inventoryWord : Text := "inventory"

theorem readWord_inventoryWord (known : Spellings) : readWord known inventoryWord = .argument := rfl

/-- With no operand left to read, an item has no place. -/
theorem readOperands_item {item : Text} (h : IsItem item) {o : Operands} {ended strange : Bool}
    (after : List Text) :
    readOperands o ended 0 strange (item :: after) = readOperands o ended 0 true after := by
  rw [readOperands, h.readWord, ite_self]

theorem readCommand_inventoryWord {item : Text} (h : IsItem item) (after : List Text) :
    readCommand inventoryWord (item :: after) =
      (readOperands .one false 0 false after).bind fun found =>
        if found.2 || !found.1.isEmpty then .error .usage else .ok (.inventory item) := by
  have hcommand : inventoryWord ≠ rawWord := by decide
  have hmethod : Method.ofName? inventoryWord = some .inventory := by decide
  have htaken : readOperands .one false 1 false (item :: after) =
      (readOperands .one false 0 false after).map fun found => (item :: found.1, found.2) := by
    simp [readOperands, h.readWord, h.ne_doubleHyphen, Operands.admits]
  rw [readCommand, if_neg hcommand, hmethod]
  dsimp only [operandsOf, placed, Operands.most]
  rw [htaken]
  rcases readOperands .one false 0 false after with refusal | ⟨more, strange⟩
  · rfl
  · cases strange <;> cases more <;> rfl

section Words

variable {item item' : Text} (h : IsItem item) (h' : IsItem item') (before after : List Text)
include h h'

/-- A command that comes before takes the name of this one for an operand, and then no operand is
welcome any more. -/
theorem readOperands_items {o : Operands} {ended : Bool} {room : Nat} {strange : Bool}
    (hroom : room ≤ o.most) :
    readOperands o ended room strange (before ++ inventoryWord :: item :: after) =
      readOperands o ended room strange (before ++ inventoryWord :: item' :: after) := by
  induction before generalizing ended room strange with
  | nil =>
    have hfirst : inventoryWord ≠ doubleHyphen := by decide
    rw [List.nil_append, List.nil_append]
    unfold readOperands
    rw [readWord_inventoryWord, ite_self]
    cases room with
    | zero =>
      dsimp only
      rw [readOperands_item h, readOperands_item h']
    | succ room =>
      cases o with
      | none => cases hroom
      | one =>
        obtain rfl : room = 0 := Nat.le_zero.mp (Nat.le_of_succ_le_succ hroom)
        dsimp only
        rw [readOperands_item h, readOperands_item h']
      | upToTwoIntegers =>
        have hinteger : Operands.upToTwoIntegers.admits inventoryWord = false := by decide
        simp [hfirst, hinteger]
  | cons w before ih =>
    simp only [List.cons_append, readOperands]
    generalize (if ended then Word.argument else CommandLine.readWord helpSpellings w) = word
    cases word with
    | argument =>
      cases room with
      | zero => exact ih (Nat.zero_le _)
      | succ room =>
        have hless : room ≤ o.most := Nat.le_of_succ_le hroom
        simp only [ih hless]
    | endOfOptions => exact ih hroom
    | unknown => 
      dsimp only
      split
      · exact ih (Nat.zero_le _)
      · exact ih hroom
    | ambiguous | switch => rfl

theorem placed_items (o : Operands) :
    placed o (before ++ inventoryWord :: item :: after) =
      placed o (before ++ inventoryWord :: item' :: after) := by
  rw [placed, placed, readOperands_items h h' before after (Nat.le_refl _)]

theorem readCommand_items (name : Text) :
    readCommand name (before ++ inventoryWord :: item :: after) =
      readCommand name (before ++ inventoryWord :: item' :: after) := by
  simp only [readCommand, placed_items h h']

/-- Options and commands before the name of this one are read without a look at the item. -/
theorem readMain_items (o : Options) (awaiting : Option Switch) (strange : Bool) :
    Alike item item' (readMain o awaiting strange (before ++ inventoryWord :: item :: after))
      (readMain o awaiting strange (before ++ inventoryWord :: item' :: after)) := by
  induction before generalizing o awaiting strange with
  | nil =>
    rw [List.nil_append, List.nil_append]
    unfold readMain
    rw [readWord_inventoryWord]
    cases awaiting with
    | some switch =>
      -- the name of the command is the value of an option, so the item stands for a command
      dsimp only
      unfold readMain
      rw [h.readWord, h'.readWord]
      dsimp only
      rw [h.readCommand, h'.readCommand]
      exact .same _
    | none =>
      dsimp only
      rw [readCommand_inventoryWord h, readCommand_inventoryWord h']
      rcases readOperands .one false 0 false after with refusal | found
      · exact .same _
      · dsimp only [Except.bind]
        split
        · exact .same _
        · cases strange
          · exact .items o
          · exact .same _
  | cons w before ih =>
    simp only [List.cons_append]
    unfold readMain
    cases awaiting with
    | some switch =>
      cases readWord mainSpellings w with
      | argument => exact ih _ _ _
      | _ => exact .same _
    | none =>
      cases readWord mainSpellings w with
      | argument =>
        dsimp only
        rw [readCommand_items h h']
        exact .same _
      | unknown => exact ih _ _ _
      | endOfOptions | ambiguous => exact .same _
      | switch switch joined => 
        dsimp only
        split
        · exact ih _ _ _
        · exact ih _ _ _
        · split
          · exact .same _
          · split
            · exact .same _
            · exact ih _ _ _

theorem read_items : Alike item item' (read (before ++ inventoryWord :: item :: after))
    (read (before ++ inventoryWord :: item' :: after)) := by
  have hends {item : Text} (h : IsItem item) : isEndOfOptions item = false := by
    rw [isEndOfOptions, h.readWord]
  have hclear {item : Text} (h : IsItem item) : isAmbiguous item = false := by
    rw [isAmbiguous, h.readWord]
  have hspoils : ((before ++ inventoryWord :: item :: after).takeWhile
        fun w => !isEndOfOptions w).any isAmbiguous =
      ((before ++ inventoryWord :: item' :: after).takeWhile
        fun w => !isEndOfOptions w).any isAmbiguous := by
    induction before with
    | nil =>
      have hword : isEndOfOptions inventoryWord = false := by decide
      simp [hword, hends h, hends h', hclear h, hclear h']
    | cons w before ih =>
      simp only [List.cons_append, List.takeWhile_cons]
      cases isEndOfOptions w with
      | true => rfl
      | false => simp only [Bool.not_false, if_true, List.any_cons, ih]
  unfold CommandLine.read
  rw [hspoils]
  split
  · exact .same _
  · exact readMain_items h h' before after noOptions none false

end Words

/-! The two runs -/

theorem isItem_of_read {text : Text} {members : List (Text × Json.Value)}
    (h : Json.read text = .ok (.obj members)) : IsItem text := by
  obtain ⟨c, rest, rfl, hc⟩ := Json.starts_of_read_obj h
  refine ⟨c, rest, rfl, ?_⟩
  rcases hc with hspace | rfl
  · have hmark : Json.isWordMark c = false := Json.isWordMark_eq_false_of_isSpace hspace
    simp only [Json.isWordMark, Bool.or_eq_false_iff, beq_eq_false_iff_ne] at hmark
    exact ⟨hmark.1.1.2, hmark.1.1.1.2⟩
  · decide

theorem isItem_fileMark (name : Text) : IsItem (Invocation.fileMark :: name) :=
  ⟨_, name, rfl, by decide, by decide⟩

/-- Runs come to the same when their items do. -/
theorem Alike.run_eq {w : World} {item item' : Text} {words words' : List Text}
    (h : Alike item item' (read words) (read words'))
    (hitem : Invocation.checkedItem w.surroundings item =
      Invocation.checkedItem w.surroundings item') :
    (run w words).map Prod.snd = (run w words').map Prod.snd := by
  have hperform (o : Options) : Invocation.perform w ⟨o, .inventory item⟩ =
      Invocation.perform w ⟨o, .inventory item'⟩ := by
    simp only [Invocation.perform, hitem]
  have hrun (o : Options) : Invocation.run w ⟨o, .inventory item⟩ =
      Invocation.run w ⟨o, .inventory item'⟩ := by
    rw [Invocation.run, Invocation.run, hperform]
  unfold run
  generalize read words = reading at h ⊢
  generalize read words' = reading' at h ⊢
  cases h with
  | same => rfl
  | items o => exact congrArg Except.ok (hrun o)

/-- A JSON object is the same item on the command line and in a file: whatever the other words are,
the two runs end alike, and with the same bytes sent, the same output and the same log. -/
theorem itemFile_runs_as_inline {w : World} {text : Text} {members : List (Text × Json.Value)}
    {bytes : Bytes} (hread : Json.read text = .ok (.obj members))
    (hbytes : Utf8.encode? text = some bytes)
    (hfile : w.surroundings.files.at? (w.surroundings.files.workingDirectory ++ [itemFile]) =
      some (.file bytes)) (before after : List Text) :
    (run w (before ++ inventoryWord :: (Invocation.fileMark :: itemFile) :: after)).map Prod.snd =
      (run w (before ++ inventoryWord :: text :: after)).map Prod.snd := by
  have hpath (homes : Path.Homes) : (Path.read itemFile).expand homes = .ok ⟨[], [itemFile]⟩ := by
    rw [Path.read_itemFile]
    rfl
  refine Alike.run_eq (read_items (isItem_fileMark itemFile) (isItem_of_read hread) before after) ?_
  exact Invocation.checkedItem_file hread (hpath _) (FileTree.bytes_itemFile hfile) hbytes

/-- An item with CR LF at the end of its first line, and a lone CR at the end of its second. -/
def returningItem : Text := "\x7b\r\n\"block\":\r\x7b\x7d\x7d"

theorem itemFile_runs_as_inline_returning :
    let bytes := returningItem.flatMap Utf8.encodeCodePoint
    let w := (World.answering [replyLine 1 (.bool true)]).holding bytes
    ∃ journal,
      (run w ["--address", "h:1", "inventory", "@item.json"]).map Prod.snd = .ok (.ok 0, journal) ∧
      (run w ["--address", "h:1", "inventory", returningItem]).map Prod.snd =
        .ok (.ok 0, journal) := by
  intro bytes w
  let i : Invocation := ⟨⟨.text "h:1", .absent, false, false⟩, .inventory returningItem⟩
  have hread : read ["--address", "h:1", "inventory", returningItem] = .ok i := rfl
  have hcode : (i.run w).1 = .ok 0 := toOption_eq_some.mp (by decide +kernel)
  have hitem : Json.read returningItem = .ok (.obj [("block", .obj [])]) :=
    toOption_eq_some.mp (by decide +kernel)
  have hbytes : Utf8.encode? returningItem = some bytes := by decide +kernel
  have hfile : w.surroundings.files.at? (w.surroundings.files.workingDirectory ++ [itemFile]) =
      some (.file bytes) := by decide +kernel
  have hsame := itemFile_runs_as_inline hitem hbytes hfile ["--address", "h:1"] []
  cases hstep : i.run w with
  | mk outcome journal =>
    rw [hstep] at hcode
    obtain rfl : outcome = .ok 0 := hcode
    have hinline : (run w ["--address", "h:1", "inventory", returningItem]).map Prod.snd =
        .ok (.ok 0, journal) := map_eq_ok.mpr ⟨_, run_eq_ok.mpr ⟨hread, hstep⟩, rfl⟩
    exact ⟨journal, hsame.trans hinline, hinline⟩

end CommandLine

end NodeClient
