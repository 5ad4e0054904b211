import NodeClient.Proofs.Json.LineMarks
import NodeClient.Proofs.Link.Send
import NodeClient.Proofs.Text.Trim

/-! The body of an answer and the line that is made of it. What the line leaves out of the body is
blank code points at its ends, and line marks; the value of the body is kept as long as all of that
is space to JSON. -/

namespace NodeClient

/-- The blank code points around the body are space to JSON, and no line mark stands inside a
token. -/
def dropsOnlySpace (body : Text) : Bool :=
  (body.takeWhile CodePoint.isBlank).all Json.isSpace &&
    (body.reverse.takeWhile CodePoint.isBlank).all Json.isSpace && Json.keepsTokens body

theorem dropsOnlySpace_iff {body : Text} : dropsOnlySpace body = true ↔
    Json.IsGap (body.takeWhile CodePoint.isBlank) ∧
      Json.IsGap (body.reverse.takeWhile CodePoint.isBlank) ∧ Json.keepsTokens body = true := by
  simp [dropsOnlySpace, Json.IsGap, and_assoc]

namespace Json

theorem isBlank_of_isSpace {c : CodePoint} (h : isSpace c = true) : c.isBlank = true := by
  have hval : c.val = 0x20 ∨ c.val = 0x09 ∨ c.val = 0x0A ∨ c.val = 0x0D := by
    simpa [isSpace, or_assoc] using h
  rw [CodePoint.isBlank]
  rcases hval with hval | hval | hval | hval <;> rw [hval] <;> decide

theorem isEdge_table (n : Fin 0x80) :
    isEdge ⟨n.val, by omega⟩ = true → blanks.contains n.val = false := by
  revert n
  decide +kernel

theorem lt_of_isEdge {c : CodePoint} (h : isEdge c = true) : c.val < 0x80 := by
  simp only [isEdge, isWordMark, CodePoint.isDigit, CodePoint.isLetter, CodePoint.isUpper,
    CodePoint.isLower, Bool.or_eq_true, Bool.and_eq_true, decide_eq_true_eq, beq_iff_eq,
    or_assoc] at h
  rcases h with h | h | h | rfl | rfl | rfl | rfl | rfl | rfl | rfl | rfl
  · omega
  · omega
  · omega
  all_goals decide

theorem not_blank_of_isEdge {c : CodePoint} (h : isEdge c = true) : c.isBlank = false :=
  isEdge_table ⟨c.val, lt_of_isEdge h⟩ h

namespace Denotes

variable {part : Part} {w : Text} {v : Value}

theorem startsFilled (h : Denotes part w v) : ∃ c tail, w = c :: tail ∧ c.isBlank = false := by
  obtain ⟨c, tail, hcons, hc, -⟩ := h.starts
  exact ⟨c, tail, hcons, not_blank_of_isEdge hc⟩

theorem endsFilled (h : Denotes part w v) : ∃ front c, w = front ++ [c] ∧ c.isBlank = false := by
  obtain ⟨front, c, hconcat, hc⟩ := h.ends
  exact ⟨front, c, hconcat, not_blank_of_isEdge hc⟩

end Denotes

/-- The space around a value is what stripping takes away. -/
theorem Padded.strip {part : Part} {s : Text} {v : Value} (h : Padded part s v) :
    Denotes part (Text.strip s) v ∧ IsGap (s.takeWhile CodePoint.isBlank) ∧
      IsGap (s.reverse.takeWhile CodePoint.isBlank) := by
  obtain ⟨before, w, after, rfl, hbefore, hafter, hw⟩ := h
  have hlead : ∀ c ∈ before, c.isBlank = true := fun c hc => isBlank_of_isSpace (hbefore c hc)
  have htrail : ∀ c ∈ after, c.isBlank = true := fun c hc => isBlank_of_isSpace (hafter c hc)
  refine ⟨?_, ?_, ?_⟩
  · rw [Text.strip_eq hlead htrail hw.startsFilled hw.endsFilled]
    exact hw
  · rw [Text.takeWhile_lead hlead hw.startsFilled]
    exact hbefore
  · have hreverse : ∃ c tail, w.reverse = c :: tail ∧ c.isBlank = false := by
      obtain ⟨front, c, rfl, hc⟩ := hw.endsFilled
      exact ⟨c, front.reverse, by simp, hc⟩
    have htake : (after.reverse ++ (w.reverse ++ before.reverse)).takeWhile CodePoint.isBlank =
        after.reverse :=
      Text.takeWhile_lead (fun c hc => htrail c (List.mem_reverse.mp hc)) hreverse
    have hwhole : (before ++ (w ++ after)).reverse =
        after.reverse ++ (w.reverse ++ before.reverse) := by simp
    rw [hwhole, htake]
    exact fun c hc => hafter c (List.mem_reverse.mp hc)

end Json

theorem bodyLine_eq_joined (body : Text) : bodyLine body = Json.joined (Text.strip body) := rfl

/-- Stripped of its blanks and without its line marks, a body is read for the same value, and a body
is malformed on their account only where one of them is no space to JSON. -/
theorem read_eq_ok_iff_bodyLine {body : Text} {v : Json.Value} :
    Json.read body = .ok v ↔ Json.read (bodyLine body) = .ok v ∧ dropsOnlySpace body = true := by
  constructor
  · intro hread
    have hpadded := Json.read_eq_ok_iff.mp hread
    obtain ⟨hw, hlead, htrail⟩ := hpadded.strip
    have hline : Json.Padded .value (bodyLine body) v :=
      ⟨[], _, [], by rw [List.append_nil]; rfl, .nil, .nil, hw.joined⟩
    have hkeeps := (Json.read_eq_ok_iff_joined.mp hread).2
    exact ⟨Json.read_eq_ok_iff.mpr hline, dropsOnlySpace_iff.mpr ⟨hlead, htrail, hkeeps⟩⟩
  · rintro ⟨hread, hspace⟩
    obtain ⟨hlead, htrail, hkeeps⟩ := dropsOnlySpace_iff.mp hspace
    obtain ⟨lead, trail, hbody, hleadMem, htrailMem⟩ := Text.exists_stripped body
    obtain ⟨before, w, after, hline, hbefore, hafter, hw⟩ := Json.read_eq_ok_iff.mp hread
    have hleadGap : Json.IsGap lead := fun c hc => hlead c (hleadMem c hc)
    have htrailGap : Json.IsGap trail := fun c hc => htrail c (htrailMem c hc)
    have hjoined : Json.joined body =
        (Json.joined lead ++ before) ++ (w ++ (after ++ Json.joined trail)) := by
      rw [bodyLine_eq_joined] at hline
      rw [hbody, Json.joined_append, Json.joined_append, hline]
      simp
    have hpadded : Json.Padded .value (Json.joined body) v :=
      ⟨_, w, _, hjoined, hleadGap.joined.append hbefore, hafter.append htrailGap.joined, hw⟩
    exact Json.read_eq_ok_iff_joined.mpr ⟨Json.read_eq_ok_iff.mpr hpadded, hkeeps⟩

theorem isLineMark_of_mem_bodyLine {body : Text} {c : CodePoint} (h : c ∈ bodyLine body) :
    c.isLineMark = false := by
  simpa using (List.mem_filter.mp h).2

/-- What is left of a body that is not blank is not blank either. -/
theorem bodyLine_filled {body : Text} (h : Text.strip body ≠ []) :
    Text.isBlank (bodyLine body) = false := by
  obtain ⟨c, hc, hfilled⟩ := Text.exists_filled_of_strip h
  have hmark : c.isLineMark = false := by
    cases hmark : c.isLineMark with
    | false => rfl
    | true =>
      rw [Json.isBlank_of_isSpace (Json.isSpace_of_isLineMark hmark)] at hfilled
      cases hfilled
  have hmem : c ∈ bodyLine body := List.mem_filter.mpr ⟨hc, by rw [hmark]; rfl⟩
  rw [Text.isBlank, List.all_eq_false]
  exact ⟨c, hmem, by rw [hfilled]; exact Bool.false_ne_true⟩

/-- The line that comes of a post, or the reason why there is none. -/
def Post.brings (address : Text) : Post → Outcome Text
  | .raises cause => .error (postStop address cause)
  | .breaks name => .error (.broke (.stated name))
  | .answer status body =>
    if Text.strip body = [] then .error (.failed (.disconnected (.emptyBody address status)))
    else .ok (bodyLine body)

/-- The post number `k` of a script; after the last one there are blank answers. -/
def postAt (posts : List Post) (k : Nat) : Post := posts[k]?.getD (.answer 200 [])

theorem postAt_zero (posts : List Post) : postAt posts 0 = posts.head?.getD (.answer 200 []) := by
  rw [postAt, List.head?_eq_getElem?]

theorem postAt_drop (posts : List Post) (n k : Nat) :
    postAt (posts.drop n) k = postAt posts (n + k) := by
  rw [postAt, postAt, List.getElem?_drop]

theorem filled_of_brings {address line : Text} {post : Post} (h : post.brings address = .ok line) :
    Text.isBlank line = false := by
  cases post with
  | raises cause => cases h
  | breaks name => cases h
  | answer status body =>
    rw [Post.brings] at h
    split at h
    · cases h
    · rename_i hfilled
      obtain rfl := Except.ok.inj h
      exact bodyLine_filled hfilled

namespace Connection

/-- The link after a post, with the lines that are queued then. -/
def posted (c : Connection) (line : Text) (bytes : Bytes) (posts : List Post)
    (replies : List Text) : Connection :=
  { (c.offered line).note (.sent bytes) with wire := .http posts replies }

variable {c : Connection} {line body : Text} {status : Int} {posts : List Post}
  {replies : List Text}

theorem send_post {bytes : Bytes} (hopen : c.closed = false) (hbytes : frame? line = some bytes)
    (hwire : c.wire = .http posts replies) :
    c.send line = (((postAt posts 0).brings c.address).map fun _ => (),
      c.posted line bytes posts.tail
        (replies ++ ((postAt posts 0).brings c.address).toOption.toList)) := by
  rw [send_http hopen hbytes hwire, sendPost, postAt_zero]
  cases posts.head?.getD (.answer 200 []) with
  | raises cause =>
    dsimp only [Post.brings, Except.map, Except.toOption, Option.toList]
    rw [List.append_nil]
    rfl
  | breaks name =>
    dsimp only [Post.brings, Except.map, Except.toOption, Option.toList]
    rw [List.append_nil]
    rfl
  | answer status body =>
    by_cases hblank : Text.strip body = []
    · simp only [Post.brings, hblank, List.isEmpty_nil, if_true]
      dsimp only [Except.map, Except.toOption, Option.toList]
      rw [List.append_nil]
      rfl
    · simp only [Post.brings, hblank, List.isEmpty_iff, if_false]
      rfl

theorem receive_queued (hwire : c.wire = .http posts (line :: replies)) :
    c.receive = { c with wire := .http posts replies }.deliver line := by
  rw [receive, hwire]

/-- An answered post queues the line of the body, unless nothing but blanks was answered. -/
theorem send_answered (hclosed : c.closed = false) (hline : (frame? line).isSome = true)
    (hwire : c.wire = .http (.answer status body :: posts) replies) :
    ∃ c', c.send line =
        (if Text.strip body = [] then .error (.failed (.disconnected (.emptyBody c.address status)))
          else .ok (), c') ∧
      c'.wire = .http posts (if Text.strip body = [] then replies else replies ++ [bodyLine body]) ∧
      c'.closed = false := by
  obtain ⟨bytes, hbytes⟩ := Option.isSome_iff_exists.mp hline
  rw [send_post hclosed hbytes hwire]
  simp only [postAt_zero, List.head?_cons, Option.getD_some, Post.brings]
  split
  · exact ⟨_, rfl, congrArg _ (List.append_nil _), hclosed⟩
  · exact ⟨_, rfl, rfl, hclosed⟩

/-- A body that is JSON arrives as one line that is read for the same value. -/
theorem send_queues_json_body {v : Json.Value} (hclosed : c.closed = false)
    (hline : (frame? line).isSome = true)
    (hwire : c.wire = .http (.answer status body :: posts) replies)
    (hbody : Json.read body = .ok v) :
    ∃ c', c.send line = (.ok (), c') ∧ c'.wire = .http posts (replies ++ [bodyLine body]) ∧
      CodePoint.newline ∉ bodyLine body ∧ CodePoint.carriageReturn ∉ bodyLine body ∧
      Text.isBlank (bodyLine body) = false ∧ Json.read (bodyLine body) = .ok v := by
  have hread := (read_eq_ok_iff_bodyLine.mp hbody).1
  have hfilled : Text.strip body ≠ [] := by
    obtain ⟨c, tail, hcons, -⟩ := (Json.read_eq_ok_iff.mp hbody).strip.1.starts
    rw [hcons]
    exact List.cons_ne_nil c tail
  have hmarks {d : CodePoint} (hd : d.isLineMark = true) : d ∉ bodyLine body := by
    intro hmem
    rw [isLineMark_of_mem_bodyLine hmem] at hd
    cases hd
  obtain ⟨c', hsend, hwire', -⟩ := send_answered hclosed hline hwire
  rw [if_neg hfilled] at hsend hwire'
  exact ⟨c', hsend, hwire', hmarks (by decide), hmarks (by decide), bodyLine_filled hfilled, hread⟩

/-- An answer with line marks between its tokens, and blanks around it. -/
theorem send_queues_json_body_lines :
    ∃ c', send ⟨"http://h:1", false, .http [.answer 200 " [1,\r\n\t\"a\"]\n"] [], []⟩ "request" =
        (.ok (), c') ∧ c'.wire = .http [] ["[1,\t\"a\"]"] := by
  let body : Text := " [1,\r\n\t\"a\"]\n"
  let c : Connection := ⟨"http://h:1", false, .http [.answer 200 body] [], []⟩
  have hline : (frame? "request").isSome = true := by decide
  have hwire : c.wire = .http [.answer 200 body] [] := rfl
  have hbody : Json.read body = .ok (.arr [.int 1, .str "a"]) := by decide +kernel
  obtain ⟨c', hsend, hwire', -⟩ := send_queues_json_body rfl hline hwire hbody
  exact ⟨c', hsend, hwire'⟩

end Connection

end NodeClient
