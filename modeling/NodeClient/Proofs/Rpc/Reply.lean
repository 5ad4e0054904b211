import NodeClient.Json.Writer
import NodeClient.Rpc.Reply

/-! Which lines are the reply to a request, and why any other line is none. -/

namespace NodeClient

/-- The line is a JSON object with this integer for its id, without an error, and with this
result. -/
def Answers (line : Text) (id : Int) (v : Json.Value) : Prop :=
  ∃ members, Json.read line = .ok (.obj members) ∧
    Json.findMember? "id" members = some (.int id) ∧
    (Json.findMember? "error" members = none ∨ Json.findMember? "error" members = some .null) ∧
    Json.findMember? "result" members = some v

/-- The line of a reply that holds a result. -/
def replyLine (id : Int) (v : Json.Value) : Text :=
  (Json.Value.obj [("result", v), ("id", .int id)]).compact

/-- The value that an error code was read from. -/
def ErrorCode.value : ErrorCode → Json.Value
  | .int n => .int n
  | .bool b => .bool b

namespace Reply

open Json (findMember?)

variable {line : Text} {request : Int} {members fields : List (Text × Json.Value)}

/-- The message of an error object whose message member is this one. -/
inductive Message : Option Json.Value → Text → Prop where
  | absent : Message none []
  | verbatim (s : Text) : Message (some (.str s)) s
  | shown {v : Json.Value} (hv : ∀ s, v ≠ .str s) : Message (some v) v.display

/-- The line is a JSON object with the id of the request, and holds this reply. -/
inductive Correlates (line : Text) (request : Int) : Reply → Prop where
  | error {members fields : List (Text × Json.Value)} {code : Int} {message : Text}
      (hline : Json.read line = .ok (.obj members))
      (hid : findMember? "id" members = some (.int request))
      (herror : findMember? "error" members = some (.obj fields))
      (hcode : findMember? "code" fields = some (.int code))
      (hmessage : Message (findMember? "message" fields) message) :
      Correlates line request
        ⟨request, .error ⟨code, message, (findMember? "data" fields).getD .null⟩⟩
  | result {v : Json.Value} (h : Answers line request v) :
      Correlates line request ⟨request, .result v⟩

def HasBody (members : List (Text × Json.Value)) : Prop :=
  findMember? "result" members ≠ none ∨ findMember? "error" members ≠ none

def LacksId (members : List (Text × Json.Value)) : Prop :=
  findMember? "id" members = none ∨ findMember? "id" members = some .null

/-- The line is an object without an id, whose error object has this code. -/
def Uncorrelated (line : Text) (code : ErrorCode) : Prop :=
  ∃ members fields, Json.read line = .ok (.obj members) ∧ LacksId members ∧
    findMember? "error" members = some (.obj fields) ∧
    findMember? "code" fields = some code.value

/-- Why the line is no reply to the request, and the error code that is told along with it. -/
inductive Misses (line : Text) (request : Int) : ReplyFault → Option ErrorCode → Prop where
  | notJson {fault : Json.Fault} (hline : Json.read line = .error fault) :
      Misses line request (.notJson request line) none
  | notObject {payload : Json.Value} (hline : Json.read line = .ok payload)
      (hobject : ∀ members, payload ≠ .obj members) :
      Misses line request (.notResponse request line) none
  | noBody {members : List (Text × Json.Value)} (hline : Json.read line = .ok (.obj members))
      (hbody : ¬ HasBody members) : Misses line request (.notResponse request line) none
  | errorWithoutId {members fields : List (Text × Json.Value)}
      (hline : Json.read line = .ok (.obj members)) (hid : LacksId members)
      (herror : findMember? "error" members = some (.obj fields)) :
      Misses line request
        (.noId request (memberText (.obj fields) "code" ++ ": " ++
          memberText (.obj fields) "message")) (errorCode? (.obj fields))
  | bodyWithoutId {members : List (Text × Json.Value)}
      (hline : Json.read line = .ok (.obj members)) (hid : LacksId members)
      (hbody : HasBody members)
      (herror : ∀ fields, findMember? "error" members ≠ some (.obj fields)) :
      Misses line request (.noId request (preview line)) none
  | otherId {members : List (Text × Json.Value)} {id : Json.Value}
      (hline : Json.read line = .ok (.obj members)) (hbody : HasBody members)
      (hid : findMember? "id" members = some id) (hnull : id ≠ .null) (hother : id ≠ .int request) :
      Misses line request (.otherId request id.literal) none
  | malformedError {members : List (Text × Json.Value)} {e : Json.Value}
      (hline : Json.read line = .ok (.obj members))
      (hid : findMember? "id" members = some (.int request))
      (herror : findMember? "error" members = some e) (hnull : e ≠ .null)
      (hobject : ∀ fields, e ≠ .obj fields) :
      Misses line request (.malformedError request line) none
  | errorCode {members fields : List (Text × Json.Value)}
      (hline : Json.read line = .ok (.obj members))
      (hid : findMember? "id" members = some (.int request))
      (herror : findMember? "error" members = some (.obj fields))
      (hcode : ∀ n, findMember? "code" fields ≠ some (.int n)) :
      Misses line request (.errorCode request line) none
  | neither {members : List (Text × Json.Value)} (hline : Json.read line = .ok (.obj members))
      (hid : findMember? "id" members = some (.int request))
      (herror : findMember? "error" members = some .null)
      (hresult : findMember? "result" members = none) :
      Misses line request (.neither request line) none

/-! Members -/

theorem message_iff {found : Option Json.Value} {message : Text} :
    Message found message ↔ (found.getD (.str [])).display = message := by
  constructor
  · rintro (_ | s | _) <;> rfl
  · rintro rfl
    cases found with
    | none => exact .absent
    | some v =>
      cases v with
      | str s => exact .verbatim s
      | _ => exact .shown (by simp)

theorem errorCode?_eq_some_iff {code : ErrorCode} :
    errorCode? (.obj fields) = some code ↔ findMember? "code" fields = some code.value := by
  have hcode : (Json.Value.obj fields).get? "code" = findMember? "code" fields := rfl
  rw [errorCode?, hcode]
  cases findMember? "code" fields with
  | none => simp
  | some v => cases v <;> cases code <;> simp [ErrorCode.value]

theorem HasBody.of_result {v : Json.Value} (h : findMember? "result" members = some v) :
    HasBody members := .inl (by simp [h])

theorem HasBody.of_error {e : Json.Value} (h : findMember? "error" members = some e) :
    HasBody members := .inr (by simp [h])

theorem isResponse_iff : isResponse (.obj members) = true ↔ HasBody members := by
  simp [isResponse, HasBody, Json.Value.get?, Option.isSome_iff_ne_none]

/-! Each line is read as it should be -/

theorem Correlates.read {reply : Reply} (h : Correlates line request reply) :
    Reply.read line request = .ok reply := by
  cases h with
  | error hline hid herror hcode hmessage =>
    have hbody := isResponse_iff.mpr (.of_error herror)
    simp [Reply.read, hline, hbody, Json.Value.get?, hid, readBody, herror, readError, hcode,
      message_iff.mp hmessage, Except.map]
  | result h =>
    obtain ⟨members, hline, hid, herror, hresult⟩ := h
    have hbody := isResponse_iff.mpr (.of_result hresult)
    rcases herror with herror | herror <;>
      simp [Reply.read, hline, hbody, Json.Value.get?, hid, readBody, herror, hresult, Except.map]

theorem read_of_lacksId (hline : Json.read line = .ok (.obj members)) (hbody : HasBody members)
    (hid : LacksId members) :
    Reply.read line request = refuseWithoutId (.obj members) request line := by
  have hresponse := isResponse_iff.mpr hbody
  rcases hid with hid | hid <;> simp [Reply.read, hline, hresponse, Json.Value.get?, hid]

theorem read_of_id (hline : Json.read line = .ok (.obj members)) (hbody : HasBody members)
    (hid : findMember? "id" members = some (.int request)) :
    Reply.read line request = (readBody (.obj members) request line).map (⟨request, ·⟩) := by
  have hresponse := isResponse_iff.mpr hbody
  simp [Reply.read, hline, hresponse, Json.Value.get?, hid]

theorem Misses.read {fault : ReplyFault} {code : Option ErrorCode}
    (h : Misses line request fault code) :
    Reply.read line request = refuse fault request line code := by
  cases h with
  | notJson hline => simp [Reply.read, hline]
  | @notObject payload hline hobject =>
    have hresponse : isResponse payload = false := by
      cases payload with
      | obj members => exact absurd rfl (hobject members)
      | _ => rfl
    simp [Reply.read, hline, hresponse]
  | noBody hline hbody =>
    have hresponse := Bool.eq_false_iff.mpr (mt isResponse_iff.mp hbody)
    simp [Reply.read, hline, hresponse]
  | errorWithoutId hline hid herror =>
    rw [read_of_lacksId hline (.of_error herror) hid]
    simp [refuseWithoutId, Json.Value.get?, herror]
  | @bodyWithoutId members hline hid hbody herror =>
    rw [read_of_lacksId hline hbody hid, refuseWithoutId]
    split
    · rename_i fields hfields
      exact absurd hfields (herror fields)
    · rfl
  | @otherId members id hline hbody hid hnull hother =>
    have hresponse := isResponse_iff.mpr hbody
    have hget : (Json.Value.obj members).get? "id" = some id := hid
    cases id with
    | null => exact absurd rfl hnull
    | int n =>
      have hn : n ≠ request := fun h => hother (congrArg _ h)
      simp [Reply.read, hline, hresponse, hget, hn]
    | _ => simp [Reply.read, hline, hresponse, hget]
  | @malformedError members e hline hid herror hnull hobject =>
    rw [read_of_id hline (.of_error herror) hid]
    have hget : (Json.Value.obj members).get? "error" = some e := herror
    cases e with
    | null => exact absurd rfl hnull
    | obj fields => exact absurd rfl (hobject fields)
    | _ => simp [readBody, hget, readError, refuse, Except.map]
  | @errorCode members fields hline hid herror hcode =>
    rw [read_of_id hline (.of_error herror) hid]
    have hget : (Json.Value.obj members).get? "error" = some (.obj fields) := herror
    simp [readBody, hget, readError, refuse, Except.map]
  | @neither members hline hid herror hresult =>
    rw [read_of_id hline (.of_error herror) hid]
    simp [readBody, Json.Value.get?, herror, hresult, refuse, Except.map]

/-! Every line is read one way or the other -/

theorem correlates_or_misses_of_id (hline : Json.read line = .ok (.obj members))
    (hbody : HasBody members) (hid : findMember? "id" members = some (.int request)) :
    (∃ reply, Correlates line request reply) ∨ ∃ fault code, Misses line request fault code := by
  cases herror : findMember? "error" members with
  | none =>
    obtain ⟨v, hresult⟩ := Option.ne_none_iff_exists'.mp (hbody.resolve_right (absurd herror ·))
    exact .inl ⟨_, .result ⟨members, hline, hid, .inl herror, hresult⟩⟩
  | some e =>
    cases e with
    | null =>
      cases hresult : findMember? "result" members with
      | none => exact .inr ⟨_, _, .neither hline hid herror hresult⟩
      | some v => exact .inl ⟨_, .result ⟨members, hline, hid, .inr herror, hresult⟩⟩
    | obj fields =>
      by_cases hcode : ∃ n, findMember? "code" fields = some (.int n)
      · obtain ⟨n, hcode⟩ := hcode
        exact .inl ⟨_, .error hline hid herror hcode (message_iff.mpr rfl)⟩
      · exact .inr ⟨_, _, .errorCode hline hid herror (not_exists.mp hcode)⟩
    | _ => exact .inr ⟨_, _, .malformedError hline hid herror (by simp) (by simp)⟩

theorem correlates_or_misses (line : Text) (request : Int) :
    (∃ reply, Correlates line request reply) ∨ ∃ fault code, Misses line request fault code := by
  cases hline : Json.read line with
  | error fault => exact .inr ⟨_, _, .notJson hline⟩
  | ok payload =>
    by_cases hobject : ∃ members, payload = .obj members
    case neg => exact .inr ⟨_, _, .notObject hline (not_exists.mp hobject)⟩
    obtain ⟨members, rfl⟩ := hobject
    by_cases hbody : HasBody members
    case neg => exact .inr ⟨_, _, .noBody hline hbody⟩
    by_cases hlacks : LacksId members
    · by_cases herror : ∃ fields, findMember? "error" members = some (.obj fields)
      · obtain ⟨fields, herror⟩ := herror
        exact .inr ⟨_, _, .errorWithoutId hline hlacks herror⟩
      · exact .inr ⟨_, _, .bodyWithoutId hline hlacks hbody (not_exists.mp herror)⟩
    · obtain ⟨hmissing, hnull⟩ := not_or.mp hlacks
      obtain ⟨id, hid⟩ := Option.ne_none_iff_exists'.mp hmissing
      by_cases hsame : id = .int request
      · exact correlates_or_misses_of_id hline hbody (hsame ▸ hid)
      · exact .inr ⟨_, _, .otherId hline hbody hid (fun h => hnull (h ▸ hid)) hsame⟩

theorem read_eq_ok_iff {reply : Reply} :
    Reply.read line request = .ok reply ↔ Correlates line request reply := by
  refine ⟨fun h => ?_, Correlates.read⟩
  obtain ⟨reply', hreply⟩ | ⟨fault, code, hmisses⟩ := correlates_or_misses line request
  · obtain rfl := Except.ok.inj (hreply.read.symm.trans h)
    exact hreply
  · cases hmisses.read.symm.trans h

theorem Misses.code_unique {fault fault' : ReplyFault} {code code' : Option ErrorCode}
    (h : Misses line request fault code) (h' : Misses line request fault' code') : code = code' := by
  have hsame := Except.error.inj (h.read.symm.trans h'.read)
  exact (Failure.protocol.inj hsame).2.2.2

theorem Misses.code_iff {fault : ReplyFault} {code : Option ErrorCode}
    (h : Misses line request fault code) (c : ErrorCode) :
    code = some c ↔ Uncorrelated line c := by
  constructor
  · intro hcode
    cases h with
    | errorWithoutId hline hid herror =>
      exact ⟨_, _, hline, hid, herror, errorCode?_eq_some_iff.mp hcode⟩
    | _ => cases hcode
  · rintro ⟨members, fields, hline, hid, herror, hcode⟩
    rw [h.code_unique (.errorWithoutId hline hid herror)]
    exact errorCode?_eq_some_iff.mpr hcode

/-- A line is read as the reply that it holds to the request; any other line is refused, with the
request and the line in the failure, and with the code of an error object that has no id. -/
theorem read_correlates (line : Text) (request : Int) :
    (∀ reply, Reply.read line request = .ok reply ↔ Correlates line request reply) ∧
      ((∃ reply, Correlates line request reply) ∨ ∃ fault code,
        Misses line request fault code ∧
        Reply.read line request = .error (.protocol fault (some request) (some line) code) ∧
        ∀ c, code = some c ↔ Uncorrelated line c) := by
  refine ⟨fun _ => read_eq_ok_iff, ?_⟩
  obtain hreply | ⟨fault, code, hmisses⟩ := correlates_or_misses line request
  · exact .inl hreply
  · exact .inr ⟨fault, code, hmisses, hmisses.read, hmisses.code_iff⟩

/-! What is known of a line that was read, or refused -/

theorem answers_of_read {reply : Reply} {v : Json.Value}
    (h : Reply.read line request = .ok reply) (hbody : reply.body = .result v) :
    Answers line request v := by
  cases read_eq_ok_iff.mp h with
  | error => cases hbody
  | result hanswers =>
    obtain rfl := ReplyBody.result.inj hbody
    exact hanswers

theorem json_of_read {reply : Reply} (h : Reply.read line request = .ok reply) :
    ∃ v, Json.read line = .ok v := by
  cases read_eq_ok_iff.mp h with
  | error hline => exact ⟨_, hline⟩
  | result hanswers =>
    obtain ⟨members, hline, -⟩ := hanswers
    exact ⟨_, hline⟩

/-- The failure says that this line is no reply to this request. -/
def Refuses (f : Failure) (request : Int) (line : Text) : Prop :=
  ∃ fault code, f = .protocol fault (some request) (some line) code

theorem refuses_of_read {f : Failure} (h : Reply.read line request = .error f) :
    Refuses f request line := by
  obtain ⟨reply, hreply⟩ | ⟨fault, code, hmisses⟩ := correlates_or_misses line request
  · cases hreply.read.symm.trans h
  · exact ⟨fault, code, (Except.error.inj (hmisses.read.symm.trans h)).symm⟩

end Reply

end NodeClient
