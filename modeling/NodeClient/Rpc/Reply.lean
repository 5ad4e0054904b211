import NodeClient.Failure
import NodeClient.Json.Reader
import NodeClient.Datum.Display

/-!
Replies of a node. A line is the reply to a request when it is a JSON object with the id of that
request, an integer, and either an error object or a result.
-/

namespace NodeClient

structure ErrorObject where
  code : Int
  message : Text
  data : Json.Value

inductive ReplyBody where
  | result (v : Json.Value)
  | error (e : ErrorObject)

structure Reply where
  id : Int
  body : ReplyBody

namespace Reply

def refuse {α : Type} (fault : ReplyFault) (request : Int) (line : Text) (code : Option ErrorCode) :
    Except Failure α :=
  .error (.protocol fault (some request) (some line) code)

/-- The code of an error object, where it has an integer or a truth value for one. -/
def errorCode? (v : Json.Value) : Option ErrorCode :=
  match v.get? "code" with
  | some (.int n) => some (.int n)
  | some (.bool b) => some (.bool b)
  | _ => none

def memberText (v : Json.Value) (key : Text) : Text := ((v.get? key).getD .null).display

/-- A reply without an id belongs to the request that waits, but cannot answer it. -/
def refuseWithoutId (payload : Json.Value) (request : Int) (line : Text) : Except Failure Reply :=
  match payload.get? "error" with
  | some (.obj members) =>
    let e := Json.Value.obj members
    refuse (.noId request (memberText e "code" ++ ": " ++ memberText e "message")) request line
      (errorCode? e)
  | _ => refuse (.noId request (preview line)) request line none

def readError (e : Json.Value) (request : Int) (line : Text) : Except Failure ErrorObject :=
  match e with
  | .obj members =>
    match Json.findMember? "code" members with
    | some (.int code) =>
      .ok ⟨code, ((Json.findMember? "message" members).getD (.str [])).display,
        (Json.findMember? "data" members).getD .null⟩
    | _ => refuse (.errorCode request line) request line none
  | _ => refuse (.malformedError request line) request line none

/-- The body of a reply whose id is right. An error of null counts as none. -/
def readBody (payload : Json.Value) (request : Int) (line : Text) : Except Failure ReplyBody :=
  match payload.get? "error", payload.get? "result" with
  | some .null, some v | none, some v => .ok (.result v)
  | some .null, none | none, none => refuse (.neither request line) request line none
  | some e, _ => (readError e request line).map .error

def isResponse (payload : Json.Value) : Bool :=
  (payload.get? "result").isSome || (payload.get? "error").isSome

def read (line : Text) (request : Int) : Except Failure Reply :=
  match Json.read line with
  | .error _ => refuse (.notJson request line) request line none
  | .ok payload =>
    if !isResponse payload then refuse (.notResponse request line) request line none
    else match payload.get? "id" with
      | none | some .null => refuseWithoutId payload request line
      | some (.int id) =>
        if id = request then (readBody payload request line).map (⟨id, ·⟩)
        else refuse (.otherId request (Json.Value.int id).literal) request line none
      | some v => refuse (.otherId request v.literal) request line none

end Reply

end NodeClient
