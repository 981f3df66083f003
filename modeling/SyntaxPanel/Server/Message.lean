import SyntaxPanel.Json.Decode

namespace SyntaxPanel

inductive RequestId where
  | number (n : Int)
  | text (s : String)
deriving DecidableEq, Repr

structure Request where
  id : RequestId
  method : String
  params : Json
deriving DecidableEq, Repr

structure Failure where
  code : Int
  message : String
  data : Option Json
deriving DecidableEq, Repr

structure Response where
  id : RequestId
  result : Option Json
  error : Option Failure
deriving DecidableEq, Repr

structure Notification where
  method : String
  params : Json
deriving DecidableEq, Repr

inductive Message where
  | request (r : Request)
  | response (r : Response)
  | notification (n : Notification)
deriving DecidableEq, Repr

namespace RequestId

def decode : Decoder RequestId
  | .str s => .ok (.text s)
  | j => (Json.decodeInt32 j).map number

def toJson : RequestId → Json
  | number n => .int n
  | text s => .str s

def listing : RequestId → String
  | number n => "RequestId(I32(" ++ toString n ++ "))"
  | text s => "RequestId(String(" ++ Text.quote s ++ "))"

end RequestId

def listRecord (name : String) (fields : List (String × String)) : String :=
  name ++ " \x7b " ++ ", ".intercalate (fields.map fun (field, value) => field ++ ": " ++ value) ++
    " \x7d"

def listOption {α : Type} (listing : α → String) : Option α → String
  | none => "None"
  | some a => "Some(" ++ listing a ++ ")"

namespace Request

def decode : Decoder Request := fun j => do
  let f ← Json.openRecord "Request" ["id", "method", "params"] j
  let id ← f.required "id" RequestId.decode
  let method ← f.required "method" Json.decodeString
  let params ← f.withDefault "params" Json.decodeAny .null
  f.close
  return { id, method, params }

def listing (r : Request) : String :=
  listRecord "Request" [("id", r.id.listing), ("method", Text.quote r.method),
    ("params", r.params.listing)]

end Request

namespace Failure

def decode : Decoder Failure := fun j => do
  let f ← Json.openRecord "ResponseError" ["code", "message", "data"] j
  let code ← f.required "code" Json.decodeInt32
  let message ← f.required "message" Json.decodeString
  let data ← f.withDefault "data" (Json.decodeOption Json.decodeAny) none
  f.close
  return { code, message, data }

def listing (e : Failure) : String :=
  listRecord "ResponseError" [("code", toString e.code), ("message", Text.quote e.message),
    ("data", listOption Json.listing e.data)]

end Failure

namespace Response

def decode : Decoder Response := fun j => do
  let f ← Json.openRecord "Response" ["id", "result", "error"] j
  let id ← f.required "id" RequestId.decode
  let result ← f.withDefault "result" (Json.decodeOption Json.decodeAny) none
  let error ← f.withDefault "error" (Json.decodeOption Failure.decode) none
  f.close
  return { id, result, error }

def listing (r : Response) : String :=
  listRecord "Response" [("id", r.id.listing), ("result", listOption Json.listing r.result),
    ("error", listOption Failure.listing r.error)]

end Response

namespace Notification

def decode : Decoder Notification := fun j => do
  let f ← Json.openRecord "Notification" ["method", "params"] j
  let method ← f.required "method" Json.decodeString
  let params ← f.withDefault "params" Json.decodeAny .null
  f.close
  return { method, params }

def listing (n : Notification) : String :=
  listRecord "Notification" [("method", Text.quote n.method), ("params", n.params.listing)]

end Notification

namespace Message

def ofJson? (j : Json) : Option Message :=
  match Request.decode j, Response.decode j, Notification.decode j with
  | .ok r, _, _ => some (.request r)
  | .error _, .ok r, _ => some (.response r)
  | .error _, .error _, .ok n => some (.notification n)
  | .error _, .error _, .error _ => none

def listing : Message → String
  | request r => "Request(" ++ r.listing ++ ")"
  | response r => "Response(" ++ r.listing ++ ")"
  | notification n => "Notification(" ++ n.listing ++ ")"

end Message

end SyntaxPanel
