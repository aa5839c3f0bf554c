import SearchQuery.Json.Reader
import SearchQuery.Payload.Response
import SearchQuery.Payload.Rows
import SearchQuery.Query

/-!
# Payloads

What a statement brings back: a response, if one object of hits was asked for, or a body of rows.
-/

namespace SearchQuery

inductive Payload where
  | hits (response : Response)
  | rows (body : Json)

def bodyOfBytes (bytes : ByteArray) : Except Error Json :=
  match (String.fromUTF8? bytes).bind fun text => Json.read? Json.depthLimit text.toList with
  | some body => .ok body
  | none => .error (.malformedPayload .undecodable)

namespace Payload

def ofJson (mode : AnswerMode) (body : Json) : Except Error Payload :=
  match mode with
  | .object => (Response.ofJson body).map .hits
  | .array =>
    match engineComplaint? body with
    | some message => .error (.transport message)
    | none =>
      match body with
      | .object _ => .ok (.rows body)
      | .array _ => .ok (.rows body)
      | _ => .error (.malformedPayload (.notStructured body))

/-- The number of documents that the engine has found, if the payload carries it. -/
def total? : Payload → Option UInt64
  | .hits response => some response.total
  | .rows body => rowTotal? body

end Payload

end SearchQuery
