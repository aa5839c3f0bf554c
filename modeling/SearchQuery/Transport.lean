import SearchQuery.Payload
import SearchQuery.Request

/-!
# Transport

What carries a request to the engine.  This one holds its answers in memory: the same response to
every search and the same body to every statement, or a failure in place of both.  It keeps a record
of what it was given, whether it had an answer to it or not.
-/

namespace SearchQuery

structure Answers where
  response : Response := {}
  body : Json := .array []
  failure : Option String := none
  deriving Inhabited

def Answers.unlessFailing {β : Type} (a : Answers) (answer : Except Error β) : Except Error β :=
  match a.failure with
  | some reason => .error (.transport reason)
  | none => answer

/-- A request as the transport is given it. -/
inductive Call where
  | search (request : Request)
  | sql (text : String) (mode : AnswerMode)

/-- Canned answers, and the calls so far with the latest last. -/
structure Transport extends Answers where
  calls : List Call := []

namespace Transport

def record (t : Transport) (call : Call) : Transport :=
  { t with calls := t.calls ++ [call] }

def search (t : Transport) (request : Request) : Except Error Response × Transport :=
  let t := t.record (.search request)
  (t.unlessFailing (.ok t.response), t)

def sql (t : Transport) (text : String) (mode : AnswerMode) : Except Error Payload × Transport :=
  let t := t.record (.sql text mode)
  (t.unlessFailing (Payload.ofJson mode t.body), t)

end Transport

end SearchQuery
