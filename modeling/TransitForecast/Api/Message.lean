import TransitForecast.Json.Printer

/-!
# TransitForecast — HTTP messages

What is asked of the HTTP interface of an aggregator, and what it answers.
-/

namespace TransitForecast.Api

/-- A request: a method, a target and a body. -/
structure Request where
  method : String
  /-- The path with its query, or a whole address. -/
  target : String
  body : String
  deriving DecidableEq, Repr

/-- What an answer holds. -/
inductive Body
  | json (value : Json)
  | plain (text : String)
  | empty

/-- The text of a body. -/
def Body.content : Body → String
  | .json value => value.compact
  | .plain text => text
  | .empty => ""

/-- An answer: a status code and a body. -/
structure Response where
  status : Nat
  body : Body

namespace Response

/-- An answer without a body. -/
def bare (status : Nat) : Response := ⟨status, .empty⟩

/-- An answer with a value. -/
def json (status : Nat) (value : Json) : Response := ⟨status, .json value⟩

/-- An answer that tells an error. -/
def error (status : Nat) (message : String) : Response :=
  .json status (.object [("error", .string message)])

end Response

end TransitForecast.Api
