/-! # Errors of the application and of a request -/

namespace AimailGateway

/-- The application-wide error type, without the variants no modelled function
builds. A `database` error carries the text SQLite reports. -/
inductive AppError where
  | database (message : String)
  | config (message : String)
  | smtp (message : String)
  | validation (message : String)
  | notFound (message : String)
  | forbidden (message : String)
  | badRequest (message : String)
  | conflict (message : String)
  | internal (message : String)
  | activationCodeGone (message : String)
  | attachmentTooLarge (message : String)
  deriving DecidableEq, Repr

inductive StatusCode where
  | ok
  | created
  | noContent
  | badRequest
  | unauthorized
  | forbidden
  | notFound
  | conflict
  | gone
  | preconditionFailed
  | unprocessableEntity
  | payloadTooLarge
  | tooManyRequests
  | internalServerError
  deriving DecidableEq, Repr

structure ErrorResponse where
  error : String
  detail : Option String
  deriving DecidableEq, Repr

/-- What a handler answers when it fails. -/
structure HttpError where
  status : StatusCode
  body : ErrorResponse
  deriving DecidableEq, Repr

namespace AppError

def toText : AppError → String
  | .database message => "database error: " ++ message
  | .config message => "config error: " ++ message
  | .smtp message => "smtp error: " ++ message
  | .validation message => "validation error: " ++ message
  | .notFound message => "not found: " ++ message
  | .forbidden message => "forbidden: " ++ message
  | .badRequest message => "bad request: " ++ message
  | .conflict message => "conflict: " ++ message
  | .internal message => "internal error: " ++ message
  | .activationCodeGone message => "activation code gone: " ++ message
  | .attachmentTooLarge message => "attachment too large: " ++ message

end AppError

/-- The answer most handlers give to a failed storage call. -/
def databaseError (error : AppError) : HttpError :=
  ⟨.internalServerError, "Database error", some error.toText⟩

theorem Except.error_ne_ok {error : ε} {value : α} :
    (Except.error error : Except ε α) ≠ .ok value := by
  simp

end AimailGateway
