/-!
# Domain errors

Source: domain/errors/app-error.ts. The `details` of an error, which no modelled
function passes, and the prototype chain are not represented; `name` tells the
classes apart.
-/
namespace RealtimeGameServer.Source

structure AppError where
  name : String
  message : String
  statusCode : Nat
  code : String
  deriving DecidableEq, Repr

namespace AppError

def notFound (resource : String) : AppError :=
  ⟨"NotFoundError", resource ++ " not found", 404, "NOT_FOUND"⟩

def conflict (message : String) : AppError := ⟨"ConflictError", message, 409, "CONFLICT"⟩

def unauthorized (message : String) : AppError :=
  ⟨"UnauthorizedError", message, 401, "UNAUTHORIZED"⟩

def forbidden (message : String) : AppError := ⟨"ForbiddenError", message, 403, "FORBIDDEN"⟩

def validation (message : String) : AppError :=
  ⟨"ValidationError", message, 400, "VALIDATION_ERROR"⟩

end AppError
end RealtimeGameServer.Source
