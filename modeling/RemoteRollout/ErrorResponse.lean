import RemoteRollout.Json.Decode
import RemoteRollout.ServiceError

/-!
# Error responses

The body of a response to a failed request: an object with the text of the error.
-/

namespace RemoteRollout

open Json (Tree Reader Layout)

/-- The body of a response to a failed request. -/
structure ErrorResponse where
  error : String
deriving DecidableEq, Repr, Inhabited

namespace ErrorResponse

/-- The response to an error. -/
def ofError (e : ServiceError) : ErrorResponse := ⟨e.text⟩

/-- The fields of a response that have been read. -/
structure Draft where
  error : Option String := none

/-- The shape of a response. -/
def layout : Layout Draft where
  title := "ErrorResponse"
  blank := {}
  fields := [
    .of "error" true (·.error) (fun v _ => { error := some v }) Json.readString]

/-- Reads a response. -/
def read : Reader ErrorResponse := fun depth node =>
  (layout.read depth node).map fun d => ⟨d.error.getD ""⟩

/-- The response as a tree. -/
def tree (r : ErrorResponse) : Tree := .object [("error", .string r.error)]

end ErrorResponse

end RemoteRollout
