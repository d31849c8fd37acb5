import Autoformat.Json.Value
import Autoformat.Program

/-!
# Requests over HTTP

An `Http.Request` names its method, address, headers and body, and is answered by a status and the bytes
of a body, or not at all, with a reason.
-/

namespace Autoformat.Http

/-- How a request is meant. -/
inductive Method where
  | get
  | post
  deriving DecidableEq, Repr

/-- The name of a method. -/
def Method.name : Method → String
  | .get => "GET"
  | .post => "POST"

/-- A request. -/
structure Request where
  method : Method
  url : String
  headers : List (String × String)
  body : Option Json
  /-- How long to wait for the answer, in milliseconds. -/
  timeoutMs : Nat

/-- An answer. -/
structure Response where
  status : Nat
  body : ByteArray

/-- The status tells of success. -/
def Response.isSuccess (r : Response) : Bool := 200 ≤ r.status && r.status < 300

/-- Requests and their answers, or the reason why there is none. -/
abbrev interface : Interface := ⟨Request, fun _ => Except String Response⟩

/-- A text can be the value of a header: no control character but the tab. -/
def isHeaderValue (s : String) : Bool :=
  s.toList.all fun c => (0x20 ≤ c.toNat && c.toNat ≠ 0x7F) || c = '\t'

end Autoformat.Http
