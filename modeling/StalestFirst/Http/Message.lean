import StalestFirst.Http.Target

namespace StalestFirst.Http

/-! ## Requests and responses -/

/-- A request. Its headers keep their order. -/
structure Request where
  method : String
  target : Target
  headers : List (String × List UInt8)
  body : List UInt8
  deriving DecidableEq

structure Response where
  status : Nat
  type : Option String
  body : String
  deriving DecidableEq

/-- Whether a byte is a tab or shows as an ASCII character. -/
def isVisible (byte : UInt8) : Bool :=
  byte == 9 || (32 ≤ byte && byte ≤ 126)

/-- The value of a header as text, if it is ASCII that shows. -/
def headerText? (value : List UInt8) : Option String :=
  if value.all isVisible then
    some (String.ofList (value.map fun byte => Char.ofNat byte.toNat))
  else none

def isHeader (header name : String) : Bool :=
  (Text.Utf8.encode name.toList).map loweredByte == asciiBytes header

/-- The content type that a request declares first, or the empty text. -/
def Request.contentType (request : Request) : String :=
  match request.headers.find? fun field => isHeader "content-type" field.1 with
  | some (_, value) => (headerText? value).getD ""
  | none => ""

def isSuccess (status : Nat) : Bool := 200 ≤ status && status ≤ 299

namespace Response

def bare (status : Nat) : Response := ⟨status, none, ""⟩

def text (status : Nat) (body : String) : Response :=
  ⟨status, some "text/plain; charset=utf-8", body⟩

/-- The response without its body, as it is sent for the method HEAD. -/
def forMethod (response : Response) (method : String) : Response :=
  if method = "HEAD" then { response with body := "" } else response

end Response

end StalestFirst.Http
