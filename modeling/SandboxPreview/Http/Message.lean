/-
# Requests and responses

A request with its body as it arrives, in chunks of bytes, and the response to it.
-/
import SandboxPreview.Http.Address
import SandboxPreview.Text.LetterCase

namespace SandboxPreview.Http

/-- A request. The names of headers are taken in either case. -/
structure Request where
  method : Text
  target : Text
  headers : List (Text × Text) := []
  chunks : List ByteArray := []

/-- The first header of a name. -/
def Request.header? (r : Request) (name : Text) : Option Text :=
  (r.headers.find? fun entry => Text.lower entry.1 == name).map Prod.snd

/-- The address that a request is sent to. -/
def Request.address (r : Request) : Address :=
  .ofTarget ((r.header? "host").getD "localhost") r.target

/-- The body of a response. -/
inductive Body where
  | json (value : Json)
  | html (document : Text)
  /-- No body, of the type of JSON. -/
  | noJson
  /-- No body and no type. -/
  | nothing

/-- A response. -/
structure Response where
  status : Nat
  body : Body
  /-- The method that the path allows, when another one was used. -/
  allow? : Option Text := none
  /-- The address to go to instead. -/
  location? : Option Text := none

namespace Response

/-- A response with a JSON body. -/
def ok (value : Json) : Response := ⟨200, .json value, none, none⟩

/-- A response for something that was made. -/
def created (value : Json) : Response := ⟨201, .json value, none, none⟩

/-- A response for something that was removed. -/
def removed : Response := ⟨204, .noJson, none, none⟩

/-- A response that gives a reason as its detail. -/
def detail (status : Nat) (reason : Text) : Response :=
  ⟨status, .json (.record [("detail", .text reason)]), none, none⟩

end Response

/-- Why a request gets no response at all. -/
inductive Crash where
  /-- The declared length is made of digits that are not decimal. -/
  | lengthNotDecimal (header : Text)
  /-- The declared length has too many digits. -/
  | lengthTooLong (digits : Nat)
  /-- The response would hold a number that JSON cannot write. -/
  | unwritableNumber
  /-- The body holds a surrogate that stands alone. No text holds such a character, and no response
  that shows it can be sent. -/
  | loneSurrogate
  deriving DecidableEq

/-- The message of a crash. -/
def Crash.message : Crash → Text
  | .lengthNotDecimal header =>
    "invalid literal for int() with base 10: ".toList ++ (['\x27'] ++ header ++ ['\x27']).take 200
  | .lengthTooLong digits => Json.tooManyDigits digits
  | .unwritableNumber => "Out of range float values are not JSON compliant"
  | .loneSurrogate => "surrogates not allowed"

end SandboxPreview.Http
