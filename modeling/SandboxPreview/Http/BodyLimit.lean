/-
# Body limits

A request whose body is too large is turned away before it is handled. The declared length gives
an early answer, for every method, when it is made of digits. The body itself is counted while it
arrives, for the methods that send one, and handed on whole when it stays within the limit.
-/
import SandboxPreview.Http.Message

namespace SandboxPreview.Http

/-- The limits: one for paths that take model replies, one for all others. -/
structure BodyLimit where
  reply : Int := 5 * 1024 * 1024
  other : Int := 1024 * 1024

/-- The ends of paths that take model replies. -/
def replyPaths : List Text := ["/extract", "/assemble", "/projects"]

/-- The limit of a path. -/
def BodyLimit.of (l : BodyLimit) (path : Text) : Int :=
  if replyPaths.any fun ending => Text.endsWith ending path then l.reply else l.other

/-- The size of a mebibyte. -/
def mebibyte : Int := 1024 * 1024

/-- The reason given for a body that is too large. -/
def tooLarge (limit : Int) : Text :=
  "Request body too large (max ".toList ++
    (if Int.fmod limit mebibyte = 0 then Text.ofInt (Int.fdiv limit mebibyte) ++ " MB".toList
      else Text.ofInt limit ++ " bytes".toList) ++ [')']

/-- A digit: a decimal one, or a superscript. -/
def isDigitLike (c : Char) : Bool :=
  c.isDigit || c == '\xb2' || c == '\xb3' || c == '\xb9'

/-- The length that a header declares. A header that is not made of digits declares none; one
that is, but not of at most 4300 decimal digits, is a crash. -/
def declaredLength? (header? : Option Text) : Except Crash (Option Nat) :=
  match header? with
  | none => .ok none
  | some header =>
    if header ≠ [] ∧ header.all isDigitLike then
      let digits := header.takeWhile Char.isDigit
      if Json.digitLimit < digits.length then .error (.lengthTooLong digits.length)
      else if digits ≠ header then .error (.lengthNotDecimal header)
      else .ok (some (Text.ofDigits digits))
    else .ok none

/-- The body that the chunks make up after what has arrived, unless it exceeds the limit on the
way. -/
def collect (limit : Int) (body : ByteArray) : List ByteArray → Option ByteArray
  | [] => if limit < body.size then none else some body
  | chunk :: chunks =>
    -- A chunk that goes beyond the limit ends the count; the rest is not read.
    let body := body ++ chunk
    if limit < body.size then none else collect limit body chunks

/-- The methods whose bodies are counted. -/
def countedMethods : List Text := ["POST", "PUT", "PATCH"]

/-- The body of a request under a limit; none when the request is turned away. -/
def admission (limit : Int) (r : Request) : Except Crash (Option ByteArray) := do
  match ← declaredLength? (r.header? "content-length") with
  | some length => if limit < length then return none
  | none => pure ()
  if countedMethods.elem r.method then return collect limit .empty r.chunks
  else return some (r.chunks.foldl (· ++ ·) .empty)

end SandboxPreview.Http
