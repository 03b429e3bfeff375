/-
# Addresses

The target of a request: a path in which any byte may be written with a percent sign, and a
query. Paths are decoded as UTF-8, where bytes that belong to no character become replacement
characters.
-/
import SandboxPreview.Json.Parser

namespace SandboxPreview.Http

/-- The bytes of a text, where a percent sign and two hexadecimal digits stand for one. -/
def percentBytes : Text → List UInt8
  | '%' :: a :: b :: text =>
    match Json.hexDigit? a, Json.hexDigit? b with
    | some high, some low => UInt8.ofNat (high * 16 + low) :: percentBytes text
    | _, _ => '%'.toUInt8 :: percentBytes (a :: b :: text)
  | c :: text => String.utf8EncodeChar c ++ percentBytes text
  | [] => []

/-- The text that a percent-encoded text stands for. -/
def percentDecode (text : Text) : Text := Text.decodeUtf8 (percentBytes text)

/-- A byte as a percent sign and two digits. -/
def percentByte (byte : UInt8) : Text :=
  '%' :: (Text.padded 16 2 byte.toNat).map Char.toUpper

/-- A character that an address holds as it is. -/
def isPlainInAddress (c : Char) : Bool :=
  c.isAlphanum || "_.-~:/%#?=@[]!$&'()*+,;".toList.elem c

/-- A text as it is written into an address. -/
def percentEncode (text : Text) : Text :=
  text.flatMap fun c =>
    if isPlainInAddress c then [c] else (String.utf8EncodeChar c).flatMap percentByte

/-- The host, the decoded path and the query that a request is sent to. -/
structure Address where
  host : Text
  path : Text
  query? : Option Text
  deriving DecidableEq

/-- The address that a request target stands for on a host. -/
def Address.ofTarget (host target : Text) : Address :=
  match Text.cut? "?" target with
  | some (path, query) => ⟨host, percentDecode path, some query⟩
  | none => ⟨host, percentDecode target, none⟩

/-- A path as it stands in an address: after a slash unless it is empty, and with the marks that
would end it written by percent signs. -/
def placePath (path : Text) : Text :=
  let rooted := if path = [] ∨ path.head? = some '/' then path else '/' :: path
  rooted.flatMap fun c =>
    if c = '?' ∨ c = '#' then (String.utf8EncodeChar c).flatMap percentByte else [c]

/-- The path as it is read back from the address: without tabs and line ends. -/
def Address.placedPath (a : Address) : Text :=
  (placePath a.path).filter fun c => c != '\t' && c != '\n' && c != '\r'

end SandboxPreview.Http
