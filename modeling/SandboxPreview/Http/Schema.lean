/-
# Request bodies

What the bodies of requests stand for. A body is read as JSON when its media type says so, else
it is a text; then it is checked against what the endpoint needs, and all problems are reported.
-/
import SandboxPreview.Artifact
import SandboxPreview.Console.Message
import SandboxPreview.Http.Message

namespace SandboxPreview.Http

/-- The part of a body in problems. -/
def bodyPlace : List Place := [.field "body"]

/-- The media type says that a body is JSON. -/
def isJsonType (header : Text) : Bool :=
  let mediaType := Text.lower (Text.trim (header.takeWhile (· != ';')))
  match Text.splitOn '/' mediaType with
  | [main, sub] =>
    main == "application".toList && (sub == "json".toList || Text.endsWith "+json" sub)
  | _ => false

/-- The response to a body that cannot be read at all. -/
def unreadableBody : Response := .detail 400 "There was an error parsing the body"

/-- The response to a body that is not JSON. -/
def syntaxResponse (e : Json.ParseError) : Response :=
  match e.cause with
  -- These are no faults of the syntax, and come without a place.
  | .integerTooLong _ | .nestedTooDeep _ => unreadableBody
  | cause =>
    ⟨422, .json (.record [("detail", .array [.record [
      ("type", .ofString "json_invalid"),
      ("loc", .array [.ofString "body", .ofNat e.position]),
      ("msg", .ofString "JSON decode error"),
      ("input", .object []),
      ("ctx", .record [("error", .text cause.message)])]])]), none, none⟩

/-- The value of a body in JSON, in the encoding that its bytes tell. -/
def readJson (body : ByteArray) : Except Response Json :=
  match Text.decode? body.toList with
  | none => .error unreadableBody
  | some text => (Json.parseChars text).mapError syntaxResponse

/-- The body is JSON in which a surrogate stands alone, as it is or written by an escape. -/
def holdsLoneSurrogate (r : Request) (body : ByteArray) : Bool :=
  (r.header? "content-type").any isJsonType &&
    (Text.decode? body.toList).any fun text =>
      (Text.hasLone body.toList || Json.hasLoneEscape false text) && (Json.parseChars text).isOk

/-- The value of a body; none when there is no body. A body that is not read as JSON is the text
of its bytes. A body that is refused comes with the response to it. -/
def readBody (r : Request) (body : ByteArray) : Except Response (Option Json) :=
  if body.isEmpty then .ok none
  else if (r.header? "content-type").any isJsonType then (readJson body).map some
  else .ok (some (.text (Text.decodeUtf8 body.toList)))

/-- A place as it is reported. -/
def placeJson : Place → Json
  | .field name => .text name
  | .item index => .ofNat index

/-- A member that is not shown in reports: its name starts with `_sa`. -/
def isHidden (name : Text) : Bool := "_sa".toList.isPrefixOf name

mutual
/-- A value as it is reported: without hidden members, at any depth. -/
def reported : Json → Json
  | .array items => .array (reportedItems items)
  | .object members => .object (reportedMembers members)
  | value => value
/-- Items as they are reported. -/
def reportedItems : List Json → List Json
  | [] => []
  | item :: items => reported item :: reportedItems items
/-- Members as they are reported. -/
def reportedMembers : List (Text × Json) → List (Text × Json)
  | [] => []
  | (name, value) :: members =>
    if isHidden name then reportedMembers members
    else (name, reported value) :: reportedMembers members
end

/-- A problem as it is reported. -/
def issueJson (i : Issue) : Json :=
  .record ([("type", .text i.problem.code), ("loc", .array (i.place.map placeJson)),
    ("msg", .text i.problem.message), ("input", reported i.input)] ++
    (match i.problem.context? with
      | some context => [("ctx", context)]
      | none => []))

/-- The response to a body that has problems. -/
def issuesResponse (issues : List Issue) : Response :=
  ⟨422, .json (.record [("detail", .array (issues.map issueJson))]), none, none⟩

/-- A check of a body that has to be there. -/
def requiredBody {α : Type} (check : Json → Checked α) : Option Json → Checked α
  | some value => check value
  | none => .fail .missing bodyPlace .null

/-- A check of an object. -/
def objectBody {α : Type} (check : Json → Checked α) (value : Json) : Checked α :=
  match value with
  | .object _ => check value
  | _ => .fail .notObject bodyPlace value

/-- A body that holds a model reply. -/
def replyBody : Option Json → Checked Text :=
  requiredBody <| objectBody <| Checked.required .text bodyPlace "text"

/-- What a preview is made from. -/
inductive PreviewSource where
  | reply (reply : Text)
  | artifacts (artifacts : List Artifact)

/-- A check of a value that may be null. -/
def nullable {α : Type} (check : List Place → Json → Checked α) (place : List Place) :
    Json → Checked (Option α)
  | .null => .ok none
  | value => (check place value).map some

/-- A check of a list of artifacts. -/
def checkArtifacts (place : List Place) : Json → Checked (List Artifact)
  | .array items =>
    Checked.all (items.mapIdx fun i item => Artifact.check .notObject (place ++ [.item i]) item)
  | value => .fail .notList place value

/-- Exactly one of a reply and a list of artifacts. -/
def oneSource (value : Json) : Option Text × Option (List Artifact) → Checked PreviewSource
  | (some reply, none) => .ok (.reply reply)
  | (none, some artifacts) => .ok (.artifacts artifacts)
  | _ => .fail .notOneSource bodyPlace value

/-- A body that holds what a preview is made from. Whether there is exactly one source is only
asked when both fields are valid. -/
def sourceBody : Option Json → Checked PreviewSource :=
  requiredBody <| objectBody fun value =>
    (Checked.both Prod.mk
      (.defaulted (nullable .text) bodyPlace "text" none value)
      (.defaulted (nullable checkArtifacts) bodyPlace "artifacts" none value)).bind
      (oneSource value)

/-- A check of a mapping from texts to texts. -/
def checkTexts (place : List Place) : Json → Checked (Keyed Text)
  | .object members =>
    Checked.all (members.map fun (name, value) =>
      (Checked.text (place ++ [.field name]) value).map fun text => (name, text))
  | value => .fail .notMapping place value

/-- A body that holds the metadata of a session, all of which may be left out. -/
def metadataBody : Option Json → Checked (Keyed Text)
  | none | some .null => .ok []
  | some value => objectBody (Checked.defaulted checkTexts bodyPlace "metadata" []) value

/-- A body that holds a console message. -/
def messageBody : Option Json → Checked Console.Message :=
  requiredBody (Console.Message.check .notObject bodyPlace)

end SandboxPreview.Http
