/-
# Extraction

The files of a model reply: those of its delimited blocks, or, when it has none, those of its
fenced blocks. Extraction never fails; a reply without blocks has no files.
-/
import SandboxPreview.Reply.Delimited
import SandboxPreview.Reply.Fenced

namespace SandboxPreview.Reply

/-- The files of a reply, in the order of their blocks. -/
def extract (reply : Text) : List Artifact :=
  match delimited reply with
  | [] => fenced reply
  | artifacts => artifacts

end SandboxPreview.Reply
