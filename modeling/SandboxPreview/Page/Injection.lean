/-
# Injections

Fragments are added to a page at the places that its tags mark, the first of each kind. A page
without the tag gets the fragment at its start or its end, or in a new head.
-/
import SandboxPreview.Text.Basic

namespace SandboxPreview.Page

/-- A style element. -/
def styleElement (css : Text) : Text := "<style>".toList ++ css ++ "</style>".toList

/-- Styles go to the end of the head, or into a new head before the body; a page without either
stays as it is. -/
def injectStyles (page css : Text) : Text :=
  if css = [] then page
  else if Text.contains "</head>" page then
    Text.replaceFirst "</head>" (styleElement css ++ "</head>".toList) page
  else
    -- Nothing is replaced when this tag is missing too.
    Text.replaceFirst "<body>"
      ("<head>".toList ++ styleElement css ++ "</head><body>".toList) page

/-- A fragment goes to the end of the head, or into a new head at the start of the page. -/
def injectHead (page fragment : Text) : Text :=
  if Text.contains "</head>" page then
    Text.replaceFirst "</head>" (fragment ++ "\n</head>".toList) page
  else "<head>".toList ++ fragment ++ "</head>".toList ++ page

/-- A fragment goes to the start of the head, or to the start of the page. -/
def injectHeadStart (page fragment : Text) : Text :=
  if Text.contains "<head>" page then
    Text.replaceFirst "<head>" ("<head>".toList ++ fragment) page
  else fragment ++ page

/-- A fragment goes to the end of the body, or to the end of the page. -/
def injectBodyEnd (page fragment : Text) : Text :=
  if Text.contains "</body>" page then
    Text.replaceFirst "</body>" (fragment ++ "\n</body>".toList) page
  else page ++ fragment

end SandboxPreview.Page
