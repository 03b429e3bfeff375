/-
# Libraries

Where the libraries that a linked script may import are loaded from, and the style sheets that
some of them expect on the page.
-/
import SandboxPreview.Json.Printer

namespace SandboxPreview.Linking

/-- The address of the compiler that runs linked scripts in the page. -/
def compilerAddress : Text := "https://unpkg.com/@babel/standalone/babel.min.js"

/-- The address of the utility styles. -/
def stylesAddress : Text := "https://cdn.tailwindcss.com"

/-- The names that may be imported and their addresses. -/
def libraries : List (String × Json) :=
  [("react", .ofString "https://esm.sh/react@18.2.0"),
   ("react-dom", .ofString "https://esm.sh/react-dom@18.2.0"),
   ("react-dom/client", .ofString "https://esm.sh/react-dom@18.2.0/client"),
   ("clsx", .ofString "https://esm.sh/clsx"),
   ("tailwind-merge", .ofString "https://esm.sh/tailwind-merge"),
   ("date-fns", .ofString "https://esm.sh/date-fns"),
   ("lodash", .ofString "https://esm.sh/lodash"),
   ("axios", .ofString "https://esm.sh/axios"),
   ("uuid", .ofString "https://esm.sh/uuid"),
   ("framer-motion", .ofString "https://esm.sh/framer-motion@10.16.4"),
   ("lucide-react", .ofString "https://esm.sh/lucide-react@0.263.1"),
   ("recharts", .ofString "https://esm.sh/recharts@2.10.3"),
   ("react-icons", .ofString "https://esm.sh/react-icons@4.10.1"),
   ("react-icons/fa", .ofString "https://esm.sh/react-icons@4.10.1/fa"),
   ("react-icons/md", .ofString "https://esm.sh/react-icons@4.10.1/md"),
   ("react-icons/fi", .ofString "https://esm.sh/react-icons@4.10.1/fi"),
   ("react-icons/bi", .ofString "https://esm.sh/react-icons@4.10.1/bi"),
   ("react-icons/ai", .ofString "https://esm.sh/react-icons@4.10.1/ai"),
   ("react-icons/bs", .ofString "https://esm.sh/react-icons@4.10.1/bs"),
   ("react-slick", .ofString "https://esm.sh/react-slick@0.29.0"),
   ("slick-carousel", .ofString "https://esm.sh/slick-carousel@1.8.1"),
   ("swiper", .ofString "https://esm.sh/swiper@10.0.0"),
   ("swiper/react", .ofString "https://esm.sh/swiper@10.0.0/react"),
   ("swiper/css", .ofString "https://esm.sh/swiper@10.0.0/css"),
   ("react-markdown", .ofString "https://esm.sh/react-markdown@9.0.0"),
   ("three", .ofString "https://esm.sh/three@0.154.0"),
   ("@react-three/fiber", .ofString "https://esm.sh/@react-three/fiber@8.13.0"),
   ("@react-three/drei", .ofString "https://esm.sh/@react-three/drei@9.77.0")]

/-- The element that tells the page where imported names are found. -/
def importMap : Text :=
  "<script type=\"importmap\">".toList ++
    Json.render (.record [("imports", .record libraries)]) ++ "</script>".toList

/-- Words in a source that show a library, and the style sheets the library expects. -/
def styleSheets : List (Text × List Text) :=
  [("slick",
    ["https://cdnjs.cloudflare.com/ajax/libs/slick-carousel/1.6.0/slick.min.css",
     "https://cdnjs.cloudflare.com/ajax/libs/slick-carousel/1.6.0/slick-theme.min.css"])]

/-- The element that loads a style sheet. -/
def styleLink (address : Text) : Text :=
  "<link rel=\"stylesheet\" type=\"text/css\" href=\"".toList ++ address ++ "\" />".toList

/-- The elements for the style sheets that some of the sources call for. -/
def styleLinks (sources : List Text) : List Text :=
  styleSheets.flatMap fun (needle, addresses) =>
    if sources.any (Text.contains needle) then addresses.map styleLink else []

end SandboxPreview.Linking
