import ViewModel.Accessor.Compile
import ViewModel.Build.Resolve
import ViewModel.Page

/-!
An example: the catalogue of a streaming service. Films have clips, tags and perhaps a trailer; the
page greets the user and shows one tile for every film on a shelf.
-/

namespace ViewModel.Catalogue

def source : String := String.intercalate "\n"
  ["class Image:", "    url = ''", "    width = 0", "", "",
   "class Trailer:", "    url = ''", "    duration = 0.0", "", "",
   "class Extra:", "    title = ''", "    is_featured = False", "", "",
   "class Media:", "    id = 0", "    title = ''", "    poster = Image()", "", "",
   "class Movie(Media):",
   "    \"\"\"A film on a shelf.\"\"\"",
   "    is_new = False", "    rating = 0", "    extras = [Extra()]", "    tags = ['']",
   "    trailer: Trailer = None", "",
   "    @property",
   "    def has_badge(self):",
   "        return self.is_new and self.trailer is not None", "",
   "    @property",
   "    def is_top_rated(self) -> bool:",
   "        return self.rating >= 4", "",
   "    @property",
   "    def trailer_url(self):",
   "        return self.trailer.url", "",
   "    @property",
   "    def label(self):",
   "        return \"Top rated\" if self.is_top_rated else None", ""]

/-- The compiled classes. -/
def manifest : Except BuildError Manifest := do
  let ds ← Source.Declaration.ofSource "catalogue.py" source
  (← Resolve.manifest ds).compile

def layout : Layout :=
  [{ name := "header" },
    { name := "sidebar", ifAll := ["user.isSignedIn"] },
    { name := "shelf", each := "entry.shelves",
      layout := [{ name := "shelf-title" }, { name := "tile", each := "module.movies" }] },
    { name := "footer", unlessAny := ["config.hideFooter"] }]

/-- A tag of a template. -/
def tag (inside : String) : String := "\x7b\x7b" ++ inside ++ "\x7d\x7d"

/-- A block of a template. -/
def block (helper path body : String) : String :=
  tag ("#" ++ helper ++ " " ++ path) ++ body ++ tag ("/" ++ helper)

def templates : List (String × String) :=
  [("header", "<header>" ++ tag "global.siteName" ++ "</header>\n"),
    ("sidebar", "<nav>Hello, " ++ tag "user.name" ++ "</nav>\n"),
    ("shelf-title", "<h2>" ++ tag "module.title" ++ "</h2>\n"),
    ("tile",
      "<article>" ++ tag "module.title" ++ block "if" "module.hasBadge" " <b>NEW</b>"
        ++ block "each" "module.tags" (" #" ++ tag "this") ++ "</article>\n"),
    ("footer",
      "<footer>" ++ block "unless" "config.hideCopyright" ("&copy; " ++ tag "global.siteName")
        ++ "</footer>\n")]

def registry (engine : Engine) : Except RegistryError Registry :=
  templates.foldlM (fun r t => r.add t.1 t.2 none) { engine }

def film (title : String) (hasBadge : Bool) (tags : List String) : Value :=
  .mapping [("title", .text title), ("hasBadge", .bool hasBadge), ("tags", .list (tags.map .text))]

def shelf (title : String) (movies : List Value) : Value :=
  .mapping [("title", .text title), ("movies", .list movies)]

def shelves : List Value :=
  [shelf "New releases" [film "Arrival" true ["sci-fi", "drama"], film "Heat" false []],
    shelf "Classics" [film "Casablanca" false ["romance"]]]

def state : List (String × Value) :=
  [("global", .mapping [("siteName", .text "Reel & Co")]),
    ("config", .mapping [("hideFooter", .bool false)]),
    ("entry", .mapping [("shelves", .list shelves)]),
    ("user", .mapping [("isSignedIn", .bool true), ("name", .text "Sam")]),
    ("state", .mapping []),
    ("modules", .mapping [])]

/-- The state with some of its fields replaced. -/
def snapshot (fields : List (String × Value)) : Except SnapshotError Snapshot :=
  Snapshot.ofValue (.mapping (fields.foldl (fun es f => Entries.insert es f.1 f.2) state))

end ViewModel.Catalogue
