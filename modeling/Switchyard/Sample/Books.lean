import Switchyard.Sample.Values

/-!
# A shelf of books

A documented controller, for the document that describes an application.
-/

namespace Switchyard.Sample.Books

/-- The controller. -/
def declaration : Declaration where
  options := "path = \"/books\""
  block := [
    "impl BookController \x7b",
    "    /// Show one book.",
    "    ///",
    "    /// The title is derived from the id.",
    "    /// Unknown fields are ignored.",
    "    #[get(\"/\x7bid\x7d\")]",
    "    fn show(&self, id: u32, #[from(query)] fields: Option<Vec<String>>) -> Book \x7b\x7d",
    "    /// Create or replace.",
    "    #[post(\"/\")]",
    "    #[put(\"/\x7bid\x7d\")]",
    "    fn create(&self, #[from_json] book: Book, id: Option<u32>,",
    "        #[from(header)] #[named(\"x-tenant\")] tenant: String) -> Book \x7b\x7d",
    "    #[delete(\"/shelf/\x7b*rest\x7d\")]",
    "    async fn clear(&self, rest: String) -> StatusCodeResult \x7b\x7d",
    "\x7d"]

/-- A book. -/
def book (title : String) : Reply := .ofJson (.object [("title", .string title)])

/-- The texts among values. -/
def textsOf (values : List Value) : List String :=
  values.filterMap fun v => match v with
    | .param (.string s) => some s
    | _ => none

/-- A number that may be missing, as messages show it. -/
def numberText : Option Value → String
  | some (.param (.integer n)) => s!"Some({n})"
  | _ => "None"

/-- The methods. -/
def call (method : String) (arguments : Arguments) : ActionCall :=
  match method, arguments with
  | "show", [.bound (.scalar (.param (.integer id))), .bound (.optionalList fields)] =>
    let joined := "+".intercalate (textsOf (fields.getD []))
    returning (book s!"book {id} {joined}")
  | "create", [.document (.book title), .bound (.optional id), .bound (.scalar (.param (.string tenant)))] =>
    returning (book s!"{title} {numberText id} {tenant}")
  | "clear", [.bound (.scalar (.param (.string rest)))] =>
    returning (.action (.status (if rest = "all" then .ok else .gone)))
  | _, _ => unknownMethod method

end Switchyard.Sample.Books
