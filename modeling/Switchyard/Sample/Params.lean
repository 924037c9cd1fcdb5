import Switchyard.Sample.Values

/-!
# A controller of every parameter

Actions whose parameters show arities, sources, names and documents.
-/

namespace Switchyard.Sample.Params

/-- The controller. -/
def declaration : Declaration where
  options := "state = Services, path = \"/params\""
  block := [
    "impl ParamController \x7b",
    "    #[get(\"/scalars\")]",
    "    fn scalars(&self, flag: bool, count: i32, letter: char, name: String) -> Value \x7b\x7d",
    "    #[get(\"/optional\")]",
    "    fn optional(&self, page: Option<u32>, label: Option<String>) -> Value \x7b\x7d",
    "    #[get(\"/items/\x7bid\x7d\")]",
    "    #[get(\"/items\")]",
    "    fn item(&self, id: i64) -> i64 \x7b\x7d",
    "    #[get(\"/renamed\")]",
    "    fn renamed(&self, #[from(query, name = \"q\")] term: String, #[named(\"per-page\")] per_page: Option<u8>)",
    "        -> Value \x7b\x7d",
    "    #[get(\"/sources\")]",
    "    fn sources(",
    "        &self,",
    "        #[from(header)] #[named(\"x-tenant\")] tenant: String,",
    "        #[from(cookie)] session: String,",
    "        token: Option<String>,",
    "    ) -> Value \x7b\x7d",
    "    #[get(\"/restricted\")]",
    "    fn restricted(&self, #[from(query)] token: Option<String>) -> Option<String> \x7b\x7d",
    "    #[get(\"/tags\")]",
    "    fn tags(&self, tag: Vec<String>, unique: BTreeSet<u32>, limit: Option<VecDeque<u16>>,",
    "        slots: Option<Vec<Option<i8>>>) -> Value \x7b\x7d",
    "    #[get(\"/ints\")]",
    "    fn ints(&self, v: Vec<i32>) -> Vec<i32> \x7b\x7d",
    "    #[get(\"/slots\")]",
    "    fn slots(&self, v: Vec<Option<i32>>) -> Vec<Option<i32>> \x7b\x7d",
    "    #[get(\"/context\")]",
    "    fn context(&self, ctx: &HttpContext, id: Option<i32>) -> Value \x7b\x7d",
    "    #[get(\"/raw/\x7btype\x7d\")]",
    "    fn raw(&self, r#type: String) -> String \x7b\x7d",
    "    #[post(\"/json\")]",
    "    fn json(&self, #[from_json] body: NewNote, #[from(query)] draft: Option<bool>) -> JsonResult<Value> \x7b\x7d",
    "    #[post(\"/echo\")]",
    "    fn echo(&self, ctx: &HttpContext) -> ContentResult \x7b\x7d",
    "\x7d"]

/-- The integers among values, ascending and each once. -/
def ascending (values : List Value) : List Int :=
  let integers := values.filterMap fun v => match v with
    | .param (.integer n) => some n
    | _ => none
  (integers.mergeSort fun a b => decide (a ≤ b)).eraseDups

/-- Values as a document. -/
def listJson (values : List Value) : Json := .array (values.map valueJson)

/-- Values that may be missing as a document. -/
def slotsJson (values : List (Option Value)) : Json := .array (values.map optionJson)

/-- The methods. -/
def call (method : String) (arguments : Arguments) : ActionCall :=
  let members (list : List (String × Json)) : ActionCall := returning (.ofJson (.ofMembers list))
  match method, arguments with
  | "scalars", [.bound (.scalar flag), .bound (.scalar count), .bound (.scalar letter), .bound (.scalar name)] =>
    members [("flag", valueJson flag), ("count", valueJson count), ("letter", valueJson letter),
      ("name", valueJson name)]
  | "optional", [.bound (.optional page), .bound (.optional label)] =>
    members [("page", optionJson page), ("label", optionJson label)]
  | "item", [.bound (.scalar id)] => returning (.ofJson (valueJson id))
  | "renamed", [.bound (.scalar term), .bound (.optional perPage)] =>
    members [("term", valueJson term), ("per_page", optionJson perPage)]
  | "sources", [.bound (.scalar tenant), .bound (.scalar session), .bound (.optional token)] =>
    members [("tenant", valueJson tenant), ("session", valueJson session), ("token", optionJson token)]
  | "restricted", [.bound (.optional token)] => returning (.ofJson (optionJson token))
  | "tags", [.bound (.list tag), .bound (.list unique), .bound (.optionalList limit),
      .bound (.optionalSlots slots)] =>
    members [("tag", listJson tag), ("unique", .array ((ascending unique).map .integer)),
      ("limit", .ofOption (limit.map listJson)), ("slots", .ofOption (slots.map slotsJson))]
  | "ints", [.bound (.list v)] => returning (.ofJson (listJson v))
  | "slots", [.bound (.slots v)] => returning (.ofJson (slotsJson v))
  | "context", [.context, .bound (.optional id)] => fun ctx s =>
    members [("method", .string ctx.request.method), ("path", .string ctx.request.uri.path),
      ("id", optionJson id)] ctx s
  | "raw", [.bound (.scalar type)] => returning (.ofJson (valueJson type))
  | "json", [.document (.note title words), .bound (.optional draft)] =>
    let draft := match draft with
      | some (.param (.bool b)) => b
      | _ => false
    returning (.action (.json (.ok (.ofMembers [("title", .string title), ("words", .integer words.val),
      ("draft", .bool draft)])) .created))
  | "echo", [.context] => fun ctx s =>
    (.ok (.action (.plainText (Utf8.decodeLossy ctx.request.body))), ctx, s)
  | _, _ => unknownMethod method

end Switchyard.Sample.Params
