import Switchyard.Sample.Values

/-!
# A controller of every shape

Actions without a result, with a document, with a result that executes itself, awaited or not, and with results
that may fail.
-/

namespace Switchyard.Sample.Shapes

/-- The controller. -/
def declaration : Declaration where
  options := "path = \"/shapes\""
  block := [
    "impl ShapeController \x7b",
    "    #[post(\"/void\")]",
    "    fn void(&self) \x7b\x7d",
    "    #[post(\"/async-void\")]",
    "    async fn async_void(&self) \x7b\x7d",
    "    #[get(\"/value\")]",
    "    fn value(&self) -> Summary \x7b\x7d",
    "    #[get(\"/async-value\")]",
    "    async fn async_value(&self, n: u16) -> u32 \x7b\x7d",
    "    #[get(\"/future\")]",
    "    fn future(&self) -> impl Future<Output = String> \x7b\x7d",
    "    #[get(\"/text\")]",
    "    fn text(&self) -> ContentResult \x7b\x7d",
    "    #[delete(\"/gone\")]",
    "    async fn gone(&self) -> StatusCodeResult \x7b\x7d",
    "    #[get(\"/redirect\")]",
    "    fn redirect(&self) -> impl ActionResult \x7b\x7d",
    "    #[get(\"/teapot\")]",
    "    #[action]",
    "    fn teapot(&self) -> Teapot \x7b\x7d",
    "    #[get(\"/download\")]",
    "    fn download(&self) -> Download \x7b\x7d",
    "    #[get(\"/async-download\")]",
    "    async fn async_download(&self) -> Result<Download, HttpError> \x7b\x7d",
    "    #[get(\"/fallible/\x7bn\x7d\")]",
    "    fn fallible(&self, n: u32) -> Result<u32, QuotaExceeded> \x7b\x7d",
    "    #[get(\"/missing\")]",
    "    async fn missing(&self) -> Result<JsonResult<u32>, HttpError> \x7b\x7d",
    "    #[put(\"/status\")]",
    "    fn status(&self, ctx: &mut HttpContext) -> Result<(), HttpError> \x7b\x7d",
    "    /// 128-bit results may not fit a JSON document.",
    "    #[get(\"/wide\")]",
    "    fn wide(&self, n: i128) -> i128 \x7b\x7d",
    "\x7d"]

/-- Writes a status and a body. -/
def writing (status : Status) (type body : String) : Execution := fun ctx =>
  let response := { ctx.response with status }
  (.ok (), { ctx with response := response.setBody (Utf8.encode type) (Utf8.encode body) })

/-- Answers that it is a teapot. -/
def teapot : Reply := { execution := some (writing .teapot "text/plain" "short and stout") }

/-- A document that executes itself as a download. -/
def download (name : String) : Reply where
  execution := some (writing .accepted "application/octet-stream" name)
  document := .ok (.object [("name", .string name)])

/-- The greatest number that is not over the quota. -/
def quota : Int := 10

/-- The methods. -/
def call (method : String) (arguments : Arguments) : ActionCall :=
  match method, arguments with
  | "void", [] => returning .nothing
  | "async_void", [] => returning .nothing
  | "value", [] => returning (.ofJson (.ofMembers [("total", .integer 2), ("names", .ofTexts ["a", "b"])]))
  | "async_value", [.bound (.scalar (.param (.integer n)))] => returning (.ofJson (.integer (n * 2)))
  | "future", [] => returning (.text "later")
  | "text", [] => returning (.action (.plainText "plain"))
  | "gone", [] => returning (.action (.status .noContent))
  | "redirect", [] => returning (.action (.seeOther "/shapes/value"))
  | "teapot", [] => returning teapot
  | "download", [] => returning (download "a.bin")
  | "async_download", [] => returning (download "b.bin")
  | "fallible", [.bound (.scalar (.param (.integer n)))] =>
    if quota < n then failing (.forbidden s!"quota of {quota} exceeded") else returning (.ofJson (.integer n))
  | "missing", [] => failing (.notFound "no such thing")
  | "status", [.context] => fun ctx s =>
    (.ok .nothing, { ctx with response := { ctx.response with status := .accepted } }, s)
  | "wide", [.bound (.scalar (.param n))] => returning { document := n.document }
  | _, _ => unknownMethod method

end Switchyard.Sample.Shapes
