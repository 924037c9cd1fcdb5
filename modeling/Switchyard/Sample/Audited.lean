import Switchyard.Sample.Values

/-!
# An audited controller

Interceptors that write the journal, guard an action, stamp the response, recover from errors, replace them
or raise them, and a controller whose actions are surrounded by them.
-/

namespace Switchyard.Sample

/-! ## Interceptors -/

/-- What a before-interceptor does. -/
abbrev BeforeCall := MethodName → Effect HttpContext Services Unit

/-- What an after-interceptor does. -/
abbrev AfterCall := MethodName → AfterContext → Services → AfterContext × Services

/-- Refuses a name in the path. -/
def banned (name : String) : BeforeCall := fun _ ctx s =>
  if ctx.request.pathParam? "name" = some name then (.error (.forbidden s!"{name} is banned"), ctx, s)
  else (.ok (), ctx, s)

/-- Writes the journal. -/
def record (tag : String) : BeforeCall := fun name ctx s =>
  (.ok (), ctx, s.push s!"before:{tag}:{name.controller}:{name.method}")

/-- Refuses a request without a key. -/
def requireKey : BeforeCall := fun _ ctx s =>
  match ctx.request.headerValues "x-key" with
  | key :: _ => (.ok (), ctx, s.push s!"before:key:{key}")
  | [] => (.error (.unauthorized "missing key"), ctx, s)

/-- Sets a header that the result keeps. -/
def stamp : BeforeCall := fun _ ctx s =>
  let headers := ctx.response.headers.insert "x-stamp" (Utf8.encode "stamped")
  (.ok (), { ctx with response := { ctx.response with headers } }, s)

/-- Writes the journal. -/
def audit (tag : String) : AfterCall := fun name ctx s =>
  let outcome := match ctx.error with
    | some e => s!"err:{e.status.code}"
    | none => "ok"
  (ctx, s.push s!"after:{tag}:{name.method}:{outcome}:{ctx.http.response.status.code}")

/-- Answers with a text instead of an error. -/
def recover : AfterCall := fun _ ctx s =>
  match ctx.clearError with
  | (none, ctx) => (ctx, s)
  | (some e, ctx) =>
    let response := { ctx.http.response with status := .ok }
    let response := response.setBody (Utf8.encode "text/plain") (Utf8.encode s!"recovered from {e.text}")
    ({ ctx with http := { ctx.http with response } }, s)

/-- Replaces an error. -/
def unavailable : AfterCall := fun _ ctx s =>
  if ctx.hasError then (ctx.setError (.custom .unavailable (.object [("retry", .bool true)])), s) else (ctx, s)

/-- Raises an error. -/
def raise : AfterCall := fun _ ctx s => (ctx.setError (.internal "raised"), s)

/-- The text of a plain literal. -/
def unquoted (literal : String) : String := .ofList (literal.toList.drop 1).dropLast

/-- What a before-interceptor at hand does. -/
def beforeCall : Prepared Scope → BeforeCall
  | .injected _ "banned" => banned "mallory"
  | .made ["Record", "(", tag, ")"] => record (unquoted tag)
  | .made ["RequireKey"] => requireKey
  | .made ["Stamp"] => stamp
  | _ => fun _ ctx s => (.ok (), ctx, s)

/-- What an after-interceptor at hand does. -/
def afterCall : Prepared Scope → AfterCall
  | .injected _ "metrics" => audit "injected"
  | .made ["Audit", "(", tag, ")"] => audit (unquoted tag)
  | .made ["Recover"] => recover
  | .made ["Unavailable"] => unavailable
  | .made ["Raise"] => raise
  | _ => fun _ ctx s => (ctx, s)

/-! ## The controller -/

namespace Audited

/-- The controller. -/
def declaration : Declaration where
  options := "state = Services, path = \"/audited\", inject = audited"
  block := [
    "#[before(Record(\"class\"))]",
    "#[after(Audit(\"class\"))]",
    "impl AuditedController \x7b",
    "    #[get(\"/plain\")]",
    "    fn plain(&self) -> &'static str \x7b\x7d",
    "    #[get(\"/ordered\")]",
    "    #[before(Record(\"first\"))]",
    "    #[before(Record(\"second\"))]",
    "    #[after(Audit(\"method\"))]",
    "    #[after(inject = metrics)]",
    "    fn ordered(&self) -> &'static str \x7b\x7d",
    "    #[get(\"/guarded\")]",
    "    #[before(RequireKey)]",
    "    #[before(Record(\"late\"))]",
    "    async fn guarded(&self) -> &'static str \x7b\x7d",
    "    #[get(\"/failing\")]",
    "    fn failing(&self) -> Result<&'static str, HttpError> \x7b\x7d",
    "    #[get(\"/binding\")]",
    "    fn binding(&self, count: u32) -> u32 \x7b\x7d",
    "    #[get(\"/recovered\")]",
    "    #[after(Recover)]",
    "    #[after(Audit(\"late\"))]",
    "    fn recovered(&self, n: u8) -> Result<u32, HttpError> \x7b\x7d",
    "    #[get(\"/replaced\")]",
    "    #[after(Unavailable)]",
    "    fn replaced(&self, n: u8) -> Result<u32, HttpError> \x7b\x7d",
    "    #[get(\"/raised\")]",
    "    #[after(Raise)]",
    "    fn raised(&self) -> &'static str \x7b\x7d",
    "    #[get(\"/raised-recovered\")]",
    "    #[after(Raise)]",
    "    #[after(Recover)]",
    "    fn raised_recovered(&self) -> &'static str \x7b\x7d",
    "    #[get(\"/stamped\")]",
    "    #[before(Stamp)]",
    "    fn stamped(&self) -> StatusCodeResult \x7b\x7d",
    "    /// Fails after the response was partly written.",
    "    #[get(\"/partial\")]",
    "    #[before(Stamp)]",
    "    #[after(Unavailable)]",
    "    fn partial(&self, ctx: &mut HttpContext) -> Result<(), HttpError> \x7b\x7d",
    "    /// An action result that fails to execute.",
    "    #[get(\"/bad-result\")]",
    "    fn bad_result(&self, location: String) -> RedirectResult \x7b\x7d",
    "\x7d"]

/-- Writes the journal and returns a text. -/
def noting (line : String) (r : Except HttpError Reply) : ActionCall := fun ctx s => (r, ctx, s.push line)

/-- Returns a number, but fails at zero. -/
def unlessZero (n : Int) (e : HttpError) : ActionCall :=
  if n = 0 then failing e else returning (.ofJson (.integer n))

/-- The methods. -/
def call (method : String) (arguments : Arguments) : ActionCall :=
  match method, arguments with
  | "plain", [] => noting "action:plain" (.ok (.text "done"))
  | "ordered", [] => noting "action:ordered" (.ok (.text "done"))
  | "guarded", [] => noting "action:guarded" (.ok (.text "done"))
  | "failing", [] => noting "action:failing" (.error (.badRequest "nope"))
  | "binding", [.bound (.scalar count)] => noting "action:binding" (.ok (.ofJson (valueJson count)))
  | "recovered", [.bound (.scalar (.param (.integer n)))] => unlessZero n (.internal "boom")
  | "replaced", [.bound (.scalar (.param (.integer n)))] => unlessZero n (.notFound "missing")
  | "raised", [] => returning (.text "unseen")
  | "raised_recovered", [] => returning (.text "unseen")
  | "stamped", [] => returning (.action (.status .accepted))
  | "partial", [.context] => fun ctx s =>
    (.error (.forbidden "half way"), { ctx with response := { ctx.response with status := .created } }, s)
  | "bad_result", [.bound (.scalar (.param (.string location)))] => returning (.action (.redirectTo location))
  | _, _ => unknownMethod method

end Audited

end Switchyard.Sample
