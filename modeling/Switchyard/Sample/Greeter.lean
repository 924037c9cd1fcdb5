import Switchyard.Sample.Values
import Switchyard.Text.LetterCase

/-!
# Greeter and resource

A greeter that is obtained from the injector, once for each dispatch, and a resource that answers to every
verb.
-/

namespace Switchyard.Sample

namespace Greeter

/-- The controller. -/
def declaration : Declaration where
  options := "state = Services, path = \"/greet\", inject = greeter"
  block := [
    "impl Greeter \x7b",
    "    #[get(\"/\x7bname\x7d\")]",
    "    #[before(inject = banned)]",
    "    fn greet(&self, name: String) -> String \x7b\x7d",
    "    #[get(\"/scope\")]",
    "    fn scope(&self) -> usize \x7b\x7d",
    "    /// Helper without a routing attribute; stays a plain method.",
    "    fn shout(&self, text: &str) -> String \x7b\x7d",
    "    #[post(\"/shout\")]",
    "    fn loud(&self, text: String) -> String \x7b\x7d",
    "\x7d"]

/-- The number of the scope that a controller comes from. -/
def scopeNumber : Instance Scope → Nat
  | .injected scope _ => scope.number
  | .default => 0

/-- The methods. -/
def call (self : Instance Scope) (method : String) (arguments : Arguments) : ActionCall :=
  match method, arguments with
  | "greet", [.bound (.scalar (.param (.string name)))] => returning (.text s!"hello {name}")
  | "scope", [] => returning (.ofJson (.integer (scopeNumber self)))
  | "loud", [.bound (.scalar (.param (.string text)))] => returning (.text (upperText text))
  | _, _ => unknownMethod method

end Greeter

namespace Resource

/-- The controller. -/
def declaration : Declaration where
  options := "state = Services"
  block := [
    "impl Resource \x7b",
    "    #[get(\"/resource\")]",
    "    #[put(\"/resource\")]",
    "    #[post(\"/resource/\x7bid\x7d\")]",
    "    fn any_of(&mut self, ctx: &HttpContext, id: Option<String>) -> String \x7b\x7d",
    "    #[delete(\"/resource\")]",
    "    fn remove(&self) -> StatusCodeResult \x7b\x7d",
    "    #[get]",
    "    fn root(&self) -> &'static str \x7b\x7d",
    "    #[get(\"/files/\x7b*rest\x7d\")]",
    "    fn files(&self, rest: String) -> String \x7b\x7d",
    "    #[head(\"/verbs\")]",
    "    #[options(\"/verbs\")]",
    "    #[trace(\"/verbs\")]",
    "    #[patch(\"/verbs\")]",
    "    #[connect(\"/verbs\")]",
    "    fn verbs(&self, ctx: &HttpContext) -> String \x7b\x7d",
    "\x7d"]

/-- A text among the values that may be missing. -/
def textOf : Option Value → Option String
  | some (.param (.string s)) => some s
  | _ => none

/-- The methods; a resource counts from one, because there is a new one for each dispatch. -/
def call (method : String) (arguments : Arguments) : ActionCall :=
  match method, arguments with
  | "any_of", [.context, .bound (.optional id)] => fun ctx s =>
    (.ok (.text s!"{ctx.request.method} 1 {quotedOption (textOf id)}"), ctx, s)
  | "remove", [] => returning (.action (.status .noContent))
  | "root", [] => returning (.text "root")
  | "files", [.bound (.scalar (.param (.string rest)))] => returning (.text rest)
  | "verbs", [.context] => fun ctx s => (.ok (.text ctx.request.method), ctx, s)
  | _, _ => unknownMethod method

end Resource

end Switchyard.Sample
