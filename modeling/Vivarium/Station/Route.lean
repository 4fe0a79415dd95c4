import Vivarium.Folder.Path
import Vivarium.Json.Writer
import Vivarium.Station.Control
import Vivarium.Station.Page
import Vivarium.Text.Lines

/-!
# Routes

A station answers requests of a method for a target. A target is a path, with or without a question
after it, which is not looked at. A path that is known for another method only, a file that is not
there and any other path have answers of their own; only a known path with its method does
something.
-/

namespace Vivarium.Station

/-- What a request asks for. -/
inductive Route where
  | page
  | status
  | start
  | stop
  | step
  | reset
deriving DecidableEq, Repr

structure Answer where
  status : Nat
  kind : Option String
  body : String
deriving DecidableEq, Repr

/-! ## Answers -/

/-- An answer of JSON. Not every double can be written in it. -/
def Answer.json (status : Nat) (body : Value) : Except Fault Answer :=
  if Json.isFinite body then
    .ok ⟨status, some "application/json", Json.write Json.compact body⟩
  else .error .notFinite

/-- An answer that tells what is wrong with a request. -/
def Answer.refusal (status : Nat) (detail : String) : Answer :=
  ⟨status, some "application/json",
    Json.write Json.compact (.fields [("detail", .text detail)])⟩

def Answer.notFound : Answer := refusal 404 "Not Found"

def Answer.wrongMethod : Answer := refusal 405 "Method Not Allowed"

/-- The answer for a path that is there but for its closing slash. -/
def Answer.moved : Answer := ⟨307, none, ""⟩

def Answer.page (body : String) : Answer := ⟨200, some "text/html; charset=utf-8", body⟩

/-! ## Paths -/

/-- The known paths, each with its method. -/
def routes : List (String × String × Route) :=
  [("/", "GET", .page), ("/api/status", "GET", .status),
    ("/api/control/start", "POST", .start), ("/api/control/stop", "POST", .stop),
    ("/api/control/step", "POST", .step), ("/api/control/reset", "POST", .reset)]

/-- The path of a target: what stands before its first question mark. -/
def pathOf (target : String) : List Char := target.toList.takeWhile (· ≠ '?')

/-- What the path of every file starts with. -/
def filesRoot : List Char := "/static/".toList

/-- The names of a path to a file, a name before `..` taken back. -/
def resolve : List String → List String → List String
  | before, [] => before.reverse
  | name :: before, ".." :: rest =>
    if name = ".." then resolve (".." :: name :: before) rest else resolve before rest
  | before, name :: rest => resolve (name :: before) rest

/-- The directories that the files are in, the innermost first. -/
def filesHome : List String := ["static", "app", "darwin", "src"]

/-- Whether names lead to the page, the only file: it is in the directory of the files, and a path
may leave that directory if it comes back by the names that it left. -/
def leadsToPage (names : List String) : Bool :=
  let way := resolve [] names
  let left := (way.takeWhile (· = "..")).length
  left ≤ filesHome.length &&
    way.drop left == (filesHome.take left).reverse ++ ["index.html"]

/-- The answer for a path to a file, without the part that all have in common. -/
def answerFile (method : String) (path : List Char) : Answer :=
  if method = "GET" ∨ method = "HEAD" then
    if leadsToPage (Path.ofText (String.ofList path)).names then
      .page (if method = "HEAD" then "" else Station.page)
    else .notFound
  else .wrongMethod

/-- What is known about a path: the method and the request. A line break at its end does not
count. -/
def route? (path : List Char) : Option (String × Route) :=
  routes.lookup (String.ofList (Text.dropBreak path))

/-- Whether a path is one of a file: it goes on after the common start on one line. -/
def isFile (path : List Char) : Bool :=
  filesRoot.isPrefixOf path && !(Text.dropBreak (path.drop filesRoot.length)).contains '\n'

/-- A path with a closing slash more, or without its closing slashes if it has any. -/
def otherForm (path : List Char) : List Char :=
  if path.getLast? = some '/' then (path.reverse.dropWhile (· = '/')).reverse else path ++ ['/']

def answerUnknown (path : List Char) : Answer :=
  let other := otherForm path
  if path ≠ ['/'] ∧ ((route? other).isSome ∨ isFile other) then .moved else .notFound

/-! ## Requests -/

def runningFields (s : Station) : List (String × Value) := [("running", .bool s.running)]

def roundFields (s : Station) : List (String × Value) :=
  s.runningFields ++ [("round", .int s.round)]

/-- Does what a request asks for. -/
def perform (s : Station) : Route → Except Fault Answer × Station
  | .page => (.ok (.page Station.page), s)
  | .status => (Answer.json 200 s.status.toValue, s)
  | .start => (Answer.json 200 (.fields s.start.runningFields), s.start)
  | .stop => (Answer.json 200 (.fields s.stop.runningFields), s.stop)
  | .step =>
    match s.stop.advance with
    | (.ok _, after) => (Answer.json 200 (.fields after.roundFields), after)
    | (.error fault, after) => (.error fault, after)
  | .reset =>
    match s.reset with
    | (.ok _, after) => (Answer.json 200 (.fields after.roundFields), after)
    | (.error fault, after) => (.error fault, after)

def respond (s : Station) (method target : String) : Except Fault Answer × Station :=
  let path := pathOf target
  match route? path with
  | some (expected, route) =>
    if method = expected then s.perform route else (.ok .wrongMethod, s)
  | none =>
    if isFile path then
      (.ok (answerFile method (path.drop filesRoot.length)), s)
    else (.ok (answerUnknown path), s)

end Vivarium.Station
