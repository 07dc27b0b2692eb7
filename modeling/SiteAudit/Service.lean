import SiteAudit.Batch
import SiteAudit.Json.Reader
/-!
# The analysis service

The service answers two requests: one asks whether it is there, the other sends a batch of files
and gets the response to it.  A body of another shape is refused with all of its defects.

* `batchOf` checks a body and lists the defects in the order of the files and their fields.
* `answer` is the reply to one request.
-/
namespace SiteAudit.Service

open Json (Value)

def title : String := "WebCheck Service"

/-- A request; the body is its text, if it has one. -/
structure Request where
  method : String
  path : String
  body : Option String := none

structure Reply where
  status : Nat
  body : Value

/-! ## Defects of bodies -/

/-- A step on the way to a part of a body. -/
inductive Step where
  | key (name : String)
  | index (n : Nat)

def Step.toJson : Step → Value
  | key name => .string name
  | index n => .int n

/-- What is wrong with a part of a body. -/
inductive Defect where
  | missing
  | notList
  | notString
  /-- A string that is no text. -/
  | notText
  | notObject
  | notJson (problem : Json.Problem)

namespace Defect

def kind : Defect → String
  | missing => "missing"
  | notList => "list_type"
  | notString => "string_type"
  | notText => "string_unicode"
  | notObject => "model_attributes_type"
  | notJson _ => "json_invalid"

def message : Defect → String
  | missing => "Field required"
  | notList => "Input should be a valid list"
  | notString => "Input should be a valid string"
  | notText => "Input should be a valid string, unable to parse raw data as a unicode string"
  | notObject => "Input should be a valid dictionary or object to extract fields from"
  | notJson _ => "JSON decode error"

/-- What a defect has to say beyond its message. -/
def details : Defect → List (Json.Str × Value)
  | notJson problem => [("ctx", .object [("error", .string problem.message)])]
  | _ => []

end Defect

/-- A defect with its place and what was found there. -/
structure Refusal where
  defect : Defect
  place : List Step
  input : Value

def Refusal.toJson (r : Refusal) : Value :=
  .object (("type", .string r.defect.kind) ::
    ("loc", .array ((Step.key "body" :: r.place).map Step.toJson)) ::
    ("msg", .string r.defect.message) :: ("input", r.input) :: r.defect.details)

/-! ## Reading a batch -/

/-- A part of a body: its value, or why there is none. -/
abbrev Part (α : Type) := Except (List Refusal) α

/-- The text under a key of an object. -/
def stringField (place : List Step) (v : Value) (key : String) : Part String :=
  let here := place ++ [.key key]
  match v.get? key with
  | none => .error [⟨.missing, here, v⟩]
  | some (.string (.text s)) => .ok s
  | some (.string s) => .error [⟨.notText, here, .string s⟩]
  | some other => .error [⟨.notString, here, other⟩]

def fileOf (place : List Step) (v : Value) : Part SourceFile :=
  match v with
  | .object _ =>
    match stringField place v "path", stringField place v "content" with
    | .ok path, .ok content => .ok { path, content }
    | .ok _, .error defects => .error defects
    | .error defects, .ok _ => .error defects
    | .error first, .error second => .error (first ++ second)
  | _ => .error [⟨.notObject, place, v⟩]

/-- The files of a batch from the `n`-th on, or all of their defects. -/
def filesFrom (n : Nat) : List Value → Part (List SourceFile)
  | [] => .ok []
  | v :: more =>
    match fileOf [.key "files", .index n] v, filesFrom (n + 1) more with
    | .ok file, .ok files => .ok (file :: files)
    | .ok _, .error defects => .error defects
    | .error defects, .ok _ => .error defects
    | .error first, .error second => .error (first ++ second)

/-- The batch that a body asks to analyze. -/
def batchOf (body : Value) : Part (List SourceFile) :=
  match body with
  | .null => .error [⟨.missing, [], .null⟩]
  | .object _ =>
    match body.get? "files" with
    | none => .error [⟨.missing, [.key "files"], body⟩]
    | some (.array items) => filesFrom 0 items
    | some other => .error [⟨.notList, [.key "files"], other⟩]
  | _ => .error [⟨.notObject, [], body⟩]

/-! ## Replies -/

def detail (v : Value) : Value := .object [("detail", v)]

def refuse (status : Nat) (why : String) : Reply := ⟨status, detail (.string why)⟩

/-- The reply to a body that is no batch. -/
def refuseAll (refusals : List Refusal) : Reply :=
  ⟨422, detail (.array (refusals.map Refusal.toJson))⟩

/-- A text without the mark of its byte order. -/
def dropOrderMark : List Char → List Char
  | c :: r => if c.toNat = 0xFEFF then r else c :: r
  | [] => []

/-- Reads the value that a body holds; an empty body is like none. -/
def bodyValue (body : Option String) : Except Json.Fault Value :=
  match body with
  | none => .ok .null
  | some "" => .ok .null
  | some text => Value.ofText (dropOrderMark text.toList)

def analyze (audit : Audit) (body : Option String) : Reply :=
  match bodyValue body with
  | .error (.decode problem position) =>
    refuseAll [⟨.notJson problem, [.index position], .object []⟩]
  | .error .tooLong => refuse 400 "There was an error parsing the body"
  | .ok v =>
    match batchOf v with
    | .error refusals => refuseAll refusals
    | .ok files => ⟨200, (audit.respond files).toJson⟩

/-- Where a request goes: what stands before a query, without slashes at its end. -/
def route (path : String) : String :=
  let bare := path.toList.takeWhile (fun c => c != '?' && c != '#')
  String.ofList (Text.trimEndBy (· == '/') bare)

/-- The reply to a request.  See SPEC_FULL.md:232-235. -/
def answer (audit : Audit) (r : Request) : Reply :=
  match route r.path, r.method with
  | "/health", "GET" => ⟨200, .object [("status", .string "ok")]⟩
  | "/analyze", "POST" => analyze audit r.body
  | "/health", _ => refuse 405 "Method Not Allowed"
  | "/analyze", _ => refuse 405 "Method Not Allowed"
  | _, _ => refuse 404 "Not Found"

end SiteAudit.Service
