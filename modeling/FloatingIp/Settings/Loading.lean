import FloatingIp.Files
import FloatingIp.Settings.Reading
import FloatingIp.Settings.Rule

/-!
# Loading settings

Settings come from the text of one file: the one that is named or, if none is, the first one that
is there of a system-wide file, one in the user's home and one in the working directory.  The text
has to be a document, the document has to have everything that is needed, and the settings have to
satisfy their rules.

A document that cannot be read as settings is only complained about in detail if it can be read as
a value at all.
-/

namespace FloatingIp.Settings

open Yaml

/-- Why a text cannot be read as settings. -/
inductive ParseFault where
  /-- It cannot be read as a value. -/
  | malformed
  /-- It says something else. -/
  | complaint (c : Complaint)

/-- The wording of a fault.  A text that is no value is not put into words. -/
def ParseFault.message? : ParseFault → Option String
  | malformed => none
  | complaint c => some c.message

/-- The node that a document is read from: an empty place if it has none. -/
def rootOf (d : Document) : Node :=
  d.root.getD (.scalar Position.start none none .plain "")

/-- The settings of a text, whatever their rules. -/
def parse (text : String) : Except ParseFault Settings :=
  match Document.ofText? text with
  | none => .error .malformed
  | some d =>
    match read (Source.document d) (rootOf d) with
    | .ok s => .ok s
    | .error c => .error (if (Value.ofDocument? d).isSome then .complaint c else .malformed)

/-- Why a file cannot be read as a text. -/
inductive FileFault where
  /-- The name of the file holds the character that ends names. -/
  | nulInName
  /-- The system refuses it. -/
  | refused (fault : Files.Fault)
  /-- The content is no text. -/
  | notText
  deriving DecidableEq, Repr

/-- The wording of a fault. -/
def FileFault.message : FileFault → String
  | nulInName => "file name contained an unexpected NUL byte"
  | refused fault => fault.message
  | notText => "stream did not contain valid UTF-8"

/-- Why there are no settings. -/
inductive LoadFault where
  /-- There is no file. -/
  | noFile
  /-- The file cannot be read. -/
  | unread (fault : FileFault)
  /-- The text cannot be read. -/
  | unparsed (fault : ParseFault)
  /-- The settings break rules. -/
  | invalid (rules : List Rule)

/-- The wording of a broken rule. -/
def Rule.complaint (r : Rule) : String :=
  r.field ++ ": Validation error: " ++ r.code

/-- The wording of a fault. -/
def LoadFault.message : LoadFault → String
  | noFile => "Configuration file not found in search paths"
  | unread fault => "Failed to read configuration file: " ++ fault.message
  | unparsed fault => "Failed to parse YAML: " ++ fault.message?.getD ""
  | invalid rules => "Invalid configuration: " ++ "\n".intercalate (rules.map Rule.complaint)

/-- Settings that satisfy their rules. -/
def checkedBy (d : Diligence) (s : Settings) : Except LoadFault Settings :=
  if (s.blamed d).isEmpty then .ok s else .error (.invalid (s.blamed d))

/-- Settings that satisfy their rules, where all broken rules of a section are told. -/
def checked (s : Settings) : Except LoadFault Settings :=
  s.checkedBy .thorough

/-- The settings of a text. -/
def ofYamlBy (d : Diligence) (text : String) : Except LoadFault Settings :=
  match parse text with
  | .error fault => .error (.unparsed fault)
  | .ok s => s.checkedBy d

/-- The settings of a text, where all broken rules of a section are told. -/
def ofYaml (text : String) : Except LoadFault Settings :=
  ofYamlBy .thorough text

/-- The settings of a value. -/
def ofTree (v : Value) : Except LoadFault Settings :=
  match read Source.value v with
  | .error c => .error (.unparsed (.complaint c))
  | .ok s => s.checked

/-! ## Files -/

/-- The file in the working directory, and the name of the file anywhere. -/
def fileName : String := "vip-manager.yaml"

/-- Where files are looked for, if none is named. -/
def searchPaths (home : Option String) : List String :=
  ["/etc/vip-manager/" ++ fileName] ++
    (home.map fun h => h ++ "/.config/vip-manager/" ++ fileName).toList ++ ["./" ++ fileName]

/-- A way to look at files: the content of the file at a path, or why there is none. -/
abbrev Look := String → Except Files.Fault (List UInt8)

/-- Whether there is a file at a path, be it one that may not be read. -/
def hasFile (look : Look) (path : String) : Bool :=
  match look path with
  | .ok _ => true
  | .error fault => fault = .denied

/-- The text of a file. -/
def readText (look : Look) (path : String) : Except FileFault String :=
  if Files.holdsNul path then .error .nulInName
  else match look path with
    | .error fault => .error (.refused fault)
    | .ok bytes =>
      match Text.Utf8.strict? bytes with
      | none => .error .notText
      | some s => .ok (String.ofList s)

/-- The paths of files that settings may come from: the one that is named, or those of the
search. -/
def candidates (home : Option String) : Option String → List String
  | some path => [path]
  | none => searchPaths home

/-- The path of the file that settings come from: the one that is named, or the first one of the
search where there is a file. -/
def findFile? (look : Look) (home : Option String) : Option String → Option String
  | some path => some path
  | none => (searchPaths home).find? (hasFile look)

/-- The settings of the file that is named, or of the first one that is there. -/
def load (look : Look) (home path : Option String) : Except LoadFault Settings :=
  match findFile? look home path with
  | none => .error .noFile
  | some path =>
    match readText look path with
    | .error fault => .error (.unread fault)
    | .ok text => ofYaml text

end FloatingIp.Settings
