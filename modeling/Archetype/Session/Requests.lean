import Archetype.Session

/-!
# Requests that can be refused

A batch may be given as texts with as many names, or as files. A request that cannot be met is refused
as a whole: then nothing is parsed and the session does not change.

* **`Session.parseNamed`** — texts with their names.
* **`Session.parseFiles`** — files, each under its path.
-/

namespace Archetype

/-- Why the text of a file cannot be read. -/
inductive ReadFault
  | notFound
  | isDirectory
  | notText
deriving DecidableEq, Repr

/-- The words for a file that cannot be read. -/
def ReadFault.message : ReadFault → String
  | notFound => "No such file or directory (os error 2)"
  | isDirectory => "Is a directory (os error 21)"
  | notText => "stream did not contain valid UTF-8"

/-- What stands at a path. -/
inductive FileEntry
  | directory
  | file (bytes : ByteArray)

/-- The text of what stands at a path, if anything does. -/
def FileEntry.read : Option FileEntry → Except ReadFault String
  | none => .error .notFound
  | some .directory => .error .isDirectory
  | some (.file bytes) =>
    match String.fromUTF8? bytes with
    | some text => .ok text
    | none => .error .notText

/-- Why a request is refused. -/
inductive RequestError
  | mismatchedBatch (texts names : Nat)
  | unreadable (path : String) (fault : ReadFault)
deriving DecidableEq, Repr

namespace RequestError

/-- The words for a refused request. -/
def message : RequestError → String
  | mismatchedBatch texts names => s!"Batch has {texts} documents but {names} source names"
  | unreadable path fault => s!"Failed to read '{path}': {fault.message}"

/-- The stable identifier of the kind of refusal. -/
def code : RequestError → String
  | mismatchedBatch _ _ => "api::mismatched_batch"
  | unreadable _ _ => "api::io"

/-- Advice, where there is some. -/
def help? : RequestError → Option String
  | mismatchedBatch _ _ =>
    some "\x60parse_many\x60 needs exactly one source name per document."
  | unreadable _ _ => none

end RequestError

namespace Session

/-- Parses texts, each under the name at its place. -/
def parseNamed (s : Session) (texts names : List String) (preferred : String) :
    Except RequestError (List Handle × Session) :=
  if texts.length = names.length then
    .ok (s.parse (List.zipWith Document.mk names texts) preferred)
  else .error (.mismatchedBatch texts.length names.length)

/-- The documents at the given paths, or the first of them that cannot be read. -/
def readAll (files : String → Option FileEntry) : List String → Except RequestError (List Document)
  | [] => .ok []
  | path :: rest =>
    match FileEntry.read (files path) with
    | .error fault => .error (.unreadable path fault)
    | .ok text => (readAll files rest).map (⟨path, text⟩ :: ·)

/-- Parses files, each under its path. -/
def parseFiles (s : Session) (files : String → Option FileEntry) (paths : List String)
    (preferred : String) : Except RequestError (List Handle × Session) :=
  (readAll files paths).map fun documents => s.parse documents preferred

end Session

end Archetype
