import ControlPlane.Host.Files
import ControlPlane.Text.Quoted
import ControlPlane.Text.Utf8

/-!
# Where the index lives

An index database is named by a URL: `sqlite::memory:` for a private in-memory database, or
`sqlite://PATH` (also `sqlite:PATH`) for a file, with percent escapes in the path. Query
parameters after `?` set the open mode (`ro`, `rw`, `rwc`, `memory`), the cache (`private`,
`shared`), immutability and the file-system layer; any other parameter, or another value, is
refused.

A file database opens when its file exists and holds a database, or when the file is missing,
may be created, and its directory exists. A file whose first bytes are not a database's
header is refused at the first statement.
-/

namespace ControlPlane

/-- Where an index keeps its rows. -/
inductive IndexLocation where
  | memory
  | file (path : String) (readOnly : Bool)
  deriving Inhabited

/-- The value of a hexadecimal digit. -/
def hexDigitValue? (c : Char) : Option Nat :=
  if c.isDigit then some (c.toNat - '0'.toNat)
  else if 'a' ≤ c && c ≤ 'f' then some (c.toNat - 'a'.toNat + 10)
  else if 'A' ≤ c && c ≤ 'F' then some (c.toNat - 'A'.toNat + 10)
  else none

/-- The byte a `%` and two hex digits stand for, with the bytes after them. -/
def decodedAt (b : Nat) (rest : List Nat) : Option (Nat × List Nat) :=
  if b = '%'.toNat then
    match rest with
    | h :: l :: more =>
      match hexDigitValue? (Char.ofNat h), hexDigitValue? (Char.ofNat l) with
      | some x, some y => some (16 * x + y, more)
      | _, _ => none
    | _ => none
  else none

/-- Decodes percent escapes in bytes: `%` and two hex digits stand for one byte; any other
`%` stands for itself. -/
def percentDecode (bytes : List Nat) : List Nat :=
  go bytes.length bytes
where
  /-- Decodes byte by byte, with fuel for the bytes left. -/
  go : Nat → List Nat → List Nat
    | 0, bs => bs
    | _ + 1, [] => []
    | fuel + 1, b :: rest =>
      match decodedAt b rest with
      | some (x, more) => x :: go fuel more
      | none => b :: go fuel rest

def textBytes (s : String) : List Nat := s.toUTF8.toList.map (·.toNat)

/-- Decodes one part of a form-encoded query: `+` is a blank, then percent escapes; bytes
that are not UTF-8 become U+FFFD. -/
def formDecode (s : String) : String :=
  decodeLossy (percentDecode (textBytes (s.map fun c => if c = '+' then ' ' else c)))

/-- The parameters of a form-encoded query, in order: pieces between `&` that are not empty,
each split at its first `=`. -/
def formPairs (query : String) : List (String × String) :=
  ((query.splitOn "&").filter (!·.isEmpty)).map fun piece =>
    match piece.splitOn "=" with
    | [k] => (formDecode k, "")
    | k :: vs => (formDecode k, formDecode (String.intercalate "=" vs))
    | [] => ("", "")

/-- Drops every leading copy of a prefix. -/
def dropPrefixes (p : String) (s : String) : String :=
  go s.length s
where
  /-- Drops copies while any are left, with fuel for the length. -/
  go : Nat → String → String
    | 0, s => s
    | fuel + 1, s =>
      if !p.isEmpty && s.startsWith p then go fuel (String.ofList (s.toList.drop p.length)) else s

/-- The open settings a query gives. -/
structure OpenSettings where
  readOnly : Bool := false
  memory : Bool := false

/-- Applies one query parameter, refusing unknown ones and unknown values. -/
def OpenSettings.apply (o : OpenSettings) : String × String → Except String OpenSettings
  | ("mode", v) =>
    match v with
    | "ro" => pure { o with readOnly := true }
    | "rw" | "rwc" => pure o
    | "memory" => pure { o with memory := true }
    | _ => throw ("unknown value " ++ quoted v ++ " for `mode`")
  | ("cache", v) =>
    if v == "private" || v == "shared" then pure o
    else throw ("unknown value " ++ quoted v ++ " for `cache`")
  | ("immutable", v) =>
    if ["true", "1", "false", "0"].contains v then pure o
    else throw ("unknown value " ++ quoted v ++ " for `immutable`")
  | ("vfs", _) => pure o
  | (k, _) => throw ("unknown query parameter `" ++ k ++ "` while parsing connection URL")

/-- The step at which opening an index fails. -/
inductive OpenStage where
  /-- Connecting to the database. -/
  | connect
  /-- Creating the tables on the new connection. -/
  | schema
  deriving Inhabited, BEq

/-- How a failure at a step is reported. -/
def OpenStage.failure : OpenStage → String
  | .connect => "connect index db fail"
  | .schema => "create index schema fail"

namespace IndexLocation

/-- Reads a database URL; a refusal carries the configuration fault. -/
def parse (url : String) : Except String IndexLocation := do
  let rest := dropPrefixes "sqlite:" (dropPrefixes "sqlite://" url)
  let (database, query) := match rest.splitOn "?" with
    | [d] => (d, none)
    | d :: qs => (d, some (String.intercalate "?" qs))
    | [] => ("", none)
  let path ← if database == ":memory:" then pure ""
    else match decodeStrict (percentDecode (textBytes database)) with
      | .ok p => pure p
      | .error f => throw f.message
  let settings ← (match query with
    | some q => formPairs q
    | none => []).foldlM OpenSettings.apply {}
  if database == ":memory:" || settings.memory then pure .memory
  else pure (.file path settings.readOnly)

def header : String := "SQLite format 3"

/-- Why a location does not open in a file system, as the database reports it, and whether it
fails already on connecting or only on the first statement, the one that creates the schema:
connecting opens the file without reading it, so a file that is not a database is found out
only by the first statement. -/
def openFault (fs : FileSystem) : IndexLocation → Option (OpenStage × String)
  | .memory => none
  | .file path readOnly =>
    if path.isEmpty then none
    else
      let p := fs.absolute path
      let parent := fs.absolute (p ++ "/..")
      match fs.lookup p with
      | some (.file contents) =>
        if contents.isEmpty || contents.startsWith header then none
        else some (.schema, "(code: 26) file is not a database")
      | some .directory => some (.connect, "(code: 14) unable to open database file")
      | none =>
        match readOnly, fs.lookup parent with
        | false, some .directory => none
        | _, _ => some (.connect, "(code: 14) unable to open database file")

end IndexLocation

end ControlPlane
