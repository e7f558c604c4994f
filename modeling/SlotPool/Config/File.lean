import SlotPool.Config.Document

/-!
# Configurations in files

A configuration file is a document in UTF-8.  How files are read is left open: it is
given as a function from paths to bytes.
-/

namespace SlotPool.Config

/-- How the bytes of files are read. -/
abbrev ReadFile := String → Except FileFault ByteArray

/-- The text of a file. -/
def fileText (readFile : ReadFile) (path : String) : Except FileFault String :=
  match readFile path with
  | .error fault => .error fault
  | .ok content =>
    match String.fromUTF8? content with
    | some text => .ok text
    | none => .error .notUtf8

/-- The configuration that a file describes, as a library reads it. -/
def ofFileBy (library : Toml.Library) (readFile : ReadFile) (path : String) :
    Except ConfigFault Config :=
  match fileText readFile path with
  | .error cause => .error (.file path cause)
  | .ok text => ofDocumentBy library text

/-- The configuration that a file describes. -/
def ofFile (readFile : ReadFile) (path : String) : Except ConfigFault Config :=
  ofFileBy .standard readFile path

end SlotPool.Config
