import HarnessRepair.Files.FileSystem
import HarnessRepair.Json.Field

/-!
# Described directories

A directory written as a JSON object: for each path the text of a file, the bytes
of one as hexadecimal digits, or the mark of an empty directory.

## Main definitions

* `bytesOfHex?`, `hexOfBytes` — bytes as hexadecimal digits.
* `FileSystem.seed?` — one more entry.
* `FileSystem.ofJson?` — the directory.
-/

namespace HarnessRepair

open Json

/-- The bytes that pairs of hexadecimal digits write. -/
def bytesOfHex? : List Char → Option (List UInt8)
  | [] => some []
  | [_] => none
  | a :: b :: rest => do
    let high ← Text.hexValue? a
    let low ← Text.hexValue? b
    return UInt8.ofNat (high * 16 + low) :: (← bytesOfHex? rest)

/-- Two hexadecimal digits for each byte. -/
def hexOfBytes (bytes : List UInt8) : String :=
  String.ofList (bytes.flatMap fun b => Text.hexPadded 2 b.toNat)

namespace FileSystem

/-- The content of a described file. -/
def describedContent? (v : Value) : Option Content :=
  match v with
  | .string s => s.map .text
  | v => (v.field? "hex" Value.text?).bind fun hex => (bytesOfHex? hex.toList).map .ofBytes

/-- Writes a file and makes the directories on the way to it. -/
def plant? (fs : FileSystem) (path : String) (c : Content) : Option FileSystem := do
  let fs ← match Path.parent? path with
    | some dir => (fs.createDirAll dir).toOption
    | none => some fs
  (fs.writeContent path c).toOption

/-- Adds a described entry.  Its path must stay below the directory. -/
def seed? (fs : FileSystem) (path : String) (v : Value) : Option FileSystem :=
  if (Path.components path).any fun c => c == .up || c == .root then none
  else if (v.field? "dir" Value.bool?) == some true then (fs.createDirAll path).toOption
  else (describedContent? v).bind (fs.plant? path)

/-- The described directory as the working directory of a file system. -/
def ofJson? (fs : FileSystem) : Value → Option FileSystem
  | .object members =>
    members.foldlM (fun fs (path, v) => path.bind fun path => fs.seed? path v) fs
  | _ => none

end FileSystem

/-- The content of a file as a JSON value. -/
def Content.toJson : Content → Value
  | .text s => .ofText s
  | .raw bytes => .ofObject [("hex", .ofText (hexOfBytes bytes))]

end HarnessRepair
