import Sf4e.Lib.Containers
import Sf4e.Lib.Json
/-!
# What the launcher finds out from Steam

`launcher.cxx` asks the registry where Steam is and reads two of its files. What
Windows and the VDF parser answer is a parameter, and the code's own part is here.
-/
open Sf4e.Lib

namespace Sf4e.Launcher

/-- `wchar_t` text, up to its end. -/
abbrev WideText := List UInt16

/-- A literal `L"..."`. -/
def wide (s : String) : WideText := s.toList.map fun c => c.toNat.toUInt16

/-- `tyti::vdf::object`, its children in the order they are iterated in. -/
inductive VdfObject where
  | mk (attribs : Assoc Bytes Bytes) (childs : List (Bytes × VdfObject))

namespace VdfObject

def attribs : VdfObject → Assoc Bytes Bytes
  | mk attribs _ => attribs

def childs : VdfObject → List (Bytes × VdfObject)
  | mk _ childs => childs

/-- `attribs[key]`: a key that is missing has an empty value. -/
def attrib (o : VdfObject) (key : String) : Bytes := (o.attribs.find (ascii key)).getD []

end VdfObject

/-- What the launcher calls. -/
structure Windows where
  /-- `RegGetValueW` of `SteamPath`, into a buffer of so many bytes. -/
  steamPath : ℕ → Option WideText
  /-- What `PathCchCombine` leaves in a buffer of so many characters, and whether it returns `S_OK`. -/
  pathCchCombine : ℕ → WideText → WideText → WideText × Bool
  /-- A `std::ifstream` of this file is `good`. -/
  good : WideText → Bool
  /-- `tyti::vdf::read`, where it does not throw. -/
  readVdf : WideText → Option VdfObject
  /-- What `MultiByteToWideChar` leaves in a buffer of so many characters that holds the last text. -/
  multiByteToWideChar : Bytes → ℕ → WideText → WideText
  pathIsDirectoryW : WideText → Bool
  pathFileExistsW : WideText → Bool

end Sf4e.Launcher
