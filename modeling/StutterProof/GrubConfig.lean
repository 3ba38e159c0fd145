import StutterProof.LineSplit
import StutterProof.StatLine

/-! # The boot menu of GRUB

`parseGrubCfg` reads the entries of a generated `grub.cfg`, line by line.  It counts braces to know
how deep it is: a header remembers the depth that it is at, and the brace that comes back to that
depth ends its block.  A submenu adds its id to the ids of the entries in it.  Entries without a
Linux image are left out at the end. -/
namespace Stutter.Grub

open LineSplit (strLines)
open StatLine (rsplitOnce splitWhitespace)

/-- A boot entry of the menu. -/
structure BootEntry where
  id : List Char
  title : List Char
  kernelImage : Option (List Char)
  version : Option (List Char)

def marker : List Char := "$menuentry_id_option".toList

/-- What is behind the first marker. -/
def afterMarker : List Char → Option (List Char)
  | [] => none
  | c :: rest =>
    if marker.isPrefixOf (c :: rest) then some ((c :: rest).drop marker.length)
    else afterMarker rest

/-- What is between the first two apostrophes. -/
def firstQuoted (text : List Char) : Option (List Char) :=
  match text.dropWhile (· ≠ '\'') with
  | [] => none
  | _ :: rest => if '\'' ∈ rest then some (rest.takeWhile (· ≠ '\'')) else none

/-- `quoted_after`, for the one marker that it is used with. -/
def quotedAfter (line : List Char) : Option (List Char) := (afterMarker line).bind firstQuoted

/-- Where the scan is. -/
structure Scan where
  entries : List BootEntry
  submenuStack : List (List Char × Nat)
  depth : Nat
  current : Option BootEntry
  currentDepth : Nat

def Scan.start : Scan := ⟨[], [], 0, none, 0⟩

/-- The ids of the submenus, the outermost first, and the entry's own. -/
def joinIds (ids : List (List Char)) : List Char := ['>'].intercalate ids

/-- The stack has the innermost submenu first. -/
def openSubmenu (scan : Scan) (trimmed : List Char) : Scan :=
  if "submenu ".toList.isPrefixOf trimmed then
    { scan with
      submenuStack := ((quotedAfter trimmed).getD "submenu".toList,
        scan.depth) :: scan.submenuStack }
  else scan

/-- A `menuentry` line opens an entry. -/
def openMenuentry (scan : Scan) (trimmed : List Char) : Scan :=
  if "menuentry ".toList.isPrefixOf trimmed then
    match quotedAfter trimmed with
    | some id => { scan with
        current := some
          { id := joinIds ((scan.submenuStack.map (·.1)).reverse ++ [id])
            title := ((trimmed.splitOn '\'')[1]?).getD []
            kernelImage := none
            version := none }
        currentDepth := scan.depth }
    | none => scan
  else scan

/-- The image that a line boots. -/
def kernelImage (trimmed : List Char) : Option (List Char) :=
  match splitWhitespace trimmed with
  | command :: image :: _ =>
    if command = "linux".toList ∨ command = "linux16".toList ∨ command = "linuxefi".toList then
      some image
    else none
  | _ => none

def setKernelImage (scan : Scan) (trimmed : List Char) : Scan :=
  match scan.current, kernelImage trimmed with
  | some entry, some image =>
    { scan with
      current := some { entry with
        kernelImage := some image
        version := (rsplitOnce "vmlinuz-".toList image).map (·.2) } }
  | _, _ => scan

/-- One brace that closes. -/
def closeBrace (scan : Scan) : Scan :=
  let depth := scan.depth - 1
  let ended := scan.current.isSome ∧ depth = scan.currentDepth
  { scan with
    depth
    entries := if ended then scan.entries ++ scan.current.toList else scan.entries
    current := if ended then none else scan.current
    submenuStack := scan.submenuStack.dropWhile (·.2 = depth) }

def scanLine (scan : Scan) (line : List Char) : Scan :=
  let trimmed := line.dropWhile isTrimmed
  let scan := setKernelImage (openMenuentry (openSubmenu scan trimmed) trimmed) trimmed
  closeBrace^[trimmed.count '}'] { scan with depth := scan.depth + trimmed.count '{' }

def parseGrubCfg (text : List Char) : List BootEntry :=
  ((strLines text).foldl scanLine .start).entries.filter (·.kernelImage.isSome)

end Stutter.Grub
