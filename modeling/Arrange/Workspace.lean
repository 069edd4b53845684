import Arrange.Record

/-!
# Arrange.Workspace

A tree that changes between passes.  Every entry has a slot; the number of its slot is its handle, which
stays the same for as long as the workspace lives.  A slot of a folder lists the handles of its children.
The top level is the list of children of one folder more, which has no slot of its own.

Slots are only ever added, and a child is added after its folder, so that handles grow on the way down.
-/

namespace Arrange

/-- What stands in a slot. -/
inductive Slot
  | file (f : File)
  | folder (f : Folder) (children : List Nat)
deriving Repr, Inhabited

/-- A tree that changes. -/
structure Workspace where
  slots : Array Slot := #[]
  /-- The folder at the top. -/
  folder : Folder
  /-- The handles of its children. -/
  children : List Nat := []
deriving Repr, Inhabited

namespace Workspace

def empty (folder : Folder) : Workspace := { folder }

/-- The number of entries that were ever added, which is also the next handle. -/
def size (w : Workspace) : Nat := w.slots.size

/-! ## the tree -/

/-- The entry with a handle.  `fuel` bounds the depth of the tree. -/
def entryWithin (slots : Array Slot) : Nat → Nat → Option Entry
  | 0, _ => none
  | fuel + 1, h =>
    match slots[h]? with
    | none => none
    | some (.file f) => some (.file f)
    | some (.folder f children) => some (.folder f (children.filterMap (entryWithin slots fuel)))

def entry? (w : Workspace) (h : Nat) : Option Entry := entryWithin w.slots w.size h

def entries (w : Workspace) : List Entry := w.children.filterMap w.entry?

/-- The folder at the top, with its entries. -/
def asEntry (w : Workspace) : Entry := .folder w.folder w.entries

/-- A record with its folder as it is now. -/
def refresh (w : Workspace) (r : Record) : Record :=
  { r with folder := r.folder.map fun e => (w.entry? e.handle).getD e }

/-! ## changes -/

def modifySlot (w : Workspace) (h : Nat) (f : Slot → Slot) : Workspace :=
  { w with slots := w.slots.modify h f }

/-- A slot with one child more at the end. -/
def Slot.addChild (child : Nat) : Slot → Slot
  | .folder f children => .folder f (children ++ [child])
  | s => s

/-- A slot without the first occurrence of a child. -/
def Slot.eraseChild (child : Nat) : Slot → Slot
  | .folder f children => .folder f (children.erase child)
  | s => s

/-- A slot with new times, where they are given.  A folder has none. -/
def Slot.touch (modified created : Option Time) : Slot → Slot
  | .file f => .file { f with modified := modified.getD f.modified, created := created.getD f.created }
  | s => s

/-- Adds a slot and makes it the last child of a folder, that at the top if none is named. -/
def addSlot (w : Workspace) (parent : Option Nat) (s : Slot) : Workspace :=
  let h := w.size
  let w := { w with slots := w.slots.push s }
  match parent with
  | none => { w with children := w.children ++ [h] }
  | some p => w.modifySlot p (Slot.addChild h)

def addFile (w : Workspace) (parent : Option Nat) (f : File) : Workspace :=
  w.addSlot parent (.file { f with handle := w.size })

def addFolder (w : Workspace) (parent : Option Nat) (f : Folder) : Workspace :=
  w.addSlot parent (.folder { f with handle := w.size } [])

def remove (w : Workspace) (h : Nat) : Workspace :=
  { w with
    children := w.children.erase h
    slots := w.slots.map (Slot.eraseChild h) }

def touch (w : Workspace) (h : Nat) (modified created : Option Time) : Workspace :=
  w.modifySlot h (Slot.touch modified created)

/-- Gives the top level other entries, or the same ones in another order. -/
def arrange (w : Workspace) (children : List Nat) : Workspace := { w with children }

/-- Gives the folder at the top another path. -/
def rename (w : Workspace) (folder : Folder) : Workspace := { w with folder }

end Workspace

end Arrange
