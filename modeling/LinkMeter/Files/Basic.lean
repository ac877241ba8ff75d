import LinkMeter.Step
import LinkMeter.Text.Order
import LinkMeter.Text.Utf8

/-! # Files

Folders and files by the place where they are. A path is walked from the root: every component but the last has to be a
folder, two dots lead back to the folder above, a name may have 255 bytes and a path 4095. Whatever is done with a path is
done at the place where the walk ends. -/

namespace LinkMeter

/-- A path, which is told by how many strokes it starts with and by its components. -/
structure Path where
  /-- One stroke or two say that the path starts at the root; without a stroke it starts where the program runs, and
  that is the root too. -/
  strokes : Nat
  parts : List Text
deriving DecidableEq

namespace Path

/-- The path that a text gives. Empty components and single dots say nothing, and so do strokes at the start when there
are more than two. -/
def ofText (t : Text) : Path :=
  let strokes := (t.takeWhile (· == 47)).length
  ⟨if strokes ≤ 2 then strokes else 1, (Text.splitAt 47 t).filter fun c => c != [] && c != [46]⟩

/-- The path as text. -/
def toText (p : Path) : Text :=
  if p.strokes = 0 ∧ p.parts = [] then [46] else List.replicate p.strokes 47 ++ Text.join "/" p.parts

/-- The path of the folder that the last component is in. -/
def parent (p : Path) : Path := { p with parts := p.parts.dropLast }

/-- The last component. -/
def name (p : Path) : Text := p.parts.getLast?.getD []

/-- The path of something in the folder at this path. -/
def concat (p : Path) (name : Text) : Path := { p with parts := p.parts ++ [name] }

/-- The path of something in the folder as text, the text of the folder coming first. -/
def pathTextOf (p : Path) (name : Text) : Text := .cat [p.toText, if p.toText.getLast? = some 47 then "" else "/", name]

/-- The path with another last component. -/
def withName (p : Path) (name : Text) : Path := p.parent.concat name

/-- Takes a component onto others; two dots take back the last of those instead. -/
def followed (parts : List Text) (c : Text) : List Text := if c = ".." then parts.dropLast else parts ++ [c]

/-- The path from the root without two dots, each of which has taken back the component before it. -/
def straight (p : Path) : Path := ⟨max 1 p.strokes, p.parts.foldl followed []⟩

/-- Whether a code point has no form in bytes. -/
def isUnwritable (c : CodePoint) : Bool := Utf8.isSurrogate c && !Utf8.isStray c

/-- The most bytes that a path may have. -/
def longest : Nat := 4095

/-- What is wrong with the path, wherever it leads. -/
def flaw? (p : Path) : Option FileError :=
  let t := p.toText
  if t.any isUnwritable then some .unwritable
  else if t.contains 0 then some .zeroByte
  else if longest < (Utf8.toSystem t).length then some .nameTooLong
  else none

end Path

/-- Where something is: its name and then the names of the folders around it, outwards. How many there are is kept beside
them, which tells most places apart. -/
structure Place where
  names : List Text
  depth : Nat
  depth_eq : depth = names.length

namespace Place

/-- The place with the given names. -/
def ofNames (names : List Text) : Place := ⟨names, names.length, rfl⟩

/-- The place of the root, which has no name. -/
def root : Place := .ofNames []

/-- The place of something in the folder at this place. -/
def child (p : Place) (name : Text) : Place := ⟨name :: p.names, p.depth + 1, by simp [p.depth_eq]⟩

/-- The place of the folder around this place; around the root is the root itself. -/
def around (p : Place) : Place := ⟨p.names.tail, p.depth - 1, by simp [p.depth_eq]⟩

/-- Places with the same names are the same. -/
theorem ext_names : ∀ {p q : Place}, p.names = q.names → p = q
  | ⟨_, _, rfl⟩, ⟨_, _, rfl⟩, rfl => rfl

instance : DecidableEq Place := fun p q =>
  if h : p.depth = q.depth then
    if h' : p.names = q.names then .isTrue (ext_names h') else .isFalse fun e => h' (e ▸ rfl)
  else .isFalse fun e => h (e ▸ rfl)

/-- The names that lead to this place from a folder, inwards; none if the place is not below the folder. -/
def namesFrom (folder p : Place) : List Text :=
  if folder.names.isSuffixOf p.names then (p.names.take (p.depth - folder.depth)).reverse else []

end Place

/-- What can be at a place. -/
inductive Entry where
  | folder
  | file (content : Bytes)
deriving DecidableEq

/-- All folders and files but the root, each at its place. -/
structure Files where
  entries : List (Place × Entry)

namespace Files
variable {ω : Type}

/-- No files but the folder at `place` and those around it. -/
def within (place : Place) : Files :=
  ⟨(List.range place.depth).map fun n => (.ofNames (place.names.drop n), .folder)⟩

/-- What is at a place. -/
def at? (fs : Files) (place : Place) : Option Entry := if place = .root then some .folder else fs.entries.lookup place

/-- Takes away what is at a place. -/
def erase (fs : Files) (place : Place) : Files := ⟨fs.entries.filter (·.1 ≠ place)⟩

/-- Puts something at a place, where nothing or something of its kind has been. -/
def put (fs : Files) (place : Place) (e : Entry) : Files := ⟨(place, e) :: (fs.erase place).entries⟩

/-- The most bytes that a name may have. -/
def longestName : Nat := 255

/-- Goes into the folder at a place of the given depth. When nothing is there, the folders around it decide: a file in the
place of one of them is no folder. -/
def enterWithin (fs : Files) : (depth : Nat) → Place → Except FileError Unit
  | 0, _ => .ok ()
  | depth + 1, place =>
    match fs.at? place with
    | some .folder => .ok ()
    | some (.file _) => .error .notFolder
    | none => do
      fs.enterWithin depth place.around
      .error .missing

/-- Goes into the folder at a place. -/
def enter (fs : Files) (place : Place) : Except FileError Unit := fs.enterWithin place.depth place

/-- The place to which components lead from a folder. Nothing has to be there yet, but its folder has to, and so do the
folders that two dots lead out of. -/
def walk (fs : Files) (folder : Place) : List Text → Except FileError Place
  | [] => .ok folder
  | c :: rest => do
    let isTooLong := longestName < (Utf8.toSystem c).length
    if c = ".." || isTooLong || rest.isEmpty then fs.enter folder
    if c = ".." then walk fs folder.around rest
    else if isTooLong then .error .nameTooLong
    else walk fs (folder.child c) rest

/-- The place to which a path leads. -/
def place (fs : Files) (p : Path) : Except FileError Place :=
  match p.flaw? with
  | some e => .error e
  | none => fs.walk .root (p.parts.map Utf8.throughSystem)

/-- What is at the end of a path. -/
def find (fs : Files) (p : Path) : Except FileError Entry := do
  match fs.at? (← fs.place p) with
  | some e => .ok e
  | none => .error .missing

/-- Whether the path leads to a folder. -/
def isFolder (fs : Files) (p : Path) : Bool :=
  match fs.find p with
  | .ok .folder => true
  | _ => false

/-- Whether the path leads to something. A name that is too long is a fault. -/
def exists? (fs : Files) (p : Path) : Except Fault Bool :=
  match fs.find p with
  | .ok _ => .ok true
  | .error .nameTooLong => .error (.file .nameTooLong p.toText)
  | .error _ => .ok false

/-- The content of the file at the end of a path. -/
def read (fs : Files) (p : Path) : Except Fault Bytes :=
  match fs.find p with
  | .ok (.file content) => .ok content
  | .ok .folder => .error (.file .isFolder p.toText)
  | .error e => .error (.file e p.toText)

/-- Writes a file, over an earlier one if there is one. -/
def write (fs : Files) (p : Path) (content : Bytes) : Except Fault Files :=
  match fs.place p with
  | .error e => .error (.file e p.toText)
  | .ok place =>
    match fs.at? place with
    | some .folder => .error (.file .isFolder p.toText)
    | _ => .ok (fs.put place (.file content))

/-- Takes away the file at the end of a path. -/
def remove (fs : Files) (p : Path) : Except Fault Files :=
  match fs.place p with
  | .error e => .error (.file e p.toText)
  | .ok place =>
    match fs.at? place with
    | none => .error (.file .missing p.toText)
    | some .folder => .error (.file .isFolder p.toText)
    | some (.file _) => .ok (fs.erase place)

/-- Makes one folder. -/
def makeFolder (fs : Files) (p : Path) : Except FileError Files := do
  let place ← fs.place p
  match fs.at? place with
  | some _ => .error .occupied
  | none => .ok (fs.put place .folder)

/-- Takes over what came of an attempt to make a folder; one that is there already will do. -/
def settle (p : Path) : Except FileError Files → Step ω Files Unit
  | .ok fs => Step.set fs
  | .error e => do
    if e = .missing ∨ !(← Step.get).isFolder p then Step.fail (.file e p.toText)

/-- The most folders that are made inside each other in one go. -/
def deepest : Nat := 986

/-- Makes a folder and the folders above it, from the last component, given first, back to the first one that can be made;
no more than `room` are made in this way. -/
def makeAll (strokes : Nat) : (room : Nat) → List Text → Step ω Files Unit
  | _, [] => pure ()
  | 0, _ :: _ => Step.fail .foldersTooDeep
  | room + 1, c :: above => do
    let p : Path := ⟨strokes, (c :: above).reverse⟩
    match (← Step.get).makeFolder p with
    | .error .missing =>
      makeAll strokes room above
      settle p ((← Step.get).makeFolder p)
    | r => settle p r

/-- Makes a folder and the folders above it, so far as they are not there. Those made before a failure stay. -/
def makeFolders (p : Path) : Step ω Files Unit := makeAll p.strokes deepest p.parts.reverse

/-- The path to which a file is moved: into the folder at the target, if there is one. -/
def destination (fs : Files) (source target : Path) : Except Fault Path :=
  if fs.isFolder target then
    let inside := target.concat source.name
    match fs.find inside with
    | .ok _ => .error (.destinationTaken (target.pathTextOf source.name))
    | .error _ => .ok inside
  else .ok target

/-- Moves a file: into a folder at the target, which must not hold the name yet, or over a file there. -/
def move (fs : Files) (source target : Path) : Except Fault Files := do
  let target ← fs.destination source target
  let content ← fs.read source
  let rest ← fs.remove source
  rest.write target content

/-- Whether some file or folder has a name, wherever it is. -/
def hasName (fs : Files) (name : Text) : Bool := fs.entries.any fun e => e.1.names.head? == some name

/-- A name that no file or folder has, wherever it is. -/
def freshName (fs : Files) : Text :=
  let names := (List.range (fs.entries.length + 1)).map fun n => Text.cat ["tmp", .padded 8 n]
  (names.find? fun n => !fs.hasName n).getD "tmp"

/-- The paths below a folder, in ascending order; those of folders end in a stroke. -/
def tree (fs : Files) (folder : Place) : List Text :=
  let below := fs.entries.filterMap fun (place, e) =>
    match folder.namesFrom place with
    | [] => none
    | names => some (.cat [Text.join "/" names, if e = .folder then "/" else ""])
  below.mergeSort Text.le

end Files
end LinkMeter
