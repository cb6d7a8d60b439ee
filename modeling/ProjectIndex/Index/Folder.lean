import ProjectIndex.Index.File
import ProjectIndex.Glob
import ProjectIndex.Source.Utf8

/-!
A project folder: its files with their bytes and its folders, as a value.

Files and folders are named by their segments below the project root. Every folder that holds a
file or a named folder is a folder too, and a folder value carries that fact: the folders above
each file are among its folders, so files and folders form one tree from the root.

Discovery walks that tree top-down from the root. In each folder it takes the files directly
inside, then enters the subfolders by name, in sorted order, leaving out the skipped ones
(dependencies, version control, build output, caches, virtual environments) and everything below
them. Of the files it meets it keeps those whose project-relative path matches an include glob and
no exclude glob, and returns the paths sorted.

Reading a path resolves it one segment at a time, as the file system does: a segment must name a
folder before the path goes on inside it, `..` goes back up (and past the root leads nowhere
known), and the last segment must name a file. The bytes are read as strict UTF-8 with universal
line ends (`\r\n` and a lone `\r` become `\n`).

Owns: `Folder`, `Folder.walkFrom`, `Folder.discover`, `Folder.read`, `selects`.
-/

namespace ProjectIndex

open ProjectIndex.Path

/-- The folders discovery never enters. -/
def skippedFolders : List String :=
  ["node_modules", ".git", ".next", ".turbo", ".vercel", ".cache", "dist", "build", "out",
   "coverage", ".venv", "venv", "__pycache__"]

/-- A project-relative path is selected: it matches an include glob and no exclude glob. -/
def selects (includeGlobs excludeGlobs : List String) (path : String) : Bool :=
  !Glob.acceptsAny excludeGlobs path && Glob.acceptsAny includeGlobs path

/-- The segments of a path below the root. -/
def pathSegments (path : String) : List String := (SegmentedPath.ofString path).segments

/-- The proper prefixes of segments, shortest first, the empty one left out. -/
def properPrefixes (segs : List String) : List (List String) :=
  (List.range segs.length).filterMap fun n => if n == 0 then none else some (segs.take n)

/-- A project folder. -/
structure Folder where
  /-- Each file's segments and bytes. -/
  files : List (List String × List UInt8)
  /-- Each folder's segments. -/
  folders : List (List String)
  /-- The folders above a file are folders. -/
  enclosed : ∀ e ∈ files, ∀ p ∈ properPrefixes e.1, p ∈ folders

/-- The folder holding the given files and folders. -/
def Folder.ofEntries (files : List (String × List UInt8)) (folders : List String) : Folder :=
  let fileSegs := files.map fun (p, bytes) => (pathSegments p, bytes)
  let named := folders.map pathSegments
  { files := fileSegs,
    folders := fileSegs.flatMap (properPrefixes ·.1) ++ named.flatMap (fun s => properPrefixes s ++ [s]),
    enclosed := fun e listed _ above => List.mem_append_left _ (List.mem_flatMap.mpr ⟨e, listed, above⟩) }

/-- The bytes of the file with these segments. -/
def Folder.file? (f : Folder) (segs : List String) : Option (List UInt8) :=
  (f.files.find? (·.1 == segs)).map (·.2)

/-- There is a folder with these segments; the root is one. -/
def Folder.isFolder (f : Folder) (segs : List String) : Bool :=
  segs.isEmpty || f.folders.contains segs

/-- The number of segments of the deepest folder; the walk goes no deeper. -/
def Folder.depth (f : Folder) : Nat := f.folders.foldr (fun s deepest => max s.length deepest) 0

theorem Folder.length_le_depth {f : Folder} {s : List String} (listed : s ∈ f.folders) :
    s.length ≤ f.depth := by
  unfold Folder.depth
  generalize f.folders = folders at listed ⊢
  induction folders with
  | nil => cases listed
  | cons t ts ih =>
    rcases List.mem_cons.mp listed with rfl | later
    · exact Nat.le_max_left _ _
    · exact Nat.le_trans (ih later) (Nat.le_max_right _ _)

/-- The names of the folders directly inside a folder, each once. -/
def Folder.subfolders (f : Folder) (dir : List String) : List String :=
  (f.folders.filterMap fun s => if s.dropLast == dir then s.getLast? else none).eraseDups

theorem Folder.mem_folders_of_mem_subfolders {f : Folder} {dir : List String} {name : String}
    (inside : name ∈ f.subfolders dir) : dir ++ [name] ∈ f.folders := by
  obtain ⟨s, listed, named⟩ := List.mem_filterMap.mp (List.mem_eraseDups.mp inside)
  by_cases under : s.dropLast = dir
  · rw [if_pos (beq_iff_eq.mpr under)] at named
    obtain ⟨parent, rfl⟩ := List.getLast?_eq_some_iff.mp named
    rw [List.dropLast_concat] at under
    rw [← under]
    exact listed
  · rw [if_neg (by simpa using under)] at named
    cases named

/-- The subfolders the walk enters, by name in sorted order: the skipped ones are left out. -/
def Folder.entered (f : Folder) (dir : List String) : List String :=
  ((f.subfolders dir).filter (!skippedFolders.contains ·)).mergeSort fun a b => decide (a ≤ b)

/-- The files a top-down walk meets from a folder: those directly inside, then those the walk
meets from each entered subfolder. -/
def Folder.walkFrom (f : Folder) (dir : List String) : List (List String) :=
  (f.files.filter (·.1.dropLast == dir)).map (·.1) ++
    (f.entered dir).attach.flatMap fun name => f.walkFrom (dir ++ [name.1])
termination_by f.depth + 1 - dir.length
decreasing_by
  have entered := (List.mem_filter.mp (List.mem_mergeSort.mp name.2)).1
  have deep := f.length_le_depth (f.mem_folders_of_mem_subfolders entered)
  rw [List.length_append, List.length_singleton] at deep ⊢
  omega

/-- The files discovery finds, sorted. -/
def Folder.discover (f : Folder) (includeGlobs excludeGlobs : List String) : List String :=
  let found := (f.walkFrom []).filterMap fun segs =>
    let rel := "/".intercalate segs
    if selects includeGlobs excludeGlobs rel then some rel else none
  found.mergeSort fun a b => decide (a ≤ b)

/-- Follows segments from a folder to the place they name, or the reason there is none. -/
def Folder.resolve (f : Folder) : List String → List String → Except String (List String)
  | here, [] => .ok here
  | here, ".." :: rest =>
    if here.isEmpty then .error "No such file or directory" else f.resolve here.dropLast rest
  | here, seg :: rest =>
    let next := here ++ [seg]
    if rest.isEmpty then .ok next
    else if f.isFolder next then f.resolve next rest
    else if (f.file? next).isSome then .error "Not a directory"
    else .error "No such file or directory"

/-- Reads a file as text, by its project-relative path. -/
def Folder.read (f : Folder) : FileReader := fun path =>
  match f.resolve [] (pathSegments path) with
  | .error why => .error (.unreadable why)
  | .ok segs =>
    match f.file? segs with
    | some bytes =>
      match Source.decodeUtf8 bytes with
      | .ok text => .ok (String.ofList (Source.translateNewlines text.toList))
      | .error why => .error (.notUtf8 why)
    | none =>
      if f.isFolder segs then .error (.unreadable "Is a directory")
      else .error (.unreadable "No such file or directory")

end ProjectIndex
