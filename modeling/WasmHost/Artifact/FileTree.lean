import WasmHost.Artifact.Loader

/-!
# File trees

A directory with files, directories and symbolic links, and how files in it are found, read and
written. A path is walked name by name; a link is replaced by its target, at most forty times. The
walk keeps the plain names that lead from the top to where it is, and the parent of the top is the
top.
-/

namespace WasmHost

/-- A file, a directory or a symbolic link. -/
inductive FileTree
  | file (bytes : ByteArray)
  | dir (entries : List (String × FileTree))
  | link (target : String)

namespace FileTree

/-- The names and subtrees of a directory. -/
abbrev Entries := List (String × FileTree)

/-- Most links that one walk follows. -/
def linkLimit : Nat := 40

/-- Most bytes in one name of a path. -/
def nameLimit : Nat := 255

/-- Most bytes in a path. -/
def pathLimit : Nat := 4095

/-- The names of a path; an empty name stands for the directory itself. -/
def names (path : String) : List String :=
  path.splitOn "/"

/-- Where a walk ends: the plain names that lead there from the top, innermost first, and what is
there. A vacant place is one in a directory that has no such name. -/
inductive Place
  | file (names : List String) (bytes : ByteArray)
  | dir (names : List String)
  | vacant (names : List String)

/-- What plain names lead to, outermost first. -/
def find? (entries : Entries) : List String → Option FileTree
  | [] => some (.dir entries)
  | [name] => entries.lookup name
  | name :: rest =>
    match entries.lookup name with
    | some (.dir inner) => find? inner rest
    | _ => none

/-- Puts a subtree where plain names lead, outermost first. -/
def insert (entries : Entries) : List String → FileTree → Entries
  | [], _ => entries
  | [name], tree => (name, tree) :: entries.filter (·.1 ≠ name)
  | name :: rest, tree =>
    let inner := match entries.lookup name with
      | some (.dir inner) => inner
      | _ => []
    (name, .dir (insert inner rest tree)) :: entries.filter (·.1 ≠ name)

/-- Walks from the directory that the plain names `here` lead to, innermost first. -/
def walk (top : Entries) (links : Nat) (here : List String) : List String → Except IoError Place
  | [] => .ok (.dir here)
  | name :: rest =>
    if name = "" ∨ name = "." then walk top links here rest
    else if name = ".." then walk top links here.tail rest
    else if nameLimit < name.utf8ByteSize then .error (.os 36)
    else
      let there := name :: here
      match find? top there.reverse with
      | none => if rest.isEmpty then .ok (.vacant there) else .error (.os 2)
      | some (.file bytes) => if rest.isEmpty then .ok (.file there bytes) else .error (.os 20)
      | some (.dir _) => walk top links there rest
      | some (.link target) =>
        match links with
        | 0 => .error (.os 40)
        | links + 1 =>
          if target.startsWith "/" then walk top links [] (names target ++ rest)
          else walk top links here (names target ++ rest)
termination_by components => (links, components.length)

/-- Walks a path from the top. -/
def locate (top : Entries) (path : List String) : Except IoError Place :=
  walk top linkLimit [] path

/-- The tree as a file system, with paths from the top. A directory can be opened but not read. -/
def files (top : Entries) : Files := fun path =>
  if '\x00' ∈ path.toList then .error .nulInName
  else if pathLimit < path.utf8ByteSize then .error (.os 36)
  else
    match locate top (names path) with
    | .ok (.file _ bytes) => .ok (.ok bytes)
    | .ok (.dir _) => .ok (.error (.os 21))
    | .ok (.vacant _) => .error (.os 2)
    | .error error => .error error

/-- Makes a directory and those on the way to it, as far as they are missing. -/
def makeDir (top : Entries) (path : List String) : Entries :=
  (List.range path.length).foldl (fun top n => step top (path.take (n + 1))) top
where
  /-- Makes a directory whose parent is there. -/
  step (top : Entries) (path : List String) : Entries :=
    match locate top path with
    | .ok (.vacant place) => insert top place.reverse (.dir [])
    | _ => top

/-- Writes a file, in place of the one that the path leads to, if any, and with the directories on
the way to it. -/
def writeFile (top : Entries) (path : String) (bytes : ByteArray) : Entries :=
  let top := makeDir top (names path).dropLast
  match locate top (names path) with
  | .ok (.file place _) => insert top place.reverse (.file bytes)
  | .ok (.vacant place) => insert top place.reverse (.file bytes)
  | _ => top

/-- Makes a link, with the directories on the way to it, unless its name is taken. -/
def makeLink (top : Entries) (path target : String) : Entries :=
  let top := makeDir top (names path).dropLast
  match locate top (names path).dropLast, (names path).getLast? with
  | .ok (.dir here), some name =>
    let place := (name :: here).reverse
    if (find? top place).isSome then top else insert top place (.link target)
  | _, _ => top

end FileTree

end WasmHost
