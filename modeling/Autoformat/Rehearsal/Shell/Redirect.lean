import Autoformat.Rehearsal.Shell.Expand

/-!
# Redirections

The words of all redirections of a command are expanded before the first file is opened. A file that
cannot be opened is complained about, and the redirections after it are not done.
-/

namespace Autoformat.Rehearsal.Shell

/-- What a stream is led to. -/
inductive Destination where
  | path (path : String)
  | stream (n : Nat)
  | closed
  /-- To the text of a document. -/
  | text (content : ByteArray)

/-- A redirection whose word is expanded. -/
structure Planned where
  stream : Nat
  kind : Redirection
  destination : Destination

/-- Expands the word of a redirection. -/
def planOne (spawn : Spawner) (r : Redirect Word) : Process Planned := do
  match r.kind with
  | .document n => return ⟨r.stream, r.kind, .text (← expandDocument spawn n).toUTF8⟩
  | .duplicate =>
    match (← expandText spawn r.target).toList with
    | ['-'] => return ⟨r.stream, r.kind, .closed⟩
    | [c] =>
      if c.isDigit then return ⟨r.stream, r.kind, .stream (c.toNat - '0'.toNat)⟩
      else failWith "Syntax error: Bad fd number"
    | _ => failWith "Syntax error: Bad fd number"
  | _ => return ⟨r.stream, r.kind, .path (← expandText spawn r.target)⟩

/-- Expands the words of redirections. -/
def planAll (spawn : Spawner) : List (Redirect Word) → Process (List Planned)
  | [] => return []
  | r :: rest => do
    let p ← planOne spawn r
    return p :: (← planAll spawn rest)

/-- The reason for which a file cannot be opened, with a wording for a path that leads nowhere. -/
def openingReason (missing : String) (e : FileError) : String :=
  match e with
  | .refused _ 2 => missing
  | .refused _ 20 => missing
  | e => reason e

/-- The open file for a place of the tree. -/
def openedFor (kind : Redirection) (p : Place) : Opened :=
  { target := .file p
    reads := kind = .input || kind = .both
    writes := kind ≠ .input
    appends := kind = .append }

/-- The open file for a device. -/
def openedDevice (kind : Redirection) (d : Device) : Process (Except FileError Opened) := do
  match d with
  | .stream n =>
    match ← openedAt? n with
    | some (_, o) => return .ok o
    | none => return .error .notFound
  | d => return .ok { openedFor kind (.outside []) with target := .device d }

/-- Opens what stands at the end of a path. -/
def openPath (kind : Redirection) (path : String) : Process (Except FileError Opened) := do
  match ← placeOf path with
  | .error e => return .error e
  | .ok p =>
    let t ← tree
    let keepsFiles := (← theShell).options.contains 'C' && kind = .output
    match t.found p, kind with
    | .device d, _ => openedDevice kind d
    | .nothing, .input => return .error .notFound
    | _, .input => return .ok (openedFor kind p)
    | found, _ =>
      match found, keepsFiles, t.requireWritable p with
      | _, _, .error e => return .error e
      | .file .., true, _ => return .error (.refused "File exists" 17)
      | found, _, .ok () =>
        let isEmptied := kind = .output || kind = .overwrite
        match found, isEmptied with
        | .file .., false => return .ok (openedFor kind p)
        | _, _ =>
          match t.write p .empty with
          | .error e => return .error e
          | .ok t =>
            setTree t
            return .ok (openedFor kind p)
where
  /-- Where a path leads from the directory of the shell. -/
  placeOf (path : String) : Process (Except FileError Place) := do
    return (← tree).walk (← here) path

/-- Does a redirection, and tells what is wrong if it cannot be done. -/
def redirectOne (p : Planned) : Process (Option String) := do
  match p.destination with
  | .closed =>
    setStream p.stream none
    return none
  | .stream n =>
    match ← openedAt? n with
    | some (i, _) =>
      setStream p.stream (some i)
      return none
    | none => return some s!"{n}: Bad file descriptor"
  | .text content =>
    let b ← newBuffer content
    setStream p.stream (some (← openFile { target := .buffer b, reads := true }))
    return none
  | .path path =>
    match ← openPath p.kind path with
    | .ok o =>
      setStream p.stream (some (← openFile o))
      return none
    | .error e =>
      let verb := if p.kind = .input then "cannot open " else "cannot create "
      let missing := if p.kind = .input then "No such file" else "Directory nonexistent"
      return some (verb ++ path ++ ": " ++ openingReason missing e)

/-- Does redirections; a mistake in one of them is complained about. -/
def redirectAll : List Planned → Process Bool
  | [] => return true
  | p :: rest => do
    match ← redirectOne p with
    | none => redirectAll rest
    | some message =>
      warn message
      return false

/-- Leads some streams to where they led in an earlier state of the shell. -/
def restoreStreams (streams : List Nat) (earlier : List (Nat × Nat)) : Process Unit :=
  modifyShell fun s =>
    { s with
      streams :=
        (earlier.filter fun x => streams.contains x.1) ++ s.streams.filter fun x => !streams.contains x.1 }

/-- Runs a body with redirected streams, or another one when they cannot be redirected. -/
def redirected (plans : List Planned) (failed body : Process Nat) : Process Nat := do
  if plans.isEmpty then body
  else
    let earlier := (← theShell).streams
    andThen (do if ← redirectAll plans then body else failed)
      (restoreStreams (plans.map Planned.stream) earlier)

end Autoformat.Rehearsal.Shell
