import PatternBuild.Shell.Activity

/-!
# Programs: what command names lead to

The programs of the system are files whose content names them, so copies and links of a program lead
to it as well.  Any other file that may be run is a script.
-/

namespace PatternBuild.Shell

open Text

/-- the programs that are there, by name -/
def programNames : List String :=
  ["[", "arch", "awk", "b2sum", "base32", "base64", "basename", "basenc", "bash", "cat", "chgrp", "chmod",
    "chown", "cksum", "cmp", "comm", "cp", "csplit", "cut", "dash", "date", "dd", "df", "diff",
    "dir", "dirname", "du", "echo", "egrep", "env", "expand", "expr", "factor", "false", "fgrep",
    "find", "fmt", "fold", "getconf", "getopt", "grep", "groups", "gunzip", "gzip", "head", "hostname", "id", "install", "join",
    "kill", "link", "ln", "logname", "ls", "m4", "mawk", "md5sum", "mkdir", "mkfifo", "mktemp", "more",
    "mv", "nawk", "nice", "nl", "nohup", "nproc", "numfmt", "od", "paste", "patch", "pathchk", "pr", "printenv",
    "printf", "ps", "pwd", "rbash", "readlink", "realpath", "rev", "rgrep", "rm", "rmdir", "sed", "seq",
    "sdiff", "setsid", "sh", "sha1sum", "sha224sum", "sha256sum", "sha384sum", "sha512sum", "shuf", "sleep",
    "sort", "split", "stat", "stdbuf", "strings", "sum", "sync", "tac", "tail", "tar", "tee", "test", "timeout",
    "touch", "tr", "true", "truncate", "tsort", "tty", "uname", "unexpand", "uniq", "unlink", "vdir",
    "wc", "which", "who", "whoami", "xargs", "yes", "zcat"]

/-- the first octets of a program, which are no text -/
def programMark : Bytes :=
  [0x7f, 0x45, 0x4c, 0x46, 2, 1, 1, 0, 0, 0, 0, 0, 0, 0, 0, 0, 3, 0, 0x3e, 0, 1, 0, 0, 0, 0xff]

/-- what the file of a program holds -/
def programContent (name : String) : Bytes := programMark ++ encode name

/-- what a command name leads to -/
inductive Located where
  | program (name : String)
  /-- a file that names its interpreter, or none, with the path that it was found by -/
  | script (path : String) (interpreter : List String)
  deriving DecidableEq, Repr

/-- the words after `#!` in the first line of a file -/
def interpreterOf (content : Bytes) : List String :=
  match content with
  | 35 :: 33 :: rest =>
    let isBlank (c : Char) : Bool := c == ' ' || c == '\t'
    let cs := (ofBytes (rest.takeWhile (· ≠ 10))).dropWhile isBlank
    let program := cs.takeWhile fun c => !isBlank c
    let arg := (cs.drop program.length).dropWhile isBlank
    let arg := (arg.reverse.dropWhile isBlank).reverse
    String.ofList program :: (if arg.isEmpty then [] else [String.ofList arg])
  | _ => []

/-- directories of the system, each after those above it, that all may read -/
def systemDirs : List String :=
  ["boot", "dev", "dev/shm", "etc", "home", "media", "mnt", "opt", "proc", "run", "run/lock", "srv", "sys", "tmp",
    "usr", "usr/bin", "usr/games", "usr/include", "usr/lib", "usr/lib64", "usr/libexec", "usr/local", "usr/local/bin",
    "usr/local/etc", "usr/local/include", "usr/local/lib", "usr/local/sbin", "usr/local/share", "usr/sbin",
    "usr/share", "usr/src", "var", "var/cache", "var/lib", "var/log", "var/mail", "var/opt", "var/spool",
    "var/tmp"]

/-- links of the system, each with what it leads to -/
def systemLinks : List (String × String) :=
  [("bin", "usr/bin"), ("dev/fd", "/proc/self/fd"), ("dev/stderr", "/proc/self/fd/2"),
    ("dev/stdin", "/proc/self/fd/0"), ("dev/stdout", "/proc/self/fd/1"), ("lib", "usr/lib"),
    ("lib64", "usr/lib64"), ("sbin", "usr/sbin"), ("usr/bin/awk", "mawk"), ("usr/bin/nawk", "mawk"),
    ("usr/bin/rbash", "bash"), ("usr/bin/sh", "dash"), ("usr/lib/sh", "dash"), ("var/lock", "/run/lock"),
    ("var/run", "/run")]

/-- the directories in which everybody may make files -/
def sharedMode : Nat := 0o1777

/-- a disk with the directories of the system, its devices and the programs -/
def withSystem (d : Disk) : Disk :=
  let locationOf (path : String) : Location := path.splitOn "/"
  let d := systemDirs.foldl (fun d dir =>
    let mode := if dir = "tmp" || dir = "var/tmp" || dir = "dev/shm" || dir = "run/lock" then sharedMode
      else Disk.dirMode
    match d.node? (locationOf dir) with
    | some _ => d
    | none => d.put (locationOf dir) (.dir mode Disk.dawn)) d
  let d := d.put ["root"] (.dir 0o700 Disk.dawn)
  let d := ["null", "zero", "full", "random", "urandom", "tty"].foldl (fun d name =>
    d.put ["dev", name] (.device name)) d
  let d := programNames.foldl (fun d name =>
    let (d, n) := d.newFile 0o755 (programContent name)
    d.put ["usr", "bin", name] (.file n)) d
  systemLinks.foldl (fun d (path, target) => d.put (locationOf path) (.link target Disk.dawn)) d

/-- the program that a file holds -/
def programIn (path : String) (content : Bytes) : Located :=
  if programMark.isPrefixOf content then
    .program (String.ofList (ofBytes (content.drop programMark.length)))
  else .script path (interpreterOf content)

/-- the program at a path -/
def locatePath (d : Disk) (path : String) : Except DiskFault Located :=
  match d.stat path with
  | .ok (l, .file n) =>
    if d.allows l Disk.entering then .ok (programIn path (d.file n).content) else .error .forbidden
  | .ok _ => .error .forbidden
  | .error f => .error f

/-- the most octets in one argument or variable, and in all of them with what points to them -/
def argumentLimit : Nat := 131072
def allArgumentsLimit : Nat := 2097152

/-- whether a program can be given some words and variables -/
def fitsArguments (words : List String) (environment : List (String × String)) : Bool :=
  let sizes := words.map (·.length + 1) ++ environment.map fun (name, value) =>
    name.length + value.length + 2
  sizes.all (· ≤ argumentLimit) && sizes.foldl (fun n k => n + k + 8) 0 < allArgumentsLimit

/-- the path of a name in a directory -/
def inDir (dir name : String) : String :=
  if dir = "" then name else if dir.endsWith "/" then dir ++ name else dir ++ "/" ++ name

/-- the program of a name, searched in directories if it has no slash, with its path -/
def locate (d : Disk) (searched : String) (name : String) : Except DiskFault (String × Located) :=
  if name.contains '/' then (locatePath d name).map fun l => (name, l)
  else if name.isEmpty then .error .missing
  else
    (searched.splitOn ":").foldr (fun dir others =>
      let path := inDir dir name
      match locatePath d path with
      | .ok l => .ok (path, l)
      | .error f =>
        match others with
        | .ok l => .ok l
        | .error g => .error (if f = .forbidden then f else g)) (.error .missing)

/-- the directories searched where the environment names none -/
def defaultPath : String := "/usr/local/sbin:/usr/local/bin:/usr/sbin:/usr/bin:/sbin:/bin"

/-- the paths of a program, as the directories give them -/
def pathsOf (d : Disk) (searched name : String) : List String :=
  let candidates := if name.contains '/' then [name]
    else if name.isEmpty then [] else (searched.splitOn ":").map fun dir => inDir dir name
  candidates.filter fun path => (locatePath d path).isOk

/-- the shells, and whether they know the language with extensions -/
def shellLanguage? : String → Option Bool
  | "sh" => some false
  | "dash" => some false
  | "bash" => some true
  | "rbash" => some true
  | _ => none

end PatternBuild.Shell
