import Transcript.Shell.Utilities

/-!
# The host

The part of the file tree that is there before anything else: the directories of a system, its programs,
and the file that is always empty.
-/

namespace Transcript.Shell.Host

/-- The home directory. -/
def home : List Char := "/root".toList

/-- The directories of the system. -/
def directories : List String :=
  ["/dev", "/etc", "/home", "/root", "/tmp", "/usr", "/usr/bin", "/usr/local", "/usr/local/bin",
    "/usr/sbin", "/var"]

/-- The programs that run other commands. -/
def runners : List String :=
  ["sh", "env", "nohup", "nice", "setsid", "timeout", "xargs", "kill"]

/-- The names of the programs, each with the program that stands under it. -/
def programs : List (String × String) :=
  ((runners ++ Utilities.names).map fun n => (n, n)) ++ [("dash", "sh"), ("bash", "sh")]

/-- The names of a path from the root. -/
def names (path : String) : List Path.Name :=
  Path.pieces path.toList

/-- The file tree of the system. -/
def tree : FileTree :=
  ⟨directories.map (fun d => (names d, Node.directory)) ++
    [(names "/bin", .link "usr/bin".toList), (names "/sbin", .link "usr/sbin".toList),
      (names "/dev/null", .nothing)] ++
    programs.map fun p => (names "/usr/bin" ++ [p.1.toList], .program p.2)⟩

end Transcript.Shell.Host
